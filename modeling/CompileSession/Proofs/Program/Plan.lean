import CompileSession.Proofs.Config.Definitions
import CompileSession.Proofs.Program.Ending
import Mathlib.Data.List.Forall2

/-!
# The native calls of a configuration

A configuration and a file plan a list of native calls.  Running the file makes them one after the
other: all of them, and then those of the run, or all up to the first one that the program cannot go
on without and that has failed.
-/

namespace CompileSession

open Native

namespace Native

/-- A native call that is to be made. -/
structure Demand where
  {kind : ResultKind}
  call : NativeCall kind

def Exchange.demand (exchange : Exchange) : Demand :=
  ⟨exchange.call⟩

/-- Whether a native call has failed that a program cannot go on without. -/
def Exchange.stops : Exchange → Bool
  | ⟨.addIncludePath _ _, code⟩ | ⟨.addSysincludePath _ _, code⟩ | ⟨.addLibraryPath _ _, code⟩
  | ⟨.addLibrary _ _, code⟩ | ⟨.addFile _ _, code⟩ => decide (code < 0)
  | _ => false

/-- The calls of a plan were made in order, either all of them or all up to the first one that
stops. -/
inductive CarriedOut : Bool → List Demand → List Exchange → Prop where
  | finished : CarriedOut true [] []
  | stopped {exchange : Exchange} (rest : List Demand) : exchange.stops = true →
      CarriedOut false (exchange.demand :: rest) [exchange]
  | continued {whole : Bool} {exchange : Exchange} {rest : List Demand} {made : List Exchange} :
      exchange.stops = false → CarriedOut whole rest made →
      CarriedOut whole (exchange.demand :: rest) (exchange :: made)

namespace CarriedOut

variable {whole : Bool} {first second : List Demand} {made more : List Exchange}

theorem append (before : CarriedOut true first made) (after : CarriedOut whole second more) :
    CarriedOut whole (first ++ second) (made ++ more) := by
  generalize all : true = complete at before
  induction before with
  | finished => exact after
  | stopped => cases all
  | continued goes _ ih => exact .continued goes (ih all)

theorem cut (stopped : CarriedOut false first made) (second : List Demand) :
    CarriedOut false (first ++ second) made := by
  generalize some : false = complete at stopped
  induction stopped with
  | finished => cases some
  | stopped rest fails => exact .stopped (rest ++ second) fails
  | continued goes _ ih => exact .continued goes (ih some)

end CarriedOut

/-- The text of some bytes, without the zeros among them. -/
def CText.ofBytes (bytes : List UInt8) : CText where
  bytes := bytes.filter (· ≠ 0)
  zero_not_mem := by simp

end Native

namespace SessionConfig

/-- The native calls that a configuration plans for a context, macros apart. -/
def settingDemands (context : Address) (config : SessionConfig) : List Demand :=
  (config.libPath.map fun path => ⟨.setLibPath context (.ofBytes path.bytes)⟩).toList ++
    (config.options.map fun text => ⟨.setOptions context (.ofBytes (Text.encode text))⟩).toList ++
    config.includePaths.map (fun path => ⟨.addIncludePath context (.ofBytes path.bytes)⟩) ++
    config.sysincludePaths.map (fun path => ⟨.addSysincludePath context (.ofBytes path.bytes)⟩) ++
    config.libraryPaths.map (fun path => ⟨.addLibraryPath context (.ofBytes path.bytes)⟩) ++
    config.libraries.map (fun name => ⟨.addLibrary context (.ofBytes (Text.encode name))⟩)

/-- The native calls that some definitions plan. -/
def definitionDemands (context : Address) (entries : List (String × String)) : List Demand :=
  entries.map fun entry =>
    ⟨.defineSymbol context (.ofBytes (Text.encode entry.1)) (.ofBytes (Text.encode entry.2))⟩

/-- All paths are text, and nothing holds a zero byte. -/
structure Plain (config : SessionConfig) : Prop where
  spelled : ∀ path ∈ config.paths, path.text?.isSome = true
  paths : ∀ path ∈ config.paths, 0 ∉ path.bytes
  options : ∀ text ∈ config.options, 0 ∉ Text.encode text
  libraries : ∀ name ∈ config.libraries, 0 ∉ Text.encode name
  defines : ∀ entry ∈ config.defines.entries,
    0 ∉ Text.encode entry.1 ∧ 0 ∉ Text.encode entry.2

theorem Plain.bytes {config : SessionConfig} (plain : config.Plain) {path : Path}
    (member : path ∈ config.paths) :
    Text.encode path.display = path.bytes ∧ 0 ∉ Text.encode path.display := by
  obtain ⟨text, spelled⟩ := Option.isSome_iff_exists.mp (plain.spelled path member)
  have same := Path.encode_display spelled
  exact ⟨same, same ▸ plain.paths path member⟩

end SessionConfig

namespace Call

variable (context : Address)

end Call

namespace SessionConfig

variable {config : SessionConfig} (context : Address)

section

variable (call : String → Call .status) {result : ResultKind} (native : CText → NativeCall result)
  (script : ∀ text copy relocated messages,
    (call text).script context copy relocated messages = .onText .failed text fun bytes =>
      .call (native bytes) fun given => .done (AnswerKind.status.read given))
  (stops : ∀ bytes given,
    (AnswerKind.status.read given).isErr = Exchange.stops ⟨native bytes, given⟩)

include script stops

end

end SessionConfig

namespace Program

variable {ν : Type} (code : ForeignCode ν)

/-- Some planned calls were made at a site, perhaps not all of them. -/
def Carries (whole : Bool) (demands : List Demand) (site after : NativeSite ν) : Prop :=
  ∃ made, CarriedOut whole demands made ∧ Makes made site after

namespace Carries

variable {whole : Bool} {first second : List Demand} {site middle after : NativeSite ν}

theorem refl (site : NativeSite ν) : Carries true [] site site :=
  ⟨[], .finished, .refl site⟩

theorem append (before : Carries true first site middle)
    (more : Carries whole second middle after) :
    Carries whole (first ++ second) site after := by
  obtain ⟨made, carried, makes⟩ := before
  obtain ⟨others, carriedToo, makesMore⟩ := more
  exact ⟨made ++ others, carried.append carriedToo, makes.trans makesMore⟩

theorem cut (stopped : Carries false first site after) (second : List Demand) :
    Carries false (first ++ second) site after := by
  obtain ⟨made, carried, makes⟩ := stopped
  exact ⟨made, carried.cut second, makes⟩

theorem log (carries : Carries whole first site after) (level : Log.Level) (message : String)
    (fields : List (String × Log.Value)) :
    Carries whole first site (after.log level message fields) := by
  obtain ⟨made, carried, makes⟩ := carries
  exact ⟨made, carried, makes.log ..⟩

theorem noteRejection (carries : Carries whole first site after) (what : String)
    (fields : List (String × Log.Value)) (status : Status) :
    Carries whole first site (Session.noteRejection what fields status after) := by
  unfold Session.noteRejection
  split
  · exact carries.log ..
  · exact carries

theorem context_eq (carries : Carries whole first site after) :
    after.session.engine.context = site.session.engine.context := by
  obtain ⟨made, -, makes⟩ := carries
  rw [makes.binding_eq]
  rfl

theorem linking_eq (carries : Carries whole first site after) :
    after.host.dynamicLinking = site.host.dynamicLinking := by
  obtain ⟨made, -, makes⟩ := carries
  exact makes.linking_eq

end Carries

variable {site : NativeSite ν} {context : Address}

/-- The native calls with which every session starts. -/
def openingDemands (context : Address) (mode : OutputMode) (dynamicLinking : Bool) : List Demand :=
  ⟨.setOutputType context mode.raw⟩ ::
    if dynamicLinking then []
    else [⟨.setOptions context (.ofBytes (Text.encode staticOptions))⟩]

/-- What the running of a file with a plan ends with, and the native calls that are made for it. -/
inductive RanAsPlanned (context : Address) (plan : List Demand) :
    Except ProgramError Int32 → List Exchange → Prop where
  | stopped {error : ProgramError} {made : List Exchange} :
      CarriedOut false plan made → RanAsPlanned context plan (.error error) made
  | ran {setup made : List Exchange} {status : Status} :
      CarriedOut true plan setup → Ran context 0 false made status →
      RanAsPlanned context plan (.ok status.code) (setup ++ made)

/-- The native calls that a configuration and a file plan for running the file, once there is a
context and it has a place for its messages. -/
def plan (context : Address) (dynamicLinking : Bool) (config : SessionConfig) (path : Path) :
    List Demand :=
  openingDemands context .execute dynamicLinking ++ config.settingDemands context ++
    SessionConfig.definitionDemands context config.defines.entries ++
    [⟨.addFile context (.ofBytes path.bytes)⟩]

theorem RanAsPlanned.after {first second : List Demand} {setup made : List Exchange}
    {result : Except ProgramError Int32} (carried : CarriedOut true first setup)
    (ran : RanAsPlanned context second result made) :
    RanAsPlanned context (first ++ second) result (setup ++ made) := by
  cases ran with
  | stopped more => exact .stopped (carried.append more)
  | ran more ran =>
      rw [← List.append_assoc]
      exact .ran (carried.append more) ran

end Program

end CompileSession
