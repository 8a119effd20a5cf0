import CompileSession.Proofs.Program.Footprint
import CompileSession.Proofs.Text.Utf8

/-!
# How the running of a file ends

A file that cannot be compiled in a session ends in an error, and nothing is relocated or run for
it.  For any other the code of the run is told as it is: what the main function returned if it was
called, but just as well the code of a relocation that failed, and the code of failure if there is
no main function.
-/

namespace CompileSession

open Native

/-- Whether a native call is that of a program's main function. -/
def Native.Exchange.callsMain : Exchange → Bool
  | ⟨.main _ _, _⟩ => true
  | _ => false

namespace Program

variable {ν : Type} (code : ForeignCode ν)

theorem failWith_makes {α : Type} (error : List String → ProgramError) (site : NativeSite ν) :
    ∃ diagnostics after, failWith (α := α) code error site = (.error (error diagnostics), after) ∧
      exchanges after.journal = exchanges site.host.journal := by
  obtain ⟨after, taken, makes⟩ := call_makes code .takeDiagnostics site
  refine ⟨(translation code .takeDiagnostics site).1, after.host, ?_,
    makes.exchanges_eq.trans (List.append_nil _)⟩
  simp only [failWith, Site.takeDiagnostics, taken, continueWith]

theorem finish_makes {site : NativeSite ν} (runs : site.session.mode.canRun = true) :
    ∃ status made after, finish code site = (.ok status.code, after) ∧
      Ran site.session.engine.context 0 site.session.engine.relocated made status ∧
      exchanges after.journal = exchanges site.host.journal ++ made := by
  obtain ⟨after, ended, makes⟩ := run_makes code 0 runs
  refine ⟨(translation code (.run 0) site).1, (translation code (.run 0) site).2.1, after.host,
    ?_, Script.ran_program .., makes.exchanges_eq⟩
  simp only [finish, ended, continueWith]

/-- Ends as a program whose compile has been answered. -/
def conclude (error : List String → ProgramError) (status : Status) (site : NativeSite ν) :
    Ending ν Int32 :=
  if status.isErr then failWith code error site else finish code site

/-- A program ends with an error if its compile has failed, and else as its run does. -/
theorem conclude_makes (error : List String → ProgramError) (status : Status)
    {site : NativeSite ν} (runs : site.session.mode.canRun = true)
    (unrelocated : site.session.engine.relocated = false) :
    ∃ made, exchanges (conclude code error status site).2.journal =
        exchanges site.host.journal ++ made ∧
      ((status.isErr = true ∧ made = [] ∧
          ∃ mistake, (conclude code error status site).1 = .error mistake) ∨
        (status.isOk = true ∧ ∃ answer, Ran site.session.engine.context 0 false made answer ∧
          (conclude code error status site).1 = .ok answer.code)) := by
  unfold conclude
  split
  case isTrue failed =>
    obtain ⟨diagnostics, after, ended, kept⟩ := failWith_makes code (α := Int32) error site
    rw [ended]
    exact ⟨[], kept.trans (List.append_nil _).symm, .inl ⟨failed, rfl, _, rfl⟩⟩
  case isFalse succeeded =>
    obtain ⟨answer, made, after, ended, ran, kept⟩ := finish_makes code runs
    rw [unrelocated] at ran
    rw [Status.isErr_eq_not_isOk] at succeeded
    rw [ended]
    exact ⟨made, kept, .inr ⟨by simpa using succeeded, answer, ran, rfl⟩⟩

/-- What the running of a file ends with, and the native calls that were made for it. -/
inductive RanFile (path : Path) : Except ProgramError Int32 → List Exchange → Prop where
  | failed {error : ProgramError} {made : List Exchange} :
      Harmless made → RanFile path (.error error) made
  /-- The file was compiled, and the code of the run is told. -/
  | compiled {setup made : List Exchange} {context : Address} {name : CText} {given : Int32}
      {status : Status} :
      Harmless setup → name.bytes = Text.encode path.display → (Status.mk given).isOk = true →
      Ran context 0 false made status →
      RanFile path (.ok status.code) (setup ++ ⟨.addFile context name, given⟩ :: made)

theorem RanFile.after {path : Path} {setup made : List Exchange}
    {result : Except ProgramError Int32} (harmless : Harmless setup)
    (ran : RanFile path result made) : RanFile path result (setup ++ made) := by
  cases ran with
  | failed rest => exact .failed (harmless.append rest)
  | compiled rest name compiled ran =>
      rw [← List.append_assoc]
      exact .compiled (harmless.append rest) name compiled ran

/-- Adding a file to a session that is ready and running it ends as the running of a file does. -/
theorem runFile_ready {config : SessionConfig} {site : NativeSite ν} (ready : Ready config site)
    (runs : config.mode = .execute) (path : Path) :
    let ending := continueWith (site.checked (Binding.engine code) (.addFile path.display))
      fun status site => conclude code (.compile path status) status site
    ∃ made, RanFile path ending.1 made ∧
      exchanges ending.2.journal = exchanges site.host.journal ++ made := by
  obtain ⟨added, checked, makes⟩ := checked_makes code (.addFile path.display) site
  have harmless : Harmless (translation code (.addFile path.display) site).2.1 :=
    harmless_translate code _ rfl _
  have mode : added.session.mode.canRun = true := by
    obtain ⟨id, binding, session_eq⟩ := ready.session_eq
    rw [makes.session_eq, session_eq, runs]
    rfl
  have unrelocated : added.session.engine.relocated = false := by
    rw [makes.binding_eq]
    simp [Binding.note, ready.unrelocated, harmless.any_relocates]
  obtain ⟨made, kept, ended⟩ := conclude_makes code
    (.compile path (translation code (.addFile path.display) site).1)
    (translation code (.addFile path.display) site).1 mode unrelocated
  simp only [checked, continueWith]
  refine ⟨(translation code (.addFile path.display) site).2.1 ++ made, ?_, ?_⟩
  · rcases ended with ⟨-, rfl, mistake, failed⟩ | ⟨succeeded, answer, ran, ended⟩
    · rw [failed]
      exact .failed (harmless.append .nil)
    · -- a name with a zero byte would have been refused
      have plain : 0 ∉ Text.encode path.display := by
        intro zero
        rw [translation, site.session.engine.translate_of_not_plain _
          (fun plain => plain path.display (by simp [Call.texts]) zero)] at succeeded
        cases succeeded
      have one := site.session.engine.translate_addFile code (plant site.host.toMachine) plain
      rw [makes.binding_eq] at ran
      rw [ended]
      rw [translation, one] at succeeded ⊢
      have told : Ran site.session.engine.context 0 false made answer := ran
      exact .compiled .nil rfl succeeded told
  · rw [kept, makes.exchanges_eq, List.append_assoc]

/-- Running a file ends in an error unless the file was compiled, and nothing is relocated or run
before.  Once it was compiled the running ends with the code of the run, whether or not the main
function was called. -/
theorem runFile_ends (environment : Environment) (path : Path) (config : SessionConfig)
    (host : Host (Shared ν)) :
    ∃ made, RanFile path (runFile code environment path config host).1 made ∧
      exchanges (runFile code environment path config host).2.journal =
        exchanges host.journal ++ made := by
  obtain ⟨setup, harmless, way⟩ := withSession_cases code (α := Int32) environment
    { config with mode := .execute } host
  rw [runFile]
  rcases way with ⟨error, after, kept, stops⟩ | ⟨site, ready, kept, continues⟩
  · rw [stops]
    exact ⟨setup, .failed harmless, kept⟩
  · have logged : Ready { config with mode := .execute }
        (site.log .debug ("running " ++ path.display)) :=
      ⟨ready.session_eq, ready.unrelocated⟩
    obtain ⟨made, ran, ended⟩ := runFile_ready code logged rfl path
    rw [continues]
    refine ⟨setup ++ made, ran.after harmless, ended.trans ?_⟩
    rw [← List.append_assoc, ← kept]
    exact congrArg (· ++ made) (exchanges_log ..)

/-- A library that gives the same codes every time: one for relocations, one for main functions
and success for all else. -/
def steady (relocation main : Int32) : ForeignCode Unit where
  openImage _ _ := .ok 0
  missing? _ _ _ := none
  invoke {kind} _ call state memory :=
    { result :=
        match kind, call with
        | .address, _ => (16 : Address)
        | .code, .relocate _ _ => relocation
        | .code, .main _ _ => main
        | .code, _ => (0 : Int32)
        | .nothing, _ => ()
      state, memory, reports := [] }

/-- A host on which nothing has happened. -/
def freshHost : Host (Shared Unit) where
  memory := .zeroed 1
  shared := { foreign := () }

/-- A relocation that fails is told like what a main function returned. -/
theorem runFile_unlinkable :
    let ended := runFile (steady (-1) 0) [] (.ofText "a.c") {} freshHost
    ended.1 = .ok (-1) ∧ (exchanges ended.2.journal).any Exchange.callsMain = false := by
  simp only [runFile, Path.display_ofText]
  exact ⟨rfl, rfl⟩

end Program

end CompileSession
