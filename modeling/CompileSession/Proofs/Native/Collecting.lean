import CompileSession.Proofs.Native.Library
import CompileSession.Proofs.Native.Translation

/-!
# Collecting messages

Every native call may report messages.  Those that come with a sink go there, and nothing else is
done to a sink by an engine's calls but by the one that takes the messages out.
-/

namespace CompileSession

namespace Native

/-- Where the messages of a context go. -/
structure Channel where
  context : Address
  sink : Nat
deriving DecidableEq

/-- What a report puts into a sink, if anything: its message up to the first zero byte, where what
is not text is replaced. -/
def Report.textFor? (sink : Nat) (report : Report) : Option String :=
  match report.sink, report.message with
  | some owner, some message =>
    if owner = sink then some (Text.decodeLossy (message.takeWhile (· ≠ 0))) else none
  | _, _ => none

/-- What a report tells about a context: its message up to the first zero byte, where what is not
text is replaced.  A report without a message or without a sink tells nothing. -/
def Report.textOn? (context : Address) (report : Report) : Option String :=
  if report.context = context ∧ report.sink ≠ none then
    report.message.map fun message => Text.decodeLossy (message.takeWhile (· ≠ 0))
  else none

/-- The channel that a native call sets up, if it sets one up. -/
def NativeCall.channel? {kind : ResultKind} : NativeCall kind → Option Channel
  | .setErrorFunc context sink => some { context, sink }
  | _ => none

end Native

open Native

/-- What was reported while something happened. -/
def Entry.reports : Entry → List Report
  | .nativeCall _ _ reports => reports
  | _ => []

/-- The channel that was set up, if one was. -/
def Entry.channel? : Entry → Option Channel
  | .nativeCall call _ _ => call.channel?
  | _ => none

/-- What a session took out of its sink. -/
def Entry.taken (session : Nat) : Entry → List String
  | @Entry.engineCall owner _ .messages .takeDiagnostics (.returned messages) =>
    if owner = session then messages else []
  | _ => []

namespace Journal

/-- All that was reported, in order. -/
def reports (journal : Journal) : List Report :=
  journal.flatMap Entry.reports

/-- The messages that were reported to a sink, in order. -/
def reported (sink : Nat) (journal : Journal) : List String :=
  journal.flatMap fun entry => entry.reports.filterMap (Report.textFor? sink)

/-- The messages that were reported on a context, in order. -/
def reportedOn (context : Address) (journal : Journal) : List String :=
  journal.reports.filterMap (Report.textOn? context)

/-- The channels that were set up, in order. -/
def channels (journal : Journal) : List Channel :=
  journal.filterMap Entry.channel?

/-- The messages that a session took out of its sink, in order. -/
def taken (session : Nat) (journal : Journal) : List String :=
  journal.flatMap (Entry.taken session)

variable (first second : Journal) (entry : Entry) (rest : Journal)

@[simp] theorem reported_nil (sink : Nat) : reported sink [] = [] :=
  rfl

@[simp] theorem reported_append (sink : Nat) :
    reported sink (first ++ second) = reported sink first ++ reported sink second :=
  List.flatMap_append

@[simp] theorem reported_cons (sink : Nat) :
    reported sink (entry :: rest) =
      entry.reports.filterMap (Report.textFor? sink) ++ reported sink rest :=
  List.flatMap_cons

@[simp] theorem channels_nil : channels [] = [] :=
  rfl

@[simp] theorem channels_append : channels (first ++ second) = channels first ++ channels second :=
  List.filterMap_append

@[simp] theorem channels_cons :
    channels (entry :: rest) = entry.channel?.toList ++ channels rest := by
  cases told : entry.channel? <;> simp [channels, told]

@[simp] theorem taken_nil (session : Nat) : taken session [] = [] :=
  rfl

@[simp] theorem taken_append (session : Nat) :
    taken session (first ++ second) = taken session first ++ taken session second :=
  List.flatMap_append

@[simp] theorem taken_cons (session : Nat) :
    taken session (entry :: rest) = entry.taken session ++ taken session rest :=
  List.flatMap_cons

end Journal

namespace Native

/-- Adds messages to every sink. -/
def addTo (sinks : List (List String)) (more : Nat → List String) : List (List String) :=
  sinks.mapIdx fun sink messages => messages ++ more sink

section Sinks

variable (sinks : List (List String)) (more other : Nat → List String)

@[simp] theorem length_addTo : (addTo sinks more).length = sinks.length :=
  List.length_mapIdx

@[simp] theorem addTo_nil : addTo sinks (fun _ => []) = sinks := by
  apply List.ext_getElem?
  intro sink
  simp [addTo, List.getElem?_mapIdx]

theorem addTo_addTo :
    addTo (addTo sinks more) other = addTo sinks fun sink => more sink ++ other sink := by
  simp [addTo, List.mapIdx_mapIdx, Function.comp_def]

theorem getD_addTo {sink : Nat} (inside : sink < sinks.length) :
    (addTo sinks more).getD sink [] = sinks.getD sink [] ++ more sink := by
  simp [addTo, List.getD_eq_getElem?_getD, List.getElem?_mapIdx, List.getElem?_eq_getElem inside]

theorem modify_eq_addTo (sink : Nat) (text : String) :
    sinks.modify sink (· ++ [text]) =
      addTo sinks fun other => if sink = other then [text] else [] := by
  apply List.ext_getElem?
  intro other
  rw [List.getElem?_modify, addTo, List.getElem?_mapIdx]
  split <;> simp

theorem getD_empty (sink other : Nat) :
    (sinks.modify sink fun _ => []).getD other [] =
      if sink = other then [] else sinks.getD other [] := by
  simp only [List.getD_eq_getElem?_getD, List.getElem?_modify]
  cases sinks[other]? <;> simp

end Sinks

variable {ν : Type}

/-- What a machine has added to its journal, and to its sinks by that. -/
structure Collected (added : Journal) (before after : Machine (Shared ν)) : Prop where
  journal_eq : after.journal = before.journal ++ added
  ofMachine : ∀ entry ∈ added, entry.ofMachine = true
  sinks_eq : after.shared.sinks = addTo before.shared.sinks added.reported

namespace Collected

variable {before middle after : Machine (Shared ν)} {added more : Journal}

theorem refl (machine : Machine (Shared ν)) : Collected [] machine machine where
  journal_eq := (List.append_nil _).symm
  ofMachine := List.forall_mem_nil _
  sinks_eq := (addTo_nil _).symm

theorem trans (first : Collected added before middle) (second : Collected more middle after) :
    Collected (added ++ more) before after where
  journal_eq := by rw [second.journal_eq, first.journal_eq, List.append_assoc]
  ofMachine := List.forall_mem_append.mpr ⟨first.ofMachine, second.ofMachine⟩
  sinks_eq := by
    rw [second.sinks_eq, first.sinks_eq, addTo_addTo]
    simp only [Journal.reported_append]

theorem log (machine : Machine (Shared ν)) (level : Log.Level) (message : String)
    (fields : List (String × Log.Value)) :
    Collected [.event { level, message, fields }] machine (machine.log level message fields) where
  journal_eq := rfl
  ofMachine := List.forall_mem_singleton.mpr rfl
  sinks_eq := (addTo_nil _).symm

end Collected

/-- A report is logged and added to its sink, unless it comes without one or without a message. -/
theorem collect_eq (machine : Machine (Shared ν)) (report : Report) :
    ∃ events : List Log.Event, (∀ event ∈ events, event.fields = []) ∧
      (collect machine report).journal = machine.journal ++ events.map Entry.event ∧
      (collect machine report).shared.sinks =
        addTo machine.shared.sinks fun sink => (report.textFor? sink).toList := by
  obtain ⟨-, owner, message⟩ := report
  cases owner with
  | none => exact ⟨[], List.forall_mem_nil _, (List.append_nil _).symm, (addTo_nil _).symm⟩
  | some owner =>
      cases message with
      | none => exact ⟨[], List.forall_mem_nil _, (List.append_nil _).symm, (addTo_nil _).symm⟩
      | some message =>
          refine ⟨[_], List.forall_mem_singleton.mpr rfl, rfl,
            (modify_eq_addTo machine.shared.sinks owner _).trans ?_⟩
          congr 1
          funext sink
          simp only [Report.textFor?]
          split <;> rfl

theorem collectAll_eq (reports : List Report) (machine : Machine (Shared ν)) :
    ∃ events : List Log.Event, (∀ event ∈ events, event.fields = []) ∧
      (reports.foldl collect machine).journal = machine.journal ++ events.map Entry.event ∧
      (reports.foldl collect machine).shared.sinks =
        addTo machine.shared.sinks fun sink => reports.filterMap (Report.textFor? sink) := by
  induction reports generalizing machine with
  | nil => exact ⟨[], List.forall_mem_nil _, (List.append_nil _).symm, (addTo_nil _).symm⟩
  | cons report rest ih =>
      obtain ⟨first, bare, journal, sinks⟩ := collect_eq machine report
      obtain ⟨others, bareToo, journals, all⟩ := ih (collect machine report)
      refine ⟨first ++ others, List.forall_mem_append.mpr ⟨bare, bareToo⟩, ?_, ?_⟩
      · rw [List.foldl_cons, journals, journal, List.map_append, List.append_assoc]
      · rw [List.foldl_cons, all, sinks, addTo_addTo]
        congr 1
        funext sink
        cases told : report.textFor? sink <;> simp [told]

/-- A native call tells what was reported meanwhile, and that is what goes to the sinks. -/
theorem collected_invoke (code : ForeignCode ν) (library : Library) {kind : ResultKind}
    (call : NativeCall kind) (machine : Machine (Shared ν)) :
    ∃ added, added.channels = call.channel?.toList ∧
      Collected added machine (invoke code library call machine).2 := by
  let returned := code.invoke library.image call machine.shared.foreign machine.memory
  obtain ⟨events, -, journal, sinks⟩ := collectAll_eq returned.reports
    (Machine.record { machine with
      memory := returned.memory
      shared := { machine.shared with foreign := returned.state } }
      (.nativeCall call returned.result returned.reports))
  have quiet (sink : Nat) : Journal.reported sink (events.map Entry.event) = [] := by
    simp [Journal.reported, List.flatMap_map, Entry.reports]
  have unlinked : Journal.channels (events.map Entry.event) = [] := by
    simp [Journal.channels, List.filterMap_map, Function.comp_def, Entry.channel?]
  refine ⟨.nativeCall call returned.result returned.reports :: events.map Entry.event, ?_, ?_⟩
  · rw [Journal.channels_cons, unlinked, List.append_nil]
    rfl
  · refine ⟨?_, ?_, ?_⟩
    · exact journal.trans (List.append_assoc ..)
    · refine List.forall_mem_cons.mpr ⟨rfl, ?_⟩
      simp [Entry.ofMachine]
    · refine sinks.trans ?_
      congr 1
      funext sink
      rw [Journal.reported_cons, quiet, List.append_nil]
      rfl

/-- Messages were reported and collected; no channel was set up meanwhile. -/
def Collects (before after : Machine (Shared ν)) : Prop :=
  ∃ added, added.channels = [] ∧ Collected added before after

namespace Collects

variable {before middle after : Machine (Shared ν)}

theorem refl (machine : Machine (Shared ν)) : Collects machine machine :=
  ⟨[], rfl, .refl machine⟩

theorem trans (first : Collects before middle) (second : Collects middle after) :
    Collects before after := by
  obtain ⟨added, unlinked, collected⟩ := first
  obtain ⟨more, unlinkedToo, collectedToo⟩ := second
  refine ⟨added ++ more, ?_, collected.trans collectedToo⟩
  rw [Journal.channels_append, unlinked, unlinkedToo, List.append_nil]

theorem log (collects : Collects before after) (level : Log.Level) (message : String)
    (fields : List (String × Log.Value)) : Collects before (after.log level message fields) :=
  collects.trans ⟨_, rfl, .log after level message fields⟩

theorem invoke (collects : Collects before after) (code : ForeignCode ν) (library : Library)
    {kind : ResultKind} {call : NativeCall kind} (unlinked : call.channel? = none) :
    Collects before (invoke code library call after).2 := by
  obtain ⟨added, channels, collected⟩ := collected_invoke code library call after
  rw [unlinked] at channels
  exact collects.trans ⟨added, channels, collected⟩

theorem memory (collects : Collects before after) (memory : Memory) :
    Collects before { after with memory } := by
  obtain ⟨added, unlinked, collected⟩ := collects
  exact ⟨added, unlinked, collected.journal_eq, collected.ofMachine, collected.sinks_eq⟩

theorem journal_grows (collects : Collects before after) : before.journal <+: after.journal := by
  obtain ⟨added, -, collected⟩ := collects
  exact ⟨added, collected.journal_eq.symm⟩

end Collects

/-- What an engine does to a machine when it answers: memory changes, something is logged, without
any fields, or a native call is made that sets up no channel. -/
inductive Serves (code : ForeignCode ν) (machine : Machine (Shared ν)) :
    Machine (Shared ν) → Prop where
  | refl : Serves code machine machine
  | log {after : Machine (Shared ν)} (level : Log.Level) (message : String) :
      Serves code machine after → Serves code machine (after.log level message)
  | invoke {after : Machine (Shared ν)} (library : Library) {kind : ResultKind}
      (call : NativeCall kind) : Serves code machine after → call.channel? = none →
      Serves code machine (invoke code library call after).2
  | memory {after : Machine (Shared ν)} (memory : Memory) :
      Serves code machine after → Serves code machine { after with memory }

namespace Serves

variable {code : ForeignCode ν} {machine middle after : Machine (Shared ν)}

theorem trans (first : Serves code machine middle) (second : Serves code middle after) :
    Serves code machine after := by
  induction second with
  | refl => exact first
  | log level message _ ih => exact ih.log level message
  | invoke library call _ unlinked ih => exact ih.invoke library call unlinked
  | memory memory _ ih => exact ih.memory memory

theorem collects (serves : Serves code machine after) : Collects machine after := by
  induction serves with
  | refl => exact .refl machine
  | log level message _ ih => exact ih.log level message []
  | invoke library call _ unlinked ih => exact ih.invoke code library unlinked
  | memory memory _ ih => exact ih.memory memory

/-- Nothing that is logged meanwhile has a field. -/
theorem fields_eq_nil (serves : Serves code machine after) :
    ∃ added, after.journal = machine.journal ++ added ∧
      ∀ event, .event event ∈ added → event.fields = [] := by
  induction serves with
  | refl => exact ⟨[], (List.append_nil _).symm, fun _ member => by cases member⟩
  | log level message _ ih =>
      obtain ⟨added, journal, bare⟩ := ih
      refine ⟨added ++ [.event { level, message }], ?_, ?_⟩
      · rw [← List.append_assoc, ← journal]
        rfl
      · intro event member
        rcases List.mem_append.mp member with earlier | last
        · exact bare event earlier
        · cases List.mem_singleton.mp last
          rfl
  | @invoke before library kind call _ _ ih =>
      obtain ⟨added, journal, bare⟩ := ih
      let returned := code.invoke library.image call before.shared.foreign before.memory
      obtain ⟨events, bareToo, told, -⟩ := collectAll_eq returned.reports
        (Machine.record { before with
          memory := returned.memory
          shared := { before.shared with foreign := returned.state } }
          (.nativeCall call returned.result returned.reports))
      refine ⟨added ++ .nativeCall call returned.result returned.reports ::
        events.map Entry.event, ?_, ?_⟩
      · refine told.trans ?_
        simp only [Machine.record, journal, List.append_assoc, List.singleton_append]
      · intro event member
        rcases List.mem_append.mp member with earlier | later
        · exact bare event earlier
        · simp only [List.mem_cons, reduceCtorEq, false_or, List.mem_map, Entry.event.injEq,
            exists_eq_right] at later
          exact bareToo event later
  | memory memory _ ih => exact ih

end Serves

/-- Only what gives nothing sets up channels. -/
theorem NativeCall.channel?_of_code (call : NativeCall .code) : call.channel? = none := by
  cases call <;> rfl

namespace Binding

variable (code : ForeignCode ν) (binding : Binding) (machine : Machine (Shared ν))

theorem callCode_serves (call : NativeCall .code) :
    Serves code machine (callCode code call binding machine).2.2 :=
  Serves.refl.invoke binding.library _ call.channel?_of_code

theorem callNothing_serves {call : NativeCall .nothing} (unlinked : call.channel? = none) :
    Serves code machine (callNothing code call binding machine).2.2 :=
  Serves.refl.invoke binding.library _ unlinked

theorem withText_serves {operation text : String}
    {use : CText → Binding → Machine (Shared ν) → Answered ν Status}
    (uses : ∀ bytes, Serves code machine (use bytes binding machine).2.2) :
    Serves code machine (withText operation text use binding machine).2.2 := by
  unfold withText
  split
  · exact uses _
  · exact Serves.refl.log _ _

theorem textCode_serves (operation text : String) (call : CText → NativeCall .code) :
    Serves code machine (textCode code operation text call binding machine).2.2 :=
  withText_serves code binding machine fun _ => callCode_serves code binding machine _

theorem textNothing_serves {operation text : String} {call : CText → NativeCall .nothing}
    (unlinked : ∀ bytes, (call bytes).channel? = none) :
    Serves code machine (textNothing code operation text call binding machine).2.2 :=
  withText_serves code binding machine fun bytes =>
    callNothing_serves code binding machine (unlinked bytes)

theorem defineSymbol_serves (name value : String) :
    Serves code machine (defineSymbol code name value binding machine).2.2 := by
  unfold defineSymbol
  split
  · exact callNothing_serves code binding machine rfl
  · exact Serves.refl.log _ _

theorem undefineSymbol_serves (name : String) :
    Serves code machine (undefineSymbol code name binding machine).2.2 := by
  unfold undefineSymbol
  split
  · exact callNothing_serves code binding machine rfl
  · exact Serves.refl.log _ _

theorem addSymbol_serves (name : String) (value : SymbolValue) :
    Serves code machine (addSymbol code name value binding machine).2.2 := by
  cases value with
  | address address => exact textCode_serves ..
  | text text =>
      simp only [addSymbol]
      split
      · exact Serves.refl.log _ _
      · exact (Serves.refl.memory _).trans (textCode_serves ..)

theorem relocate_serves : Serves code machine (relocate code binding machine).2.2 :=
  callCode_serves code binding machine _

theorem getSymbol_serves (name : String) :
    Serves code machine (getSymbol code name binding machine).2.2 := by
  unfold getSymbol
  split
  · exact .refl
  · exact Serves.refl.invoke binding.library _ rfl

theorem callMain_serves (argc : Int32) :
    Serves code machine (callMain code argc binding machine).2.2 := by
  have looked := getSymbol_serves code binding machine "main"
  unfold callMain
  split
  case h_1 after missing =>
    rw [missing] at looked
    exact looked.log _ _
  case h_2 after found =>
    rw [found] at looked
    exact (looked.log _ _).trans (callCode_serves ..)

theorem run_serves (argc : Int32) : Serves code machine (run code argc binding machine).2.2 := by
  unfold run
  split
  · exact callMain_serves ..
  · have relocated := relocate_serves code binding machine
    split
    case h_1 status binding after done =>
      rw [done] at relocated
      split
      · exact relocated
      · exact relocated.trans (callMain_serves ..)

/-- Whatever an engine is asked for but the messages, it collects messages and does not take any. -/
theorem answer_serves {kind : AnswerKind} (call : Call kind) (others : kind ≠ .messages) :
    Serves code machine (answer code call binding machine).2.2 := by
  cases call with
  | setOutputType mode => exact (Serves.refl.log _ _).trans (callCode_serves ..)
  | setLibPath | setOptions => exact textNothing_serves code binding machine fun _ => rfl
  | defineSymbol name value => exact defineSymbol_serves ..
  | undefineSymbol name => exact undefineSymbol_serves ..
  | addIncludePath | addSysincludePath | addLibrary | addLibraryPath | addFile | compileString =>
      exact textCode_serves ..
  | addSymbol name value => exact addSymbol_serves ..
  | relocate => exact relocate_serves ..
  | getSymbol name => exact getSymbol_serves ..
  | run argc => exact run_serves ..
  | takeDiagnostics => exact absurd rfl others

end Binding

theorem Logs.collects {machine after : Machine (Shared ν)} (logs : Logs machine after) :
    Collects machine after := by
  induction logs with
  | nothing => exact .refl machine
  | log level message fields _ ih => exact ih.log level message fields

theorem byDefault_collects (code : ForeignCode ν) (machine : Machine (Shared ν))
    (environment : Environment) :
    Collects machine (Library.byDefault code environment machine).2 := by
  obtain ⟨after, default, logs, same⟩ := Library.byDefault_logs code machine environment
  obtain ⟨added, unlinked, collected⟩ := logs.collects
  rw [same]
  exact ⟨added, unlinked, collected.journal_eq, collected.ofMachine, collected.sinks_eq⟩

/-- What bringing up an engine has done to a machine: if there is an engine in the end, it was given
a channel to a new sink. -/
inductive Brought (machine : Machine (Shared ν)) :
    Except EngineError Binding × Machine (Shared ν) → Prop where
  | failed {error : EngineError} {after : Machine (Shared ν)} :
      Collects machine after → Brought machine (.error error, after)
  | linked {binding : Binding} {middle after : Machine (Shared ν)} {added : Journal} :
      Collects machine middle → binding.sink = middle.shared.sinks.length →
      added.channels = [{ context := binding.context, sink := binding.sink }] →
      Collected added (changeSinks (· ++ [[]]) middle) after →
      Brought machine (.ok binding, after)

namespace Binding

variable (code : ForeignCode ν) {machine middle : Machine (Shared ν)}

theorem create_brought (library : Library) (earlier : Collects machine middle) :
    Brought machine (create code library middle) := by
  have asked : Collects machine (invoke code library .new middle).2 :=
    earlier.invoke code library rfl
  unfold create
  dsimp only
  split
  case isTrue => exact .failed asked
  case isFalse =>
    obtain ⟨added, linked, collected⟩ := collected_invoke code library
      (.setErrorFunc (invoke code library .new middle).1
        (invoke code library .new middle).2.shared.sinks.length)
      (changeSinks (· ++ [[]]) (invoke code library .new middle).2)
    exact .linked asked rfl linked collected

theorem createByDefault_brought (environment : Environment) (machine : Machine (Shared ν)) :
    Brought machine (createByDefault code environment machine) := by
  have found := byDefault_collects code machine environment
  unfold createByDefault
  split
  case h_1 error after missing =>
    rw [missing] at found
    exact .failed found
  case h_2 library after located =>
    rw [located] at found
    exact create_brought code library found

end Binding

end Native

end CompileSession
