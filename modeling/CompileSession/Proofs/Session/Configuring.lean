import CompileSession.Proofs.Session.Counter
import CompileSession.Proofs.Session.Serialization

/-!
# Configuring a session

A configuration plans a list of calls.  The engine is asked them one after another, up to the first
one that it answers with a failure; what it says to the calls with which every session opens makes
no difference, and macros are defined once nothing can fail any more.
-/

namespace CompileSession

variable {η σ : Type}

namespace Call

variable {kind : AnswerKind}

/-- A call as it is made for a session that nobody uses yet. -/
def request (call : Call kind) : Request :=
  { origin := .caller 0, call }

def answer (call : Call kind) (reply : Reply kind.Answer) : Answer :=
  { call.request with reply }

end Call

/-- The answer that an entry tells of, if it went to a session.  Which one of the callers it went to
is not told. -/
def Entry.answer? (session : Nat) : Entry → Option Answer
  | .engineCall owner none call reply => if owner = session then some (call.answer reply) else none
  | .engineCall owner (some ticket) call reply =>
    if owner = session then some { origin := .unit ticket, call, reply } else none
  | _ => none

/-- What the engine of a session was asked and has answered, in order. -/
def Journal.answers (session : Nat) (journal : Journal) : List Answer :=
  journal.filterMap (Entry.answer? session)

/-- A call and what it was answered with. -/
structure Verdict (kind : AnswerKind) where
  call : Call kind
  value : kind.Answer

def Verdict.answer {kind : AnswerKind} (verdict : Verdict kind) : Answer :=
  verdict.call.answer (.returned verdict.value)

/-- A session's engine has answered some calls, and nothing else was done with the session. -/
structure Site.Asked (engine : Engine η σ) (made : List Answer) (before after : Site η σ) :
    Prop where
  answers : after.host.journal.answers before.session.id =
    before.host.journal.answers before.session.id ++ made
  served : engine.serveAll (made.map Answer.toRequest) before.bench = (made, after.bench)
  session : ∃ state, after.session = { before.session with engine := state }
  linking : after.host.dynamicLinking = before.host.dynamicLinking

namespace Site.Asked

variable {engine : Engine η σ} {made more : List Answer} {before middle after : Site η σ}

theorem refl (site : Site η σ) : Asked engine [] site site where
  answers := (List.append_nil _).symm
  served := rfl
  session := ⟨_, rfl⟩
  linking := rfl

theorem number_eq (asked : Asked engine made before after) :
    after.session.id = before.session.id := by
  obtain ⟨state, session⟩ := asked.session
  rw [session]

theorem trans (first : Asked engine made before middle) (second : Asked engine more middle after) :
    Asked engine (made ++ more) before after where
  answers := by
    rw [← first.number_eq, second.answers, first.number_eq, first.answers, List.append_assoc]
  served := by
    rw [List.map_append, Engine.serveAll_append, first.served, second.served]
  session := by
    obtain ⟨early, session⟩ := first.session
    obtain ⟨state, final⟩ := second.session
    rw [session] at final
    exact ⟨state, final⟩
  linking := second.linking.trans first.linking

theorem log (asked : Asked engine made before after) (level : Log.Level) (message : String)
    (fields : List (String × Log.Value)) :
    Asked engine made before (after.log level message fields) where
  answers := by
    rw [← asked.answers]
    exact (Journal.filterMap_concat ..).trans (List.append_nil _)
  served := asked.served
  session := asked.session
  linking := asked.linking

theorem noteStatus (asked : Asked engine made before after) (operation : String)
    (status : Status) : Asked engine made before (after.noteStatus operation status) := by
  unfold Site.noteStatus
  split
  · exact asked.log ..
  · exact asked

theorem noteRejection (asked : Asked engine made before after) (what : String)
    (fields : List (String × Log.Value)) (status : Status) :
    Asked engine made before (Session.noteRejection what fields status after) := by
  unfold Session.noteRejection
  split
  · exact asked.log ..
  · exact asked

/-- An engine that is asked something answers, and that is all. -/
theorem perform (asked : Asked engine made before after) {kind : AnswerKind} (call : Call kind) :
    Asked engine (made ++ [call.answer (after.perform engine none call).1]) before
      (after.perform engine none call).2 := by
  refine asked.trans ⟨?_, ?_, ⟨_, rfl⟩, rfl⟩
  · have quiet (entry : Entry) (ofMachine : entry.ofMachine = true) :
        entry.answer? after.session.id = none := by
      cases entry <;> first | rfl | cases ofMachine
    simp only [Site.perform, Journal.answers]
    rw [Journal.filterMap_concat, List.filterMap_append, Journal.filterMap_ofMachine quiet,
      List.append_nil]
    simp [Entry.answer?]
  · have served := after.serve_perform engine (.caller 0) none call
    simp only [List.map_cons, List.map_nil, Engine.serveAll]
    exact congrArg (fun served => ([served.1], served.2)) served

theorem call (asked : Asked engine made before after) {kind : AnswerKind} (call : Call kind) :
    Asked engine (made ++ [call.answer (after.call engine call).1]) before
      (after.call engine call).2 :=
  (asked.log ..).perform call

theorem checked (asked : Asked engine made before after) (call : Call .status) :
    Asked engine (made ++ [call.answer (after.checked engine call).1]) before
      (after.checked engine call).2 := by
  have called := asked.call call
  unfold Site.checked
  split
  case h_1 status site answered =>
    rw [answered] at called
    exact called.noteStatus ..
  case h_2 panic site answered =>
    rw [answered] at called
    exact called

end Site.Asked

/-- How calls are made whose answers make no difference: all of them are, or the engine gives up on
one. -/
inductive Made {kind : AnswerKind} (calls : List (Call kind)) :
    Reply Unit → List Answer → Prop where
  | all (verdicts : List (Verdict kind)) : verdicts.map Verdict.call = calls →
      Made calls (.returned ()) (verdicts.map Verdict.answer)
  | gaveUp (verdicts : List (Verdict kind)) (call : Call kind) (rest : List (Call kind))
      (panic : Panic) : verdicts.map Verdict.call ++ call :: rest = calls →
      Made calls (.panicked panic) (verdicts.map Verdict.answer ++ [call.answer (.panicked panic)])

theorem Made.next {kind : AnswerKind} {calls : List (Call kind)} {reply : Reply Unit}
    {made : List Answer} (others : Made calls reply made) (verdict : Verdict kind) :
    Made (verdict.call :: calls) reply (verdict.answer :: made) := by
  cases others with
  | all verdicts same => exact .all (verdict :: verdicts) (congrArg (List.cons _) same)
  | gaveUp verdicts call rest panic same =>
      exact .gaveUp (verdict :: verdicts) call rest panic (congrArg (List.cons _) same)

/-- How settings are applied, with the answers to them: none is a failure; or the last one is, and
that is reported; or the engine gives up on one before any is. -/
inductive Settled (settings : List (Call .status)) :
    Reply (Except SessionError Unit) → List Answer → Prop where
  | applied (settled : List (Verdict .status)) : settled.map Verdict.call = settings →
      (∀ verdict ∈ settled, verdict.value.isErr = false) →
      Settled settings (.returned (.ok ())) (settled.map Verdict.answer)
  | stopped (settled : List (Verdict .status)) (last : Verdict .status)
      (rest : List (Call .status)) :
      settled.map Verdict.call ++ last.call :: rest = settings →
      (∀ verdict ∈ settled, verdict.value.isErr = false) → last.value.isErr = true →
      Settled settings
        (.returned (.error (.configure (last.call.name ++ "(" ++ last.call.arguments ++ ")")
          last.value)))
        (settled.map Verdict.answer ++ [last.answer])
  | gaveUp (settled : List (Verdict .status)) (call : Call .status) (rest : List (Call .status))
      (panic : Panic) : settled.map Verdict.call ++ call :: rest = settings →
      (∀ verdict ∈ settled, verdict.value.isErr = false) →
      Settled settings (.panicked panic)
        (settled.map Verdict.answer ++ [call.answer (.panicked panic)])

theorem Settled.next {settings : List (Call .status)} {reply : Reply (Except SessionError Unit)}
    {made : List Answer} (others : Settled settings reply made) {verdict : Verdict .status}
    (fine : verdict.value.isErr = false) :
    Settled (verdict.call :: settings) reply (verdict.answer :: made) := by
  cases others with
  | applied settled same allFine =>
      exact .applied (verdict :: settled) (congrArg (List.cons _) same)
        (List.forall_mem_cons.mpr ⟨fine, allFine⟩)
  | stopped settled last rest same allFine fails =>
      exact .stopped (verdict :: settled) last rest (congrArg (List.cons _) same)
        (List.forall_mem_cons.mpr ⟨fine, allFine⟩) fails
  | gaveUp settled call rest panic same allFine =>
      exact .gaveUp (verdict :: settled) call rest panic (congrArg (List.cons _) same)
        (List.forall_mem_cons.mpr ⟨fine, allFine⟩)

/-- How a session comes to be configured, with the engine's answers.  It opens, then its settings
are applied, then its macros are defined; that ends at the first setting that fails, or where the
engine gives up. -/
inductive Configured (opening settings : List (Call .status)) (definitions : List (Call .done)) :
    Reply (Except SessionError Unit) → List Answer → Prop where
  | applied {opened settled defined : List Answer} :
      Made opening (.returned ()) opened → Settled settings (.returned (.ok ())) settled →
      Made definitions (.returned ()) defined →
      Configured opening settings definitions (.returned (.ok ())) (opened ++ settled ++ defined)
  | stopped {opened settled : List Answer} {error : SessionError} :
      Made opening (.returned ()) opened → Settled settings (.returned (.error error)) settled →
      Configured opening settings definitions (.returned (.error error)) (opened ++ settled)
  | gaveUpOpening {opened : List Answer} {panic : Panic} :
      Made opening (.panicked panic) opened →
      Configured opening settings definitions (.panicked panic) opened
  | gaveUpSettling {opened settled : List Answer} {panic : Panic} :
      Made opening (.returned ()) opened → Settled settings (.panicked panic) settled →
      Configured opening settings definitions (.panicked panic) (opened ++ settled)
  | gaveUpDefining {opened settled defined : List Answer} {panic : Panic} :
      Made opening (.returned ()) opened → Settled settings (.returned (.ok ())) settled →
      Made definitions (.panicked panic) defined →
      Configured opening settings definitions (.panicked panic) (opened ++ settled ++ defined)

section Calls

variable {P : ∀ {kind : AnswerKind}, Call kind → Prop}

/-- What holds of all calls to make holds of those that were made before one ended them. -/
theorem Verdict.forall_calls {kind : AnswerKind} {verdicts : List (Verdict kind)}
    {rest calls : List (Call kind)} (split : verdicts.map Verdict.call ++ rest = calls)
    (every : ∀ call ∈ calls, P call) :
    (∀ answer ∈ verdicts.map Verdict.answer, P answer.call) ∧ ∀ call ∈ rest, P call := by
  subst split
  obtain ⟨earlier, later⟩ := List.forall_mem_append.mp every
  exact ⟨List.forall_mem_map.mpr (List.forall_mem_map.mp earlier), later⟩

theorem Made.forall_calls {kind : AnswerKind} {calls : List (Call kind)} {reply : Reply Unit}
    {made : List Answer} (makes : Made calls reply made) (every : ∀ call ∈ calls, P call) :
    ∀ answer ∈ made, P answer.call := by
  cases makes with
  | all verdicts same => exact (Verdict.forall_calls ((List.append_nil _).trans same) every).1
  | gaveUp verdicts call rest panic same =>
      obtain ⟨earlier, later⟩ := Verdict.forall_calls same every
      exact List.forall_mem_append.mpr ⟨earlier,
        List.forall_mem_singleton.mpr (later call List.mem_cons_self)⟩

theorem Settled.forall_calls {settings : List (Call .status)}
    {reply : Reply (Except SessionError Unit)} {made : List Answer}
    (settles : Settled settings reply made) (every : ∀ call ∈ settings, P call) :
    ∀ answer ∈ made, P answer.call := by
  cases settles with
  | applied settled same => exact (Verdict.forall_calls ((List.append_nil _).trans same) every).1
  | stopped settled last rest same =>
      obtain ⟨earlier, later⟩ := Verdict.forall_calls same every
      exact List.forall_mem_append.mpr ⟨earlier,
        List.forall_mem_singleton.mpr (later last.call List.mem_cons_self)⟩
  | gaveUp settled call rest panic same =>
      obtain ⟨earlier, later⟩ := Verdict.forall_calls same every
      exact List.forall_mem_append.mpr ⟨earlier,
        List.forall_mem_singleton.mpr (later call List.mem_cons_self)⟩

/-- What holds of all calls of a configuration holds of those that are made. -/
theorem Configured.forall_calls {opening settings : List (Call .status)}
    {definitions : List (Call .done)} {reply : Reply (Except SessionError Unit)}
    {made : List Answer} (configured : Configured opening settings definitions reply made)
    (opens : ∀ call ∈ opening, P call) (sets : ∀ call ∈ settings, P call)
    (defines : ∀ call ∈ definitions, P call) : ∀ answer ∈ made, P answer.call := by
  have early {first second : List Answer} {result : Reply (Except SessionError Unit)}
      (opened : Made opening (.returned ()) first) (settled : Settled settings result second) :
      ∀ answer ∈ first ++ second, P answer.call :=
    List.forall_mem_append.mpr ⟨opened.forall_calls opens, settled.forall_calls sets⟩
  cases configured with
  | applied opened settled defined | gaveUpDefining opened settled defined =>
      exact List.forall_mem_append.mpr ⟨early opened settled, defined.forall_calls defines⟩
  | stopped opened settled | gaveUpSettling opened settled => exact early opened settled
  | gaveUpOpening opened => exact opened.forall_calls opens

end Calls

/-- The steps in which a configuration is applied, by name and argument. -/
def SessionConfig.steps (config : SessionConfig) : List (String × String) :=
  (config.libPath.map fun path => ("set_lib_path", path.display)).toList ++
    (config.options.map fun options => ("set_options", options)).toList ++
    config.includePaths.map (fun path => ("add_include_path", path.display)) ++
    config.sysincludePaths.map (fun path => ("add_sysinclude_path", path.display)) ++
    config.libraryPaths.map (fun path => ("add_library_path", path.display)) ++
    config.libraries.map (fun library => ("add_library", library))

theorem SessionConfig.map_settings (config : SessionConfig) :
    config.settings.map (fun call => (call.name, call.arguments)) = config.steps := by
  simp only [settings, steps, List.map_append, List.map_map, ← Option.toList_map, Option.map_map]
  rfl

namespace Session

variable {engine : Engine η σ} {made : List Answer} {start site : Site η σ}

theorem applySettings_asked (asked : Site.Asked engine made start site)
    (settings : List (Call .status)) :
    ∃ more, Site.Asked engine (made ++ more) start (applySettings engine settings site).2 ∧
      Settled settings (applySettings engine settings site).1 more := by
  induction settings generalizing site made with
  | nil =>
      exact ⟨[], (List.append_nil made).symm ▸ asked, .applied [] rfl (List.forall_mem_nil _)⟩
  | cons call rest ih =>
      have checked := asked.checked call
      rw [applySettings]
      split
      case h_1 panic after answered =>
        rw [answered] at checked
        exact ⟨_, checked, .gaveUp [] call rest panic rfl (List.forall_mem_nil _)⟩
      case h_2 status after answered =>
        rw [answered] at checked
        let verdict : Verdict .status := ⟨call, status⟩
        cases fails : verdict.value.isErr with
        | true =>
            rw [if_pos rfl]
            exact ⟨_, checked, .stopped [] verdict rest rfl (List.forall_mem_nil _) fails⟩
        | false =>
            rw [if_neg Bool.false_ne_true]
            obtain ⟨more, applied, settled⟩ := ih checked
            rw [List.append_assoc] at applied
            exact ⟨_, applied, settled.next fails⟩

theorem applyDefinitions_asked (asked : Site.Asked engine made start site)
    (definitions : List (Call .done)) :
    ∃ more, Site.Asked engine (made ++ more) start (applyDefinitions engine definitions site).2 ∧
      Made definitions (applyDefinitions engine definitions site).1 more := by
  induction definitions generalizing site made with
  | nil => exact ⟨[], (List.append_nil made).symm ▸ asked, .all [] rfl⟩
  | cons call rest ih =>
      have called := asked.call call
      rw [applyDefinitions]
      split
      case h_1 panic after answered =>
        rw [answered] at called
        exact ⟨_, called, .gaveUp [] call rest panic rfl⟩
      case h_2 after answered =>
        rw [answered] at called
        obtain ⟨more, applied, defined⟩ := ih called
        rw [List.append_assoc] at applied
        exact ⟨_, applied, defined.next ⟨call, ()⟩⟩

/-- The calls with which every session opens. -/
def opening (mode : OutputMode) (dynamicLinking : Bool) : List (Call .status) :=
  .setOutputType mode :: if dynamicLinking then [] else [.setOptions staticOptions]

theorem restrict_asked (asked : Site.Asked engine made start site) :
    ∃ more, Site.Asked engine (made ++ more) start (restrict engine site).2 ∧
      Made (if site.host.dynamicLinking then [] else [.setOptions staticOptions])
        (restrict engine site).1 more := by
  unfold restrict
  split
  case isTrue linking =>
    exact ⟨[], (List.append_nil made).symm ▸ asked, .all [] rfl⟩
  case isFalse =>
    have performed := (asked.log .debug ("host lacks dynamic linking, applying " ++ staticOptions)
      [site.idField]).perform (.setOptions staticOptions)
    dsimp only
    split
    case h_1 status after answered =>
      rw [answered] at performed
      exact ⟨_, performed.noteRejection .., .all [⟨.setOptions staticOptions, status⟩] rfl⟩
    case h_2 panic after answered =>
      rw [answered] at performed
      exact ⟨_, performed, .gaveUp [] (.setOptions staticOptions) [] panic rfl⟩

/-- A session of a host whose engine was not asked anything yet. -/
def unopened (state : σ) (mode : OutputMode) (workers : UInt64) (delivery : Delivery)
    (host : Host η) : Site η σ where
  host := { host with nextSession := host.nextSession + 1 }
  session :=
    { id := host.nextSession, mode, delivery, pool := poolOf mode workers, engine := state }

theorem create_asked (engine : Engine η σ) (state : σ) (mode : OutputMode) (workers : UInt64)
    (delivery : Delivery) (host : Host η) :
    ∃ made, Site.Asked engine made (unopened state mode workers delivery host)
        (create engine state mode workers delivery host).2 ∧
      Made (opening mode host.dynamicLinking) (create engine state mode workers delivery host).1
        made := by
  have fresh : Site.Asked engine [] (unopened state mode workers delivery host)
    (unopened state mode workers delivery host) := .refl _
  have performed := fresh.perform (.setOutputType mode)
  unfold create
  dsimp only
  split
  case h_1 panic after answered =>
    rw [unopened, answered] at performed
    exact ⟨_, performed, .gaveUp [] (.setOutputType mode) _ panic rfl⟩
  case h_2 status after answered =>
    rw [unopened, answered] at performed
    have noted := performed.noteRejection "output mode" [("mode", Log.Value.word mode.text)] status
    obtain ⟨more, restricted, others⟩ := restrict_asked noted
    rw [noted.linking] at others
    have opened := others.next ⟨.setOutputType mode, status⟩
    split
    case h_1 panic final refused =>
      rw [refused] at restricted opened
      exact ⟨_, restricted, opened⟩
    case h_2 final refused =>
      rw [refused] at restricted opened
      exact ⟨_, restricted.log .., opened⟩

theorem createConfigured_asked (engine : Engine η σ) (state : σ) (config : SessionConfig)
    (host : Host η) :
    ∃ made, Site.Asked engine made
        (unopened state config.mode config.workers config.delivery host)
        (createConfigured engine state config host).2 ∧
      Configured (opening config.mode host.dynamicLinking) config.settings config.definitions
        (createConfigured engine state config host).1 made := by
  obtain ⟨opened, created, opens⟩ := create_asked engine state config.mode config.workers
    config.delivery host
  unfold createConfigured
  split
  case h_1 panic site answered =>
    rw [answered] at created opens
    exact ⟨opened, created, .gaveUpOpening opens⟩
  case h_2 site answered =>
    rw [answered] at created opens
    obtain ⟨settled, applied, settles⟩ := applySettings_asked created config.settings
    split
    case h_1 middle finished =>
      rw [finished] at applied settles
      obtain ⟨defined, final, defines⟩ := applyDefinitions_asked applied config.definitions
      split
      case h_1 panic last ended =>
        rw [ended] at final defines
        exact ⟨_, final, .gaveUpDefining opens settles defines⟩
      case h_2 last ended =>
        rw [ended] at final defines
        exact ⟨_, final, .applied opens settles defines⟩
    case h_2 unfinished =>
      refine ⟨_, applied, ?_⟩
      generalize applySettings engine config.settings site = ended at settles unfinished ⊢
      obtain ⟨reply, middle⟩ := ended
      cases reply with
      | panicked panic => exact .gaveUpSettling opens settles
      | returned result =>
          cases result with
          | error error => exact .stopped opens settles
          | ok => exact (unfinished middle rfl).elim

/-- A configuration is applied up to the first of its steps that fails, and nothing is defined then;
if none fails all macros are defined, in order.  What the engine says when the session opens makes
no difference. -/
theorem createConfigured_stops_at_failure (engine : Engine η σ) (state : σ) (config : SessionConfig)
    (host : Host η) :
    ∃ made, Site.Asked engine made
        (unopened state config.mode config.workers config.delivery host)
        (createConfigured engine state config host).2 ∧
      Configured (opening config.mode host.dynamicLinking) config.settings
        (config.defines.entries.map fun entry => .defineSymbol entry.1 entry.2)
        (createConfigured engine state config host).1 made ∧
      config.settings.map (fun call => (call.name, call.arguments)) = config.steps ∧
      (createConfigured engine state config host).2.session.mode = config.mode ∧
      (createConfigured engine state config host).2.session.delivery = config.delivery := by
  obtain ⟨made, asked, configured⟩ := createConfigured_asked engine state config host
  obtain ⟨last, session⟩ := asked.session
  refine ⟨made, asked, configured, config.map_settings, ?_, ?_⟩
  · rw [session]
    rfl
  · rw [session]
    rfl

end Session

end CompileSession
