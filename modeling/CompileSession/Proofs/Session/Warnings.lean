import CompileSession.Proofs.Session.Configuring
import CompileSession.Proofs.Session.Works

/-!
# Warnings about failures

Whoever makes a call on a session's engine that fails owes a warning with the session's number and
the code of the failure, and gives it before returning.  Workers are the exception: a unit that does
not compile leaves no warning.
-/

namespace CompileSession

variable {η σ : Type}

/-- The code of a failure. -/
def Status.failure? (status : Status) : Option Int :=
  if status.isErr then some status.code.toInt else none

/-- The code with which a call has failed.  What a main function returns is not a failure of the
engine. -/
def Call.failure? : {kind : AnswerKind} → Call kind → Reply kind.Answer → Option Int
  | _, .run _, _ => none
  | .status, _, .returned status => status.failure?
  | _, _, _ => none

theorem Call.failure?_panicked {kind : AnswerKind} (call : Call kind) (panic : Panic) :
    call.failure? (.panicked panic) = none := by
  cases call <;> rfl

theorem Call.failure?_done (call : Call .done) (reply : Reply Unit) :
    call.failure? reply = none := by
  cases call <;> rfl

/-- The code that an event warns of in the name of a session. -/
def Log.Event.warning? (session : Nat) (event : Event) : Option Int :=
  if event.level = .warn ∧ event.fields.lookup "session" = some (.number session) then
    match event.fields.lookup "status" with
    | some (.number code) => some code
    | _ => none
  else none

/-- What is told about failures. -/
inductive Mark where
  /-- A call that was made for whoever waits for its answer has failed. -/
  | failure (code : Int)
  /-- A failure was warned of. -/
  | warning (code : Int)
deriving DecidableEq, Repr

/-- What an entry tells about the failures of a session's calls.  Those that are made for a unit are
left out. -/
def Entry.mark? (session : Nat) : Entry → Option Mark
  | .event logged => (logged.warning? session).map .warning
  | .engineCall owner none call reply =>
    if owner = session then (call.failure? reply).map .failure else none
  | _ => none

theorem Entry.mark?_of_isNote {session : Nat} {entry : Entry} (note : entry.isNote = true) :
    entry.mark? session = none := by
  cases entry with
  | event logged =>
      have plain : logged.fields.lookup "status" = none := Option.isNone_iff_eq_none.mp note
      simp [mark?, Log.Event.warning?, plain]
  | engineCall => cases note
  | _ => rfl

def Journal.marks (session : Nat) (journal : Journal) : List Mark :=
  journal.filterMap (Entry.mark? session)

/-- Whether an engine, on some call, warns of a failure itself as if it were a session. -/
def Engine.Utters (engine : Engine η σ) (session : Nat) (code : Int) : Prop :=
  ∃ (kind : AnswerKind) (call : Call kind) (state : σ) (machine : Machine η) (event : Log.Event),
    machine.journal = [] ∧ .event event ∈ (engine.perform call state machine).2.2.journal ∧
      event.warning? session = some code

/-- The failures that nobody was warned of yet, if every warning is about one failure before it that
nobody was warned of.  What an engine utters is about no failure. -/
inductive Owing (uttered : Int → Prop) : List Mark → List Int → Prop where
  | nil : Owing uttered [] []
  | failure {marks : List Mark} {before after : List Int} {code : Int} :
      Owing uttered marks (before ++ after) →
      Owing uttered (marks ++ [.failure code]) (before ++ code :: after)
  | warning {marks : List Mark} {before after : List Int} {code : Int} :
      Owing uttered marks (before ++ code :: after) →
      Owing uttered (marks ++ [.warning code]) (before ++ after)
  | uttered {marks : List Mark} {codes : List Int} {code : Int} :
      Owing uttered marks codes → uttered code → Owing uttered (marks ++ [.warning code]) codes

namespace Owing

variable {uttered : Int → Prop} {marks more : List Mark} {codes : List Int}

theorem utter (owing : Owing uttered marks codes)
    (all : ∀ mark ∈ more, ∃ code, mark = .warning code ∧ uttered code) :
    Owing uttered (marks ++ more) codes := by
  induction more generalizing marks with
  | nil => simpa using owing
  | cons mark more ih =>
      obtain ⟨⟨code, same, utters⟩, others⟩ := List.forall_mem_cons.mp all
      subst same
      rw [List.append_cons]
      exact ih (owing.uttered utters) others

/-- There are as many failures of each code as there are warnings with it and failures that nobody
was warned of. -/
theorem count_eq (owing : Owing uttered marks codes) (silent : ∀ code, ¬ uttered code)
    (code : Int) :
    marks.count (.failure code) = marks.count (.warning code) + codes.count code := by
  induction owing with
  | nil => rfl
  | failure _ ih | warning _ ih =>
      simp only [List.count_append, List.count_cons, List.count_nil] at ih ⊢
      simp only [beq_iff_eq, Mark.failure.injEq, Mark.warning.injEq, reduceCtorEq, if_false] at ih ⊢
      omega
  | uttered _ utters => exact absurd utters (silent _)

theorem of_concat {mark : Mark} (owing : Owing uttered (marks ++ [mark]) codes) :
    ∃ earlier, Owing uttered marks earlier := by
  generalize whole : marks ++ [mark] = all at owing
  cases owing with
  | nil => simp at whole
  | failure earlier | warning earlier | uttered earlier _ =>
      obtain ⟨rfl, -⟩ := List.append_inj' whole rfl
      exact ⟨_, earlier⟩

/-- What holds of a history holds of every earlier one. -/
theorem of_append (owing : Owing uttered (marks ++ more) codes) :
    ∃ earlier, Owing uttered marks earlier := by
  induction more using List.reverseRecOn generalizing codes with
  | nil => exact ⟨codes, by simpa using owing⟩
  | append_singleton more mark ih =>
      rw [← List.append_assoc] at owing
      obtain ⟨earlier, owing⟩ := owing.of_concat
      exact ih owing

end Owing

theorem Journal.marks_append (session : Nat) (first second : Journal) :
    (first ++ second).marks session = first.marks session ++ second.marks session :=
  List.filterMap_append

/-- What the journal of a site tells beyond a past one is about the failures of its session's calls,
and there are some that nobody was warned of. -/
structure Site.Owes (engine : Engine η σ) (session : Nat) (past : Journal) (codes : List Int)
    (site : Site η σ) : Prop where
  id_eq : site.session.id = session
  journal_eq : ∃ added, site.host.journal = past ++ added ∧
    Owing (engine.Utters session) (added.marks session) codes

namespace Site.Owes

variable {engine : Engine η σ} {session : Nat} {past : Journal} {codes before after : List Int}
  {site : Site η σ}

/-- What is noted by itself has to do with no failure. -/
theorem notes {final : Site η σ} (owes : site.Owes engine session past codes)
    (notes : site.Notes final) : final.Owes engine session past codes := by
  induction notes with
  | refl => exact owes
  | change changed _ same _ ih => exact ⟨same.trans ih.id_eq, ih.journal_eq⟩
  | record entry _ note ih =>
      obtain ⟨id_eq, added, journal_eq, owing⟩ := ih
      refine ⟨id_eq, added ++ [entry], ?_, ?_⟩
      · rw [← List.append_assoc, ← journal_eq]
        rfl
      · rw [Journal.marks_append]
        simpa [Journal.marks, Entry.mark?_of_isNote note] using owing

/-- An engine that answers leaves what it utters itself, and an entry for the call. -/
theorem perform (owes : site.Owes engine session past codes) (ticket : Option Nat)
    {kind : AnswerKind} (call : Call kind) {left : List Int}
    (owing : ∀ {marks : List Mark}, Owing (engine.Utters session) marks codes →
      Owing (engine.Utters session)
        (marks ++ (Entry.mark? session (.engineCall session ticket call
          (site.perform engine ticket call).1)).toList) left) :
    (site.perform engine ticket call).2.Owes engine session past left := by
  obtain ⟨rfl, added, journal_eq, before⟩ := owes
  let heard := (engine.perform call site.session.engine
    { site.host.toMachine with journal := [] }).2.2.journal
  let entry := Entry.engineCall site.session.id ticket call (site.perform engine ticket call).1
  refine ⟨rfl, added ++ (heard.filter Entry.ofMachine ++ [entry]), ?_, ?_⟩
  · rw [← List.append_assoc, ← journal_eq, ← List.append_assoc]
    rfl
  · have uttered : ∀ mark ∈ Journal.marks site.session.id (heard.filter Entry.ofMachine),
        ∃ code, mark = .warning code ∧ engine.Utters site.session.id code := by
      intro mark member
      obtain ⟨said, inside, marked⟩ := List.mem_filterMap.mp member
      obtain ⟨inside, ofMachine⟩ := List.mem_filter.mp inside
      cases said with
      | event event =>
          obtain ⟨code, warns, rfl⟩ := Option.map_eq_some_iff.mp marked
          exact ⟨code, rfl, kind, call, _, _, event, rfl, inside, warns⟩
      | engineCall => cases ofMachine
      | _ => cases marked
    have single : Journal.marks site.session.id [entry] =
        (entry.mark? site.session.id).toList := by
      rw [Journal.marks, List.filterMap_cons, List.filterMap_nil]
      cases entry.mark? site.session.id <;> rfl
    rw [Journal.marks_append, Journal.marks_append, ← List.append_assoc, single]
    exact owing (before.utter uttered)

/-- Whatever the engine answers to a worker, nobody owes a warning for it. -/
theorem compile (owes : site.Owes engine session past codes) (ticket : Nat) (source : String) :
    (site.perform engine (some ticket) (.compileString source)).2.Owes engine session past
      codes := by
  apply owes.perform
  intro marks owing
  simpa [Entry.mark?] using owing

/-- Whoever makes a call that fails owes a warning. -/
theorem ask (owes : site.Owes engine session past (before ++ after)) {kind : AnswerKind}
    (call : Call kind) :
    (site.perform engine none call).2.Owes engine session past
      (before ++ (call.failure? (site.perform engine none call).1).toList ++ after) := by
  apply owes.perform
  intro marks owing
  cases failed : call.failure? (site.perform engine none call).1 with
  | none => simpa [Entry.mark?, failed] using owing
  | some code => simpa [Entry.mark?, failed] using owing.failure

/-- A warning with a code settles one failure with that code. -/
theorem warn {code : Int} (owes : site.Owes engine session past (before ++ code :: after))
    (message : String) {fields : List (String × Log.Value)}
    (named : fields.lookup "session" = some (.number site.session.id))
    (told : fields.lookup "status" = some (.number code)) :
    (site.log .warn message fields).Owes engine session past (before ++ after) := by
  obtain ⟨rfl, added, journal_eq, owing⟩ := owes
  refine ⟨rfl, added ++ [.event { level := .warn, message, fields }], ?_, ?_⟩
  · rw [← List.append_assoc, ← journal_eq]
    rfl
  · rw [Journal.marks_append]
    have mark : Journal.marks site.session.id [.event { level := .warn, message, fields }] =
        [.warning code] := by
      simp [Journal.marks, Entry.mark?, Log.Event.warning?, named, told]
    rw [mark]
    exact owing.warning

theorem noteStatus {status : Status}
    (owes : site.Owes engine session past (before ++ status.failure?.toList ++ after))
    (operation : String) :
    (site.noteStatus operation status).Owes engine session past (before ++ after) := by
  unfold Site.noteStatus
  split
  case isTrue failed =>
    rw [Status.failure?, if_pos failed, Option.toList_some, List.append_assoc] at owes
    exact owes.warn _ rfl rfl
  case isFalse succeeded =>
    rw [Status.failure?, if_neg succeeded, Option.toList_none, List.append_nil] at owes
    exact owes

/-- Whoever has been answered warns of a failure before returning. -/
theorem noteReply {kind : AnswerKind} {call : Call kind} {reply : Reply kind.Answer}
    (owes : site.Owes engine session past (before ++ (call.failure? reply).toList ++ after)) :
    (site.noteReply call reply).Owes engine session past (before ++ after) := by
  have settled (fine : call.failure? reply = none) :
      site.Owes engine session past (before ++ after) := by
    rw [fine, Option.toList_none, List.append_nil] at owes
    exact owes
  cases reply with
  | panicked panic => exact settled (call.failure?_panicked panic)
  | returned value =>
      cases call with
      | run argc =>
          simp only [Site.noteReply]
          split
          · exact settled rfl
          · exact (settled rfl).notes (Notes.refl.noteRefusal)
      | getSymbol name => exact (settled rfl).notes (Notes.refl.noteLookUp name value)
      | defineSymbol | undefineSymbol | takeDiagnostics => exact settled rfl
      | _ =>
          have failed : site.Owes engine session past
            (before ++ (Status.failure? value).toList ++ after) := owes
          exact failed.noteStatus _

theorem noteRejection {status : Status}
    (owes : site.Owes engine session past (before ++ status.failure?.toList ++ after))
    (what : String) (fields : List (String × Log.Value))
    (plain : fields.lookup "status" = none) :
    (Session.noteRejection what fields status site).Owes engine session past
      (before ++ after) := by
  unfold Session.noteRejection
  split
  case isTrue failed =>
    rw [Status.failure?, if_pos failed, Option.toList_some, List.append_assoc] at owes
    refine owes.warn _ rfl ?_
    simp [Site.idField, List.lookup_cons, List.lookup_append, plain]
  case isFalse succeeded =>
    rw [Status.failure?, if_neg succeeded, Option.toList_none, List.append_nil] at owes
    exact owes

end Site.Owes

/-- Whether a failure of a call is one of the engine's, whatever the code. -/
def Call.Checked (call : Call .status) : Prop :=
  ∀ status, call.failure? (.returned status) = status.failure?

theorem SessionConfig.settings_checked (config : SessionConfig) :
    ∀ call ∈ config.settings, call.Checked :=
  config.forall_settings fun _ =>
    ⟨fun _ => rfl, fun _ => rfl, fun _ => rfl, fun _ => rfl, fun _ => rfl, fun _ => rfl⟩

namespace Site.Owes

variable {engine : Engine η σ} {session : Nat} {past : Journal} {site : Site η σ}

/-- A call that is checked leaves a warning if it fails, and else none. -/
theorem checked (owes : site.Owes engine session past []) {call : Call .status}
    (isChecked : call.Checked) :
    (site.checked engine call).2.Owes engine session past [] := by
  have taken : (site.takeEngine call.name).Owes engine session past ([] ++ []) :=
    owes.notes (Notes.refl.takeEngine call.name)
  have asked := taken.ask call
  unfold Site.checked Site.call
  split
  case h_1 status final answered =>
    rw [answered, isChecked] at asked
    exact asked.noteStatus call.name
  case h_2 panic final answered =>
    rw [answered, call.failure?_panicked] at asked
    exact asked

theorem restrict (owes : site.Owes engine session past []) :
    (Session.restrict engine site).2.Owes engine session past [] := by
  unfold Session.restrict
  split
  case isTrue => exact owes
  case isFalse =>
    have logged : (site.log .debug ("host lacks dynamic linking, applying " ++ staticOptions)
        [site.idField]).Owes engine session past ([] ++ []) :=
      owes.notes (Notes.refl.log _ _ _ rfl)
    have asked := logged.ask (.setOptions staticOptions)
    dsimp only
    split
    case h_1 status final answered =>
      rw [answered] at asked
      exact asked.noteRejection staticOptions [] rfl
    case h_2 panic final answered =>
      rw [answered] at asked
      exact asked

theorem applySettings (owes : site.Owes engine session past []) {calls : List (Call .status)}
    (settings : ∀ call ∈ calls, call.Checked) :
    (Session.applySettings engine calls site).2.Owes engine session past [] := by
  induction calls generalizing site with
  | nil => exact owes
  | cons call rest ih =>
      obtain ⟨first, others⟩ := List.forall_mem_cons.mp settings
      have checked := owes.checked first
      unfold Session.applySettings
      split
      case h_1 panic final answered =>
        rw [answered] at checked
        exact checked
      case h_2 status final answered =>
        rw [answered] at checked
        split
        · exact checked
        · exact ih checked others

theorem applyDefinitions (owes : site.Owes engine session past []) (calls : List (Call .done)) :
    (Session.applyDefinitions engine calls site).2.Owes engine session past [] := by
  induction calls generalizing site with
  | nil => exact owes
  | cons call rest ih =>
      have taken : (site.takeEngine call.name).Owes engine session past ([] ++ []) :=
        owes.notes (Notes.refl.takeEngine call.name)
      have asked := taken.ask call
      rw [call.failure?_done] at asked
      unfold Session.applyDefinitions Site.call
      split
      case h_1 panic final answered =>
        rw [answered] at asked
        exact asked
      case h_2 final answered =>
        rw [answered] at asked
        exact ih asked

end Site.Owes

namespace Session

variable (engine : Engine η σ) (state : σ) (config : SessionConfig) (host : Host η)

/-- Once a session has been made, every failure meanwhile was warned of. -/
theorem create_owes :
    (create engine state config.mode config.workers config.delivery host).2.Owes engine
      host.nextSession host.journal [] := by
  have fresh : (unopened state config.mode config.workers config.delivery host).Owes engine
      host.nextSession host.journal ([] ++ []) :=
    ⟨rfl, [], (List.append_nil _).symm, .nil⟩
  have asked := fresh.ask (.setOutputType config.mode)
  unfold create
  dsimp only
  split
  case h_1 panic site answered =>
    rw [unopened, answered] at asked
    exact asked
  case h_2 status site answered =>
    rw [unopened, answered] at asked
    have noted := asked.noteRejection "output mode"
      [("mode", Log.Value.word config.mode.text)] rfl
    have restricted := noted.restrict
    split
    case h_1 panic final done =>
      rw [done] at restricted
      exact restricted
    case h_2 final done =>
      rw [done] at restricted
      exact restricted.notes (Site.Notes.refl.log _ _ _ rfl)

theorem createConfigured_owes :
    (createConfigured engine state config host).2.Owes engine host.nextSession host.journal [] := by
  have created := create_owes engine state config host
  unfold createConfigured
  split
  case h_1 panic site answered =>
    rw [answered] at created
    exact created
  case h_2 site answered =>
    rw [answered] at created
    have settled := created.applySettings config.settings_checked
    split
    case h_1 after done =>
      rw [done] at settled
      have defined := settled.applyDefinitions config.definitions
      split
      case h_1 panic final ended =>
        rw [ended] at defined
        exact defined
      case h_2 final ended =>
        rw [ended] at defined
        exact defined
    case h_2 => exact settled

end Session

/-- The failure of a call whose caller has not returned yet. -/
def Operation.failure? (operation : Operation) : Option Int :=
  match operation.stage with
  | .answered reply => operation.call.failure? reply
  | _ => none

theorem Operation.failures_split (before after : List Operation) (operation : Operation) :
    (before ++ operation :: after).filterMap failure? =
      before.filterMap failure? ++ operation.failure?.toList ++ after.filterMap failure? := by
  rw [List.filterMap_append, List.filterMap_cons, List.append_assoc]
  cases operation.failure? <;> rfl

/-- A call that begins has not failed. -/
theorem Operation.failure?_opening (mode : OutputMode) (caller : Nat) {kind : AnswerKind}
    (call : Call kind) :
    failure? { caller, call, stage := call.opening mode } = none := by
  cases call with
  | run argc => cases mode <;> rfl
  | _ => rfl

/-- An engine that takes everything but compiles nothing. -/
def Engine.barren : Engine Unit Unit where
  perform {kind} call state machine :=
    let reply : Reply kind.Answer := match kind, call with
      | .status, .compileString _ => .returned .failed
      | .status, _ => .returned .ok
      | .done, _ => .returned ()
      | .lookup, _ => .returned none
      | .messages, _ => .returned []
    (reply, state, machine)

theorem Engine.barren_silent (session : Nat) (code : Int) : ¬ barren.Utters session code := by
  rintro ⟨kind, call, state, machine, event, empty, heard, -⟩
  have unchanged : (barren.perform call state machine).2.2 = machine := rfl
  rw [unchanged, empty] at heard
  cases heard

namespace Scene

variable {engine : Engine η σ} {session : Nat} {past : Journal} {scene after : Scene η σ}

/-- The failures of which callers have not warned yet. -/
def owed (scene : Scene η σ) : List Int :=
  scene.operations.filterMap Operation.failure?

/-- What every move does about the failures that nobody was warned of. -/
theorem move?_owes {move : Move} (owes : scene.site.Owes engine session past scene.owed)
    (moved : scene.move? engine move = some after) :
    after.site.Owes engine session past after.owed := by
  cases move?_happened moved with
  | noted notes same =>
      rw [owed, same]
      exact owes.notes notes
  | asked site same =>
      rw [site, owed, same, Operation.failures_split, Operation.failure?_opening,
        Option.toList_none, List.filterMap_nil, List.append_nil, List.append_nil]
      exact owes
  | acquired found notes same =>
      obtain ⟨before, later, split, set, -⟩ := exists_split found
      rw [owed, split, Operation.failures_split] at owes
      rw [owed, same, set, Operation.failures_split]
      exact owes.notes notes
  | @answered position caller kind call found site same =>
      obtain ⟨before, later, split, set, -⟩ := exists_split found
      have unanswered : Operation.failure? { caller, call, stage := .owning } = none := rfl
      rw [owed, split, Operation.failures_split, unanswered, Option.toList_none,
        List.append_nil] at owes
      rw [site, owed, same, set, Operation.failures_split]
      exact owes.ask call
  | told found site same =>
      obtain ⟨before, later, split, -, erase⟩ := exists_split found
      rw [owed, split, Operation.failures_split] at owes
      rw [site, owed, same, erase, List.filterMap_append]
      exact owes.noteReply
  | compiled notes same =>
      rw [owed, same]
      exact (owes.compile ..).notes notes

variable {state : σ} {config : SessionConfig} {host : Host η} {schedule : List Move}
  {finish : Scene η σ}

theorem follow?_owes
    (followed : (idle (Session.createConfigured engine state config host).2).follow? engine
      schedule = some finish) :
    finish.site.Owes engine host.nextSession host.journal finish.owed := by
  refine follow?_induction
    (motive := fun _ scene => scene.site.Owes engine host.nextSession host.journal scene.owed)
    ?begins ?keeps followed
  case begins => exact Session.createConfigured_owes engine state config host
  case keeps =>
    intro _ _ scene after _ owes moved
    exact move?_owes owes moved

/-- From the making of a session on, however its calls come in each other's way, every failure of a
call that somebody waits for is warned of once, after the call and before it returns, and there is
no other warning: neither about a call that succeeds nor, whatever its code, about a compile by a
worker. -/
theorem failures_warned
    (followed : (idle (Session.createConfigured engine state config host).2).follow? engine
      schedule = some finish) :
    ∃ added, finish.site.host.journal = host.journal ++ added ∧
      Owing (engine.Utters host.nextSession) (added.marks host.nextSession) finish.owed ∧
      ((∀ code, ¬ engine.Utters host.nextSession code) → ∀ code,
        (added.marks host.nextSession).count (.failure code) =
          (added.marks host.nextSession).count (.warning code) + finish.owed.count code ∧
        ∀ prior : Journal, prior <+: added →
          (prior.marks host.nextSession).count (.warning code) ≤
            (prior.marks host.nextSession).count (.failure code)) := by
  obtain ⟨-, added, journal_eq, owing⟩ := follow?_owes followed
  refine ⟨added, journal_eq, owing, ?_⟩
  intro silent code
  refine ⟨owing.count_eq silent code, ?_⟩
  rintro prior ⟨rest, rfl⟩
  rw [Journal.marks_append] at owing
  obtain ⟨earlier, before⟩ := owing.of_append
  have balance := before.count_eq silent code
  omega

/-- A session of an engine that compiles nothing, on an empty machine. -/
def barrenSession : Scene Unit Unit :=
  idle (Session.createConfigured Engine.barren () {} { memory := .zeroed 0, shared := () }).2

theorem failures_warned_sample :
    ∃ finish added,
      barrenSession.follow? Engine.barren
        [.ask 0 (.compileString "int x"), .acquire 0, .answer 0, .tell 0] = some finish ∧
      finish.site.host.journal = added ∧ finish.owed = [] ∧
      (added.marks 1).count (.failure (-1)) =
        (added.marks 1).count (.warning (-1)) + finish.owed.count (-1) := by
  have followed : barrenSession.follow? Engine.barren
      [.ask 0 (.compileString "int x"), .acquire 0, .answer 0, .tell 0] = some _ := rfl
  obtain ⟨added, journal_eq, -, counts⟩ := failures_warned followed
  exact ⟨_, added, followed, journal_eq, rfl, (counts (Engine.barren_silent 1) (-1)).1⟩

/-- A text that does not compile leaves a warning if a caller waits for it, and none if a worker
compiles it. -/
theorem worker_leaves_failure_unwarned :
    ∃ submitted asked,
      barrenSession.follow? Engine.barren
        [.submit "int x" .future, .takeUp 0, .compile, .finish 0] = some submitted ∧
      submitted.calls =
        [{ origin := .unit 0, call := .compileString "int x", reply := .returned .failed }] ∧
      submitted.site.host.journal.events.filter (·.level = .warn) = [] ∧
      barrenSession.follow? Engine.barren
        [.ask 0 (.compileString "int x"), .acquire 0, .answer 0, .tell 0] = some asked ∧
      asked.calls =
        [{ origin := .caller 0, call := .compileString "int x", reply := .returned .failed }] ∧
      asked.site.host.journal.marks 1 = [.failure (-1), .warning (-1)] :=
  ⟨_, _, rfl, rfl, rfl, rfl, rfl, rfl⟩

end Scene

end CompileSession
