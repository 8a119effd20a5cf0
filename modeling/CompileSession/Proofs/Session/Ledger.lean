import CompileSession.Proofs.Session.Moves

/-!
# Where the units of a session are

A ledger is the part of a scene that tells where each unit is.  `Scene.ledger_move?` says once what
every move does to it: a unit is accepted or rejected, moves on to its next place, or nothing
changes.  The invariants about units follow from that alone.
-/

namespace CompileSession

/-- What a session never changes and what decides the way of its units. -/
structure Setup where
  mode : OutputMode
  delivery : Delivery
  pool : Except String Nat

/-- Why the session rejects every unit, if it does. -/
def Setup.rejection? (setup : Setup) : Option DispatchError :=
  if setup.mode.canRun then
    match setup.pool with
    | .ok _ => none
    | .error reason => some (.poolUnavailable reason)
  else some .inspectOnly

/-- Where the units of a session are. -/
structure Ledger where
  setup : Setup
  isOpen : Bool
  submitted : Nat
  waiting : List Job
  held : Option Job
  compiled : List FinishedJob
  returning : List FinishedJob
  queue : List FinishedJob
  invocations : List Invocation
  abandonments : List Nat
  /-- The engine's answers to workers. -/
  compiles : List Answer

namespace Move

/-- The text of the unit that a move submits, if it submits one. -/
def source? : Move → Option String
  | .submit source _ | .resubmit _ source _ => some source
  | _ => none

/-- Whether a move is one of the workers and rejections, which nobody has to ask for. -/
def isBackground : Move → Bool
  | .takeUp _ | .compile | .finish _ | .arrive _ => true
  | _ => false

/-- Whether a move changes where units are. -/
def movesUnits : Move → Bool
  | .deliverNext _ | .close => true
  | move => move.isBackground || move.source?.isSome

theorem source?_eq_none_of_quiet {move : Move} (quiet : move.movesUnits = false) :
    move.source? = none := by
  cases move <;> simp_all [movesUnits, source?]

theorem isBackground_eq_false_of_quiet {move : Move} (quiet : move.movesUnits = false) :
    move.isBackground = false := by
  cases move <;> simp_all [movesUnits, isBackground]

end Move

/-- What is told to the completion of a unit. -/
def FinishedJob.invocation (finished : FinishedJob) (runner : Runner) : Invocation :=
  ⟨finished.ticket, finished.outcome, runner⟩

/-- What the engine answers to the worker of a unit. -/
def Job.compile (job : Job) (reply : Reply Status) : Answer where
  origin := .unit job.ticket
  call := .compileString job.source
  reply := reply

/-- What a move may do to the ledger. -/
inductive Ledger.Step : Move → Ledger → Ledger → Prop where
  | still {move : Move} {ledger : Ledger} :
      move.movesUnits = false → Ledger.Step move ledger ledger
  | accept {move : Move} {ledger : Ledger} {job : Job} {waiting : List Job} :
      ledger.setup.rejection? = none → ledger.isOpen = true → move.source? = some job.source →
      job.ticket = ledger.submitted → waiting.Perm (job :: ledger.waiting) →
      Ledger.Step move ledger { ledger with submitted := ledger.submitted + 1, waiting }
  | rejectToQueue {move : Move} {ledger : Ledger} {job : Job} {error : DispatchError} :
      ledger.setup.rejection? = some error → ledger.setup.delivery = .queued →
      ledger.isOpen = true → move.source? = some job.source → job.ticket = ledger.submitted →
      Ledger.Step move ledger { ledger with
        submitted := ledger.submitted + 1
        queue := ledger.queue ++ [{ job, error := some error }] }
  | rejectAway {move : Move} {ledger : Ledger} {job : Job} {error : DispatchError} :
      ledger.setup.rejection? = some error → ledger.setup.delivery = .worker →
      ledger.isOpen = true → move.source? = some job.source → job.ticket = ledger.submitted →
      Ledger.Step move ledger { ledger with
        submitted := ledger.submitted + 1
        returning := ledger.returning ++ [{ job, error := some error }] }
  | takeUp {ledger : Ledger} {job : Job} {position : Nat} :
      ledger.held = none → ledger.waiting[position]? = some job →
      Ledger.Step (.takeUp position) ledger { ledger with
        waiting := ledger.waiting.eraseIdx position
        held := some job }
  | compile {ledger : Ledger} {job : Job} (reply : Reply Status) :
      ledger.held = some job →
      Ledger.Step .compile ledger { ledger with
        held := none
        compiled := ledger.compiled ++ [job.answered reply]
        compiles := ledger.compiles ++ [job.compile reply] }
  | enqueue {ledger : Ledger} {finished : FinishedJob} {position : Nat} :
      ledger.setup.delivery = .queued → ledger.isOpen = true →
      ledger.compiled[position]? = some finished →
      Ledger.Step (.finish position) ledger { ledger with
        compiled := ledger.compiled.eraseIdx position
        queue := ledger.queue ++ [finished] }
  | invokeCompiled {ledger : Ledger} {finished : FinishedJob} {position : Nat} :
      ¬ (ledger.setup.delivery = .queued ∧ ledger.isOpen = true) →
      ledger.compiled[position]? = some finished →
      Ledger.Step (.finish position) ledger { ledger with
        compiled := ledger.compiled.eraseIdx position
        invocations := ledger.invocations ++ [finished.invocation .worker] }
  | invokeReturning {ledger : Ledger} {finished : FinishedJob} {position : Nat} :
      ledger.returning[position]? = some finished →
      Ledger.Step (.arrive position) ledger { ledger with
        returning := ledger.returning.eraseIdx position
        invocations := ledger.invocations ++ [finished.invocation .messenger] }
  | invokeQueued {ledger : Ledger} {finished : FinishedJob} {rest : List FinishedJob}
      {position : Nat} :
      ledger.queue = finished :: rest →
      Ledger.Step (.deliverNext position) ledger { ledger with
        queue := rest
        invocations := ledger.invocations ++ [finished.invocation .caller] }
  | close {ledger : Ledger} :
      ledger.isOpen = true →
      Ledger.Step .close ledger { ledger with
        isOpen := false
        queue := []
        abandonments := ledger.abandonments ++ ledger.queue.map FinishedJob.ticket }

namespace Journal

@[simp] theorem invocations_append (session : Nat) (first second : Journal) :
    invocations session (first ++ second) =
      invocations session first ++ invocations session second :=
  List.filterMap_append

@[simp] theorem abandonments_append (session : Nat) (first second : Journal) :
    abandonments session (first ++ second) =
      abandonments session first ++ abandonments session second :=
  List.filterMap_append

@[simp] theorem invocations_singleton (session : Nat) (entry : Entry) :
    invocations session [entry] = (entry.invocation? session).toList := by
  cases told : entry.invocation? session <;> simp [invocations, told]

@[simp] theorem abandonments_singleton (session : Nat) (entry : Entry) :
    abandonments session [entry] = (entry.abandonment? session).toList := by
  cases told : entry.abandonment? session <;> simp [abandonments, told]

@[simp] theorem invocations_ofMachine (session : Nat) (journal : Journal) :
    invocations session (journal.filter Entry.ofMachine) = [] := by
  apply List.filterMap_eq_nil_iff.mpr
  intro entry member
  have kept := (List.mem_filter.mp member).2
  cases entry <;> simp_all [Entry.ofMachine, Entry.invocation?]

@[simp] theorem abandonments_ofMachine (session : Nat) (journal : Journal) :
    abandonments session (journal.filter Entry.ofMachine) = [] := by
  apply List.filterMap_eq_nil_iff.mpr
  intro entry member
  have kept := (List.mem_filter.mp member).2
  cases entry <;> simp_all [Entry.ofMachine, Entry.abandonment?]

end Journal

namespace Site

variable {η σ : Type}

/-- The ledger of a site, given the engine's answers to workers. -/
def ledger (site : Site η σ) (compiles : List Answer) : Ledger where
  setup :=
    { mode := site.session.mode
      delivery := site.session.delivery
      pool := site.session.pool }
  isOpen := site.session.isOpen
  submitted := site.session.submitted
  waiting := site.session.waiting
  held := site.session.held
  compiled := site.session.compiled
  returning := site.session.returning
  queue := site.session.queue
  invocations := site.host.journal.invocations site.session.id
  abandonments := site.host.journal.abandonments site.session.id
  compiles

/-- Who does not see what is logged does not see that an answer is noted. -/
theorem noteReply_unseen {α : Type} (view : Site η σ → α)
    (unseen : ∀ site level message fields, view (Site.log site level message fields) = view site)
    {kind : AnswerKind} (call : Call kind) (reply : Reply kind.Answer) (site : Site η σ) :
    view (site.noteReply call reply) = view site := by
  unfold noteReply
  split <;> simp only [noteRefusal, noteStatus, noteLookUp] <;> split <;> simp only [unseen]

variable (site : Site η σ) (compiles : List Answer)

@[simp] theorem session_log (level : Log.Level) (message : String)
    (fields : List (String × Log.Value)) :
    (site.log level message fields).session = site.session := rfl

theorem ledger_record (entry : Entry) :
    (site.record entry).ledger compiles = { site.ledger compiles with
      invocations := (site.ledger compiles).invocations ++
        (entry.invocation? site.session.id).toList
      abandonments := (site.ledger compiles).abandonments ++
        (entry.abandonment? site.session.id).toList } := by
  simp [record, ledger, Host.record, Machine.record]

theorem ledger_record_quiet {entry : Entry}
    (noInvocation : entry.invocation? site.session.id = none)
    (noAbandonment : entry.abandonment? site.session.id = none) :
    (site.record entry).ledger compiles = site.ledger compiles := by
  simp [ledger_record, noInvocation, noAbandonment]

@[simp] theorem ledger_log (level : Log.Level) (message : String)
    (fields : List (String × Log.Value)) :
    (site.log level message fields).ledger compiles = site.ledger compiles :=
  ledger_record_quiet site compiles rfl rfl

@[simp] theorem ledger_takeEngine (operation : String) :
    (site.takeEngine operation).ledger compiles = site.ledger compiles :=
  ledger_log ..

@[simp] theorem ledger_noteReply {kind : AnswerKind} (call : Call kind)
    (reply : Reply kind.Answer) :
    (site.noteReply call reply).ledger compiles = site.ledger compiles :=
  noteReply_unseen (·.ledger compiles) (fun site => site.ledger_log compiles) ..

@[simp] theorem ledger_noteCompile (reply : Reply Status) :
    (site.noteCompile reply).ledger compiles = site.ledger compiles := by
  cases reply <;> simp [noteCompile]

@[simp] theorem ledger_notePanic :
    site.notePanic.ledger compiles = site.ledger compiles :=
  ledger_log ..

@[simp] theorem ledger_endDelivery (count : Nat) :
    (site.endDelivery count).ledger compiles = site.ledger compiles :=
  ledger_record_quiet site compiles rfl rfl

/-- An engine has no say in what becomes of units. -/
@[simp] theorem ledger_perform (engine : Engine η σ) {kind : AnswerKind} (ticket : Option Nat)
    (call : Call kind) :
    (site.perform engine ticket call).2.ledger compiles = site.ledger compiles := by
  simp [perform, ledger, Entry.invocation?, Entry.abandonment?]

theorem ledger_enqueue (finished : FinishedJob) :
    (site.enqueue finished).ledger compiles = { site.ledger compiles with
      queue := (site.ledger compiles).queue ++ [finished] } := by
  simp [enqueue, ledger, record, Host.record, Machine.record, Entry.invocation?,
    Entry.abandonment?]

theorem ledger_start (runner : Runner) (finished : FinishedJob) :
    (site.start runner finished).ledger compiles = { site.ledger compiles with
      invocations := (site.ledger compiles).invocations ++ [finished.invocation runner] } := by
  unfold start
  split <;> simp [ledger, record, Host.record, Machine.record, Entry.invocation?,
    Entry.abandonment?, Session.resolve, FinishedJob.invocation]

theorem ledger_abandon (units : List FinishedJob) :
    (site.abandon units).ledger compiles = { site.ledger compiles with
      abandonments := (site.ledger compiles).abandonments ++ units.map FinishedJob.ticket } := by
  induction units generalizing site with
  | nil => simp [abandon]
  | cons finished units ih =>
      have first : abandon (finished :: units) site = abandon units
          { site.record (.abandoned site.session.id finished.ticket) with
            session := site.session.resolve finished.ticket (.rejected .abandoned) } := rfl
      rw [first, ih]
      simp [ledger, record, Host.record, Machine.record, Entry.invocation?,
        Entry.abandonment?, Session.resolve]

theorem ledger_close :
    site.close.ledger compiles = { site.ledger compiles with
      isOpen := false
      queue := []
      abandonments := (site.ledger compiles).abandonments ++
        (site.ledger compiles).queue.map FinishedJob.ticket } := by
  have abandoned := ledger_abandon site compiles site.session.queue
  simp only [ledger, Ledger.mk.injEq] at abandoned
  simp [close, ledger, abandoned]

theorem ledger_register (completion : Completion) :
    (site.register completion).ledger compiles = { site.ledger compiles with
      submitted := site.session.submitted + 1 } := by
  simp [register, ledger, record, Host.record, Machine.record, Entry.invocation?,
    Entry.abandonment?]

theorem ledger_dispatch (runner : Runner) (job : Job) :
    ∃ waiting, waiting.Perm (job :: site.session.waiting) ∧
      (site.dispatch runner job).ledger compiles = { site.ledger compiles with waiting } := by
  have placed (message : String) (waiting : List Job) :
      ({ site.log .debug message with session := { site.session with waiting } } :
        Site η σ).ledger compiles = { site.ledger compiles with waiting } := by
    change { (site.log .debug message).ledger compiles with waiting } = _
    rw [ledger_log]
  cases runner with
  | worker => exact ⟨_, .refl _, placed _ _⟩
  | caller => exact ⟨_, List.perm_append_singleton _ _, placed _ _⟩
  | messenger => exact ⟨_, List.perm_append_singleton _ _, placed _ _⟩

theorem ledger_rejectToQueue (error : DispatchError) (job : Job)
    (queued : site.session.delivery = .queued) :
    (site.reject error job).ledger compiles = { site.ledger compiles with
      queue := (site.ledger compiles).queue ++ [{ job, error := some error }] } := by
  simp [reject, queued, ledger_enqueue]

theorem ledger_rejectAway (error : DispatchError) (job : Job)
    (worker : site.session.delivery = .worker) :
    (site.reject error job).ledger compiles = { site.ledger compiles with
      returning := (site.ledger compiles).returning ++ [{ job, error := some error }] } := by
  let logged :=
    site.log .debug (site.idText ++ ": rejecting async compile: " ++ error.message)
  simp only [reject]
  split
  case h_1 queued => exact absurd (worker.symm.trans queued) (by decide)
  case h_2 =>
    change { logged.ledger compiles with
      returning := (logged.ledger compiles).returning ++
        [({ job, error := some error } : FinishedJob)] } = _
    rw [ledger_log]

theorem ledger_takeUp? {position : Nat} {site after : Site η σ}
    (taken : site.takeUp? position = some after) :
    ∃ job, site.session.held = none ∧ site.session.waiting[position]? = some job ∧
      after.ledger compiles = { site.ledger compiles with
        waiting := site.session.waiting.eraseIdx position
        held := some job } := by
  unfold takeUp? at taken
  split at taken
  case h_1 job free found =>
    cases taken
    refine ⟨job, free, found, ?_⟩
    change { (site.takeEngine "compile_async").ledger compiles with
      waiting := site.session.waiting.eraseIdx position
      held := some job } = _
    rw [ledger_takeEngine]
  case h_2 => cases taken

theorem ledger_compile? {engine : Engine η σ} {job : Job} {site after : Site η σ}
    (held : site.session.held = some job) (compiled : site.compile? engine = some after) :
    after.ledger compiles = { site.ledger compiles with
      held := none
      compiled := site.session.compiled ++
        [job.answered (site.perform engine (some job.ticket) (.compileString job.source)).1] } := by
  let reply := (site.perform engine (some job.ticket) (.compileString job.source)).1
  let noted :=
    (site.perform engine (some job.ticket) (.compileString job.source)).2.noteCompile reply
  have quiet : noted.ledger compiles = site.ledger compiles := by
    rw [ledger_noteCompile, ledger_perform]
  simp only [compile?, held, Option.map_some, Option.some.injEq] at compiled
  subst after
  change { noted.ledger compiles with
    held := none
    compiled := (noted.ledger compiles).compiled ++ [job.answered reply] } = _
  rw [quiet]
  rfl

/-- Taking a compiled unit does not change whether it goes to a queue. -/
theorem hasQueue_takeCompiled? {position : Nat} {finished : FinishedJob} {site rest : Site η σ}
    (taken : site.takeCompiled? position = some (finished, rest)) :
    rest.hasQueue = true ↔ site.session.delivery = .queued ∧ site.session.isOpen = true := by
  obtain ⟨unit, -, same⟩ := Option.map_eq_some_iff.mp taken
  cases same
  exact decide_eq_true_iff

theorem ledger_takeCompiled? {position : Nat} {finished : FinishedJob} {site rest : Site η σ}
    (taken : site.takeCompiled? position = some (finished, rest)) :
    site.session.compiled[position]? = some finished ∧
      rest.ledger compiles = { site.ledger compiles with
        compiled := site.session.compiled.eraseIdx position } := by
  simp only [takeCompiled?, Option.map_eq_some_iff, Prod.mk.injEq] at taken
  obtain ⟨found, member, rfl, rfl⟩ := taken
  exact ⟨member, rfl⟩

theorem ledger_takeReturning? {position : Nat} {finished : FinishedJob} {site rest : Site η σ}
    (taken : site.takeReturning? position = some (finished, rest)) :
    site.session.returning[position]? = some finished ∧
      rest.ledger compiles = { site.ledger compiles with
        returning := site.session.returning.eraseIdx position } := by
  simp only [takeReturning?, Option.map_eq_some_iff, Prod.mk.injEq] at taken
  obtain ⟨found, member, rfl, rfl⟩ := taken
  exact ⟨member, rfl⟩

theorem ledger_takeQueued? {finished : FinishedJob} {site rest : Site η σ}
    (taken : site.takeQueued? = some (finished, rest)) :
    ∃ queue, site.session.queue = finished :: queue ∧
      rest.ledger compiles = { site.ledger compiles with queue } := by
  unfold takeQueued? at taken
  split at taken
  case h_1 => cases taken
  case h_2 first queue filled =>
    cases taken
    exact ⟨queue, filled, rfl⟩

/-- Submitting a unit accepts it, or rejects it the way completions are delivered. -/
theorem ledger_submit (runner : Runner) (source : String) (completion : Completion)
    {move : Move} (submits : move.source? = some source) (isOpen : site.session.isOpen = true) :
    Ledger.Step move (site.ledger compiles)
      ((site.submit runner source completion).ledger compiles) := by
  let job : Job := { ticket := site.session.submitted, source, completion }
  have registered := ledger_register site compiles completion
  have sessionRegistered : (site.register completion).session.mode = site.session.mode ∧
      (site.register completion).session.pool = site.session.pool ∧
      (site.register completion).session.delivery = site.session.delivery ∧
      (site.register completion).session.waiting = site.session.waiting :=
    ⟨rfl, rfl, rfl, rfl⟩
  obtain ⟨mode, pool, delivery, waiting⟩ := sessionRegistered
  have rejects (error : DispatchError)
      (rejected : (site.ledger compiles).setup.rejection? = some error) :
      Ledger.Step move (site.ledger compiles)
        (((site.register completion).reject error job).ledger compiles) := by
    cases way : site.session.delivery with
    | queued =>
        rw [ledger_rejectToQueue _ _ _ _ (delivery.trans way), registered]
        exact .rejectToQueue rejected way isOpen submits rfl
    | worker =>
        rw [ledger_rejectAway _ _ _ _ (delivery.trans way), registered]
        exact .rejectAway rejected way isOpen submits rfl
  unfold submit
  simp only [mode, pool]
  by_cases runs : site.session.mode.canRun = true
  · rw [if_pos runs]
    cases built : site.session.pool with
    | ok count =>
        obtain ⟨joined, permutation, dispatched⟩ :=
          ledger_dispatch (site.register completion) compiles runner job
        change Ledger.Step move _ (((site.register completion).dispatch runner job).ledger compiles)
        rw [dispatched, registered]
        exact .accept (by simp [Setup.rejection?, ledger, runs, built]) isOpen submits rfl
          (waiting ▸ permutation)
    | error reason =>
        exact rejects _ (by simp [Setup.rejection?, ledger, runs, built])
  · rw [if_neg runs]
    exact rejects _ (by simp [Setup.rejection?, ledger, runs])

end Site

namespace Answer

/-- Whether an answer goes to the worker of a unit. -/
def isForUnit (answer : Answer) : Bool :=
  match answer.origin with
  | .unit _ => true
  | .caller _ => false

end Answer

namespace Scene

variable {η σ : Type}

/-- The ledger of a scene. -/
def ledger (scene : Scene η σ) : Ledger :=
  scene.site.ledger (scene.calls.filter Answer.isForUnit)

theorem ledger_start (runner : Runner) (finished : FinishedJob) (scene : Scene η σ) :
    (scene.start runner finished).ledger = { scene.ledger with
      invocations := scene.ledger.invocations ++ [finished.invocation runner] } :=
  Site.ledger_start ..

theorem step_of_site_eq {scene : Scene η σ} {site : Site η σ} {ledger : Ledger} {move : Move}
    (reached : site.ledger (scene.calls.filter Answer.isForUnit) = ledger)
    (step : Ledger.Step move scene.ledger ledger) :
    Ledger.Step move scene.ledger { scene with site }.ledger := by
  subst ledger
  exact step

/-- Every move does to the ledger what `Ledger.Step` says. -/
theorem ledger_move? {engine : Engine η σ} {scene after : Scene η σ} {move : Move}
    (moved : scene.move? engine move = some after) :
    Ledger.Step move scene.ledger after.ledger := by
  have unchanged (quiet : move.movesUnits = false) (same : after.ledger = scene.ledger) :
      Ledger.Step move scene.ledger after.ledger :=
    same ▸ .still quiet
  cases Moves.of_move? moved with
  | ask | complete | beginDelivery | completeDelivery | giveUpDelivery | dropFuture =>
      exact unchanged rfl rfl
  | acquire => exact unchanged rfl (Site.ledger_takeEngine ..)
  | answer =>
      apply unchanged rfl
      simp [ledger, Answer.isForUnit]
  | tell => exact unchanged rfl (Site.ledger_noteReply ..)
  | giveUp => exact unchanged rfl (Site.ledger_notePanic ..)
  | endDelivery => exact unchanged rfl (Site.ledger_endDelivery ..)
  | submit isOpen | resubmit isOpen => exact Site.ledger_submit _ _ _ _ _ rfl isOpen
  | takeUp _ taken =>
      obtain ⟨job, free, found, reached⟩ :=
        Site.ledger_takeUp? (scene.calls.filter Answer.isForUnit) taken
      exact step_of_site_eq reached (.takeUp free found)
  | @compile job site held compiled =>
      have reached := Site.ledger_compile?
        (scene.calls.filter Answer.isForUnit ++ [scene.compileAnswer engine job]) held compiled
      simp only [Scene.ledger, List.filter_append]
      change Ledger.Step _ _ (site.ledger (_ ++ [scene.compileAnswer engine job]))
      rw [reached]
      exact .compile _ held
  | enqueue taken hasQueue =>
      obtain ⟨found, reached⟩ :=
        Site.ledger_takeCompiled? (scene.calls.filter Answer.isForUnit) taken
      have way := (Site.hasQueue_takeCompiled? taken).mp hasQueue
      apply step_of_site_eq (Site.ledger_enqueue ..)
      rw [reached]
      exact .enqueue way.1 way.2 found
  | finish taken noQueue =>
      obtain ⟨found, reached⟩ :=
        Site.ledger_takeCompiled? (scene.calls.filter Answer.isForUnit) taken
      apply step_of_site_eq (Site.ledger_start ..)
      rw [reached]
      exact .invokeCompiled (fun way => noQueue ((Site.hasQueue_takeCompiled? taken).mpr way)) found
  | arrive taken =>
      obtain ⟨found, reached⟩ :=
        Site.ledger_takeReturning? (scene.calls.filter Answer.isForUnit) taken
      apply step_of_site_eq (Site.ledger_start ..)
      rw [reached]
      exact .invokeReturning found
  | deliverNext _ taken =>
      obtain ⟨queue, filled, reached⟩ :=
        Site.ledger_takeQueued? (scene.calls.filter Answer.isForUnit) taken
      apply step_of_site_eq (Site.ledger_start ..)
      rw [reached]
      exact .invokeQueued filled
  | close isOpen => exact step_of_site_eq (Site.ledger_close ..) (.close isOpen)

end Scene

end CompileSession
