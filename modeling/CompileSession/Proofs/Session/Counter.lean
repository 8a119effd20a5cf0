import CompileSession.Proofs.Session.Conservation
import CompileSession.Proofs.Session.Desk

/-!
# Passing through the queue

A counter is the part of a scene that has to do with the queue of a session: which units entered it,
which were delivered and to whom, and what callers were told.  `Scene.counter_move?` says once what
every move does to it, in a session that queues what is finished.
-/

namespace CompileSession

/-- The unit of a session that entered its queue, if an entry tells of one. -/
def Entry.entrance? (session : Nat) : Entry → Option Nat
  | .queued owner ticket => if owner = session then some ticket else none
  | _ => none

/-- What a caller of a session was told about deliveries, if an entry tells of it. -/
def Entry.count? (session : Nat) : Entry → Option Nat
  | .delivered owner count => if owner = session then some count else none
  | _ => none

namespace Journal

/-- The units that entered a session's queue, in order. -/
def entrances (session : Nat) (journal : Journal) : List Nat :=
  journal.filterMap (Entry.entrance? session)

/-- What callers of a session were told about deliveries, in order. -/
def counts (session : Nat) (journal : Journal) : List Nat :=
  journal.filterMap (Entry.count? session)

theorem filterMap_concat {α : Type} (read : Entry → Option α) (journal : Journal)
    (entry : Entry) :
    (journal ++ [entry]).filterMap read = journal.filterMap read ++ (read entry).toList := by
  cases told : read entry <;> simp [told]

theorem filterMap_ofMachine {α : Type} {read : Entry → Option α}
    (quiet : ∀ entry, entry.ofMachine = true → read entry = none) (journal : Journal) :
    (journal.filter Entry.ofMachine).filterMap read = [] := by
  apply List.filterMap_eq_nil_iff.mpr
  intro entry member
  exact quiet entry (List.mem_filter.mp member).2

/-- What an engine does to the journal is of no interest to who reads nothing of it. -/
theorem filterMap_perform {α : Type} {read : Entry → Option α} {kind : AnswerKind}
    {session : Nat} {ticket : Option Nat} {call : Call kind} {reply : Reply kind.Answer}
    (quiet : ∀ entry, entry.ofMachine = true → read entry = none)
    (own : read (.engineCall session ticket call reply) = none) (before journal : Journal) :
    (before ++ journal.filter Entry.ofMachine ++
        [Entry.engineCall session ticket call reply]).filterMap read = before.filterMap read := by
  rw [filterMap_concat, own, List.filterMap_append, filterMap_ofMachine quiet, List.append_nil,
    Option.toList_none, List.append_nil]

end Journal

/-- What went into a session's queue, and what callers were told came out. -/
structure Passage where
  entrances : List Nat
  counts : List Nat

namespace Site

variable {η σ : Type} (site : Site η σ)

def passage : Passage where
  entrances := site.host.journal.entrances site.session.id
  counts := site.host.journal.counts site.session.id

theorem passage_record (entry : Entry) :
    (site.record entry).passage =
      { entrances := site.passage.entrances ++ (entry.entrance? site.session.id).toList
        counts := site.passage.counts ++ (entry.count? site.session.id).toList } :=
  congrArg₂ Passage.mk (Journal.filterMap_concat ..) (Journal.filterMap_concat ..)

theorem passage_record_quiet (entry : Entry) (inside : entry.entrance? site.session.id = none)
    (told : entry.count? site.session.id = none) : (site.record entry).passage = site.passage := by
  rw [passage_record, inside, told, Option.toList_none, List.append_nil, List.append_nil]

@[simp] theorem passage_log (level : Log.Level) (message : String)
    (fields : List (String × Log.Value)) :
    (site.log level message fields).passage = site.passage :=
  passage_record_quiet site _ rfl rfl

@[simp] theorem passage_takeEngine (operation : String) :
    (site.takeEngine operation).passage = site.passage :=
  passage_log ..

theorem passage_noteReply {kind : AnswerKind} (call : Call kind) (reply : Reply kind.Answer) :
    (site.noteReply call reply).passage = site.passage :=
  noteReply_unseen passage passage_log ..

theorem passage_noteCompile (reply : Reply Status) :
    (site.noteCompile reply).passage = site.passage := by
  cases reply with
  | returned => rfl
  | panicked => exact passage_log ..

theorem passage_perform (engine : Engine η σ) {kind : AnswerKind} (ticket : Option Nat)
    (call : Call kind) : (site.perform engine ticket call).2.passage = site.passage := by
  have entrance (entry : Entry) (ofMachine : entry.ofMachine = true) :
      entry.entrance? site.session.id = none := by
    cases entry <;> first | rfl | cases ofMachine
  have count (entry : Entry) (ofMachine : entry.ofMachine = true) :
      entry.count? site.session.id = none := by
    cases entry <;> first | rfl | cases ofMachine
  exact congrArg₂ Passage.mk (Journal.filterMap_perform entrance rfl _ _)
    (Journal.filterMap_perform count rfl _ _)

theorem passage_enqueue (finished : FinishedJob) :
    (site.enqueue finished).passage = { site.passage with
      entrances := site.passage.entrances ++ [finished.ticket] } := by
  have recorded := site.passage_record (.queued site.session.id finished.ticket)
  simp only [Entry.entrance?, Entry.count?, if_true, Option.toList_some, Option.toList_none,
    List.append_nil] at recorded
  exact recorded

theorem passage_endDelivery (count : Nat) :
    (site.endDelivery count).passage = { site.passage with
      counts := site.passage.counts ++ [count] } := by
  rw [endDelivery, passage_record]
  simp [Entry.entrance?, Entry.count?]

theorem passage_start (runner : Runner) (finished : FinishedJob) :
    (site.start runner finished).passage = site.passage := by
  have quiet := site.passage_record_quiet
    (.invoked site.session.id finished.ticket finished.outcome runner) rfl rfl
  unfold start
  split
  · exact quiet
  · exact quiet

theorem passage_abandon (units : List FinishedJob) :
    (site.abandon units).passage = site.passage := by
  induction units generalizing site with
  | nil => rfl
  | cons finished units ih =>
      refine (ih _).trans ?_
      exact site.passage_record_quiet (.abandoned site.session.id finished.ticket) rfl rfl

theorem passage_close : site.close.passage = site.passage :=
  passage_abandon site site.session.queue

theorem passage_register (completion : Completion) :
    (site.register completion).passage = site.passage :=
  site.passage_record_quiet
    (.submitted site.session.id site.session.submitted completion.isFuture) rfl rfl

theorem passage_submit_accepted {compiles : List Answer}
    (accepted : (site.ledger compiles).setup.rejection? = none) (runner : Runner)
    (source : String) (completion : Completion) :
    (site.submit runner source completion).passage = site.passage := by
  have mode : (site.register completion).session.mode = site.session.mode := rfl
  have pool : (site.register completion).session.pool = site.session.pool := rfl
  simp only [submit, mode, pool]
  by_cases runs : site.session.mode.canRun = true
  · rw [if_pos runs]
    cases built : site.session.pool with
    | ok count => exact (passage_log ..).trans (site.passage_register completion)
    | error reason => simp [Setup.rejection?, ledger, runs, built] at accepted
  · simp [Setup.rejection?, ledger, runs] at accepted

theorem passage_submit_rejected {compiles : List Answer} {error : DispatchError}
    (rejected : (site.ledger compiles).setup.rejection? = some error)
    (queued : site.session.delivery = .queued) (runner : Runner) (source : String)
    (completion : Completion) :
    (site.submit runner source completion).passage = { site.passage with
      entrances := site.passage.entrances ++ [site.session.submitted] } := by
  have mode : (site.register completion).session.mode = site.session.mode := rfl
  have pool : (site.register completion).session.pool = site.session.pool := rfl
  have rejects (error : DispatchError) (job : Job) :
      ((site.register completion).reject error job).passage = { site.passage with
        entrances := site.passage.entrances ++ [job.ticket] } := by
    have way : (site.register completion).session.delivery = .queued := queued
    simp only [reject, session_log, way]
    rw [passage_enqueue, passage_log, passage_register]
    rfl
  simp only [submit, mode, pool]
  by_cases runs : site.session.mode.canRun = true
  · rw [if_pos runs]
    cases built : site.session.pool with
    | ok count => simp [Setup.rejection?, ledger, runs, built] at rejected
    | error reason => exact rejects ..
  · rw [if_neg runs]
    exact rejects ..

theorem passage_takeUp? {position : Nat} {site after : Site η σ}
    (taken : site.takeUp? position = some after) : after.passage = site.passage := by
  simp only [takeUp?] at taken
  split at taken
  case h_1 job free found =>
    cases taken
    exact site.passage_log ..
  case h_2 => cases taken

theorem passage_compile? {engine : Engine η σ} {job : Job} {site after : Site η σ}
    (held : site.session.held = some job) (compiled : site.compile? engine = some after) :
    after.passage = site.passage := by
  simp only [compile?, held, Option.map_some, Option.some.injEq] at compiled
  subst after
  exact (passage_noteCompile ..).trans (site.passage_perform ..)

theorem passage_takeCompiled? {position : Nat} {finished : FinishedJob} {site rest : Site η σ}
    (taken : site.takeCompiled? position = some (finished, rest)) :
    rest.passage = site.passage := by
  simp only [takeCompiled?, Option.map_eq_some_iff, Prod.mk.injEq] at taken
  obtain ⟨found, -, -, rfl⟩ := taken
  rfl

theorem passage_takeQueued? {finished : FinishedJob} {site rest : Site η σ}
    (taken : site.takeQueued? = some (finished, rest)) : rest.passage = site.passage := by
  simp only [takeQueued?] at taken
  split at taken
  case h_1 => cases taken
  case h_2 =>
    cases taken
    rfl

end Site

/-- How many completions were begun for a caller that has asked for the delivery of completions. -/
def Drain.delivered (drain : Drain) : Nat :=
  drain.count + drain.running.toList.length

/-- Whether a move finishes a unit, given whether the session rejects all that are submitted. -/
def Move.finishes (rejecting : Bool) : Move → Bool
  | .finish _ => true
  | .submit _ _ | .resubmit _ _ _ => rejecting
  | _ => false

/-- Whether a move has to do with the queue. -/
def Move.usesQueue (rejecting : Bool) : Move → Bool
  | .complete _ _ | .beginDelivery | .deliverNext _ | .completeDelivery _ _ | .endDelivery _
  | .close => true
  | move => move.finishes rejecting

/-- What a scene has to do with the queue of its session. -/
structure Counter where
  rejecting : Bool
  isOpen : Bool
  /-- The units in the queue. -/
  queue : List Nat
  /-- The units that entered the queue. -/
  entrances : List Nat
  invocations : List Invocation
  abandonments : List Nat
  /-- What callers were told about deliveries. -/
  counts : List Nat
  drains : List Drain
  running : List Activation

/-- What a move may do to the counter. -/
inductive Counter.Step : Move → Counter → Counter → Prop where
  | still {move : Move} {counter : Counter} : move.usesQueue counter.rejecting = false →
      Step move counter counter
  | enter {move : Move} {counter : Counter} {ticket : Nat} : counter.isOpen = true →
      move.finishes counter.rejecting = true →
      Step move counter { counter with
        queue := counter.queue ++ [ticket]
        entrances := counter.entrances ++ [ticket] }
  | outlive {position : Nat} {counter : Counter} {invocation : Invocation}
      {running : List Activation} : counter.isOpen = false → invocation.runner = .worker →
      Step (.finish position) counter { counter with
        invocations := counter.invocations ++ [invocation]
        running }
  | beginDelivery {counter : Counter} : counter.isOpen = true →
      Step .beginDelivery counter { counter with drains := counter.drains ++ [{}] }
  | deliver {position count : Nat} {counter : Counter} {before after : List Drain}
      {rest : List Nat} {invocation : Invocation} {drain : Drain} :
      counter.drains = before ++ { count } :: after →
      counter.queue = invocation.ticket :: rest → invocation.runner = .caller →
      drain.delivered = count + 1 →
      Step (.deliverNext position) counter { counter with
        queue := rest
        invocations := counter.invocations ++ [invocation]
        drains := before ++ drain :: after }
  | completeDelivery {position count ticket : Nat} {counter : Counter}
      {before after : List Drain} :
      counter.drains = before ++ { count, running := some ticket } :: after →
      Step (.completeDelivery position false) counter { counter with
        drains := before ++ { count := count + 1 } :: after }
  | giveUp {position count ticket : Nat} {counter : Counter} {before after : List Drain} :
      counter.drains = before ++ { count, running := some ticket } :: after →
      Step (.completeDelivery position true) counter { counter with drains := before ++ after }
  | endDelivery {position count : Nat} {counter : Counter} {before after : List Drain} :
      counter.drains = before ++ { count } :: after → counter.queue = [] →
      Step (.endDelivery position) counter { counter with
        drains := before ++ after
        counts := counter.counts ++ [count] }
  | complete {position : Nat} {panics : Bool} {counter : Counter} {running : List Activation} :
      counter.running ≠ [] →
      Step (.complete position panics) counter { counter with running }
  | close {counter : Counter} : counter.isOpen = true → counter.drains = [] →
      Step .close counter { counter with
        isOpen := false
        queue := []
        abandonments := counter.abandonments ++ counter.queue }

namespace Scene

variable {η σ : Type}

/-- The counter of a ledger and what else there is to count. -/
def counterOf (ledger : Ledger) (passage : Passage) (drains : List Drain)
    (running : List Activation) : Counter where
  rejecting := ledger.setup.rejection?.isSome
  isOpen := ledger.isOpen
  queue := ledger.queue.map FinishedJob.ticket
  entrances := passage.entrances
  invocations := ledger.invocations
  abandonments := ledger.abandonments
  counts := passage.counts
  drains
  running

def counter (scene : Scene η σ) : Counter :=
  counterOf scene.ledger scene.site.passage scene.drains scene.running

theorem usesQueue_of_submits {move : Move} {source : String} (submits : move.source? = some source)
    (rejecting : Bool) :
    move.finishes rejecting = rejecting ∧ move.usesQueue rejecting = rejecting := by
  cases move with
  | submit | resubmit => exact ⟨rfl, rfl⟩
  | _ => cases submits

/-- Submitting a unit lets it into the queue if it is rejected, and else leaves the queue alone. -/
theorem counter_submit {scene : Scene η σ} {move : Move} {source : String} (runner : Runner)
    (completion : Completion) (queued : scene.session.delivery = .queued)
    (isOpen : scene.session.isOpen = true) (submits : move.source? = some source) :
    Counter.Step move scene.counter
      { scene with site := scene.site.submit runner source completion }.counter := by
  have step := scene.site.ledger_submit (scene.calls.filter Answer.isForUnit) runner source
    completion submits isOpen
  have accepts (accepted : scene.ledger.setup.rejection? = none) :=
    scene.site.passage_submit_accepted accepted runner source completion
  have rejects {error : DispatchError} (rejected : scene.ledger.setup.rejection? = some error) :=
    scene.site.passage_submit_rejected rejected queued runner source completion
  obtain ⟨finishes, uses⟩ := usesQueue_of_submits submits scene.counter.rejecting
  simp only [counter, ledger] at accepts rejects finishes uses ⊢
  generalize (scene.site.submit runner source completion).ledger
    (scene.calls.filter Answer.isForUnit) = after at step ⊢
  cases step with
  | still quiet =>
      rw [Move.source?_eq_none_of_quiet quiet] at submits
      cases submits
  | accept accepted =>
      rw [accepts accepted]
      refine .still (uses.trans ?_)
      simp [counterOf, accepted]
  | rejectToQueue rejected way still same numbered =>
      rw [rejects rejected]
      have reject : move.finishes scene.counter.rejecting = true :=
        finishes.trans (by simp [counterOf, rejected])
      have entered : Counter.Step move scene.counter { scene.counter with
          queue := scene.counter.queue ++ [scene.session.submitted]
          entrances := scene.counter.entrances ++ [scene.session.submitted] } :=
        .enter isOpen reject
      simp only [counterOf, List.map_append, List.map_cons, List.map_nil, FinishedJob.ticket,
        numbered]
      exact entered
  | rejectAway rejected worker =>
      have impossible := queued.symm.trans worker
      cases impossible
  | takeUp | compile | enqueue | invokeCompiled | invokeReturning | invokeQueued | close =>
      cases submits

/-- In a session that queues what is finished, every move does to the counter what `Counter.Step`
says. -/
theorem counter_move? {engine : Engine η σ} {scene after : Scene η σ} {move : Move}
    (queued : scene.session.delivery = .queued) (returning : scene.session.returning = [])
    (moved : scene.move? engine move = some after) :
    Counter.Step move scene.counter after.counter := by
  have unchanged (quiet : ∀ rejecting, move.usesQueue rejecting = false)
      (same : after.counter = scene.counter) :
      Counter.Step move scene.counter after.counter :=
    same ▸ .still (quiet _)
  have busy {position : Nat} {activation : Activation}
      (found : scene.running[position]? = some activation) : scene.running ≠ [] := by
    intro none
    rw [none] at found
    cases found
  cases Moves.of_move? moved with
  | ask | dropFuture => exact unchanged (fun _ => rfl) rfl
  | acquire =>
      apply unchanged (fun _ => rfl)
      simp only [counter, ledger, Site.ledger_takeEngine, Site.passage_takeEngine]
  | answer =>
      apply unchanged (fun _ => rfl)
      simp only [counter, Site.passage_perform]
      simp [ledger, Answer.isForUnit]
  | tell =>
      apply unchanged (fun _ => rfl)
      simp only [counter, ledger, Site.ledger_noteReply, Site.passage_noteReply]
  | @submit _ completion isOpen => exact counter_submit .caller completion queued isOpen rfl
  | @resubmit _ activation _ completion isOpen =>
      exact counter_submit activation.runner completion queued isOpen rfl
  | takeUp _ taken =>
      apply unchanged (fun _ => rfl)
      obtain ⟨job, free, found, reached⟩ :=
        Site.ledger_takeUp? (scene.calls.filter Answer.isForUnit) taken
      have passage := Site.passage_takeUp? taken
      simp only [counter, ledger, reached, passage]
      rfl
  | @compile job _ held compiled =>
      apply unchanged (fun _ => rfl)
      have reached := Site.ledger_compile?
        ((scene.calls ++ [scene.compileAnswer engine job]).filter Answer.isForUnit) held compiled
      have passage := Site.passage_compile? held compiled
      simp only [counter, ledger, reached, passage]
      rfl
  | enqueue taken hasQueue =>
      obtain ⟨found, reached⟩ :=
        Site.ledger_takeCompiled? (scene.calls.filter Answer.isForUnit) taken
      have passage := Site.passage_takeCompiled? taken
      simp only [counter, ledger, Site.ledger_enqueue, Site.passage_enqueue, reached, passage,
        counterOf, List.map_append, List.map_cons, List.map_nil]
      exact .enter ((Site.hasQueue_takeCompiled? taken).mp hasQueue).2 rfl
  | finish taken noQueue =>
      obtain ⟨found, reached⟩ :=
        Site.ledger_takeCompiled? (scene.calls.filter Answer.isForUnit) taken
      have passage := Site.passage_takeCompiled? taken
      have closed : scene.session.isOpen = false := by
        by_contra isOpen
        exact noQueue
          ((Site.hasQueue_takeCompiled? taken).mpr ⟨queued, eq_true_of_ne_false isOpen⟩)
      simp only [counter, start, ledger, Site.ledger_start, Site.passage_start, reached, passage]
      exact .outlive closed rfl
  | arrive taken =>
      obtain ⟨found, -⟩ := Site.ledger_takeReturning? [] taken
      have none : scene.site.session.returning = [] := returning
      rw [none] at found
      cases found
  | complete found => exact .complete (busy found)
  | giveUp found =>
      simp only [counter, ledger, Site.notePanic, Site.ledger_log, Site.passage_log]
      exact .complete (busy found)
  | beginDelivery isOpen => exact .beginDelivery isOpen
  | deliverNext found taken =>
      obtain ⟨before, later, split, set, -⟩ := exists_split found
      obtain ⟨queue, filled, reached⟩ :=
        Site.ledger_takeQueued? (scene.calls.filter Answer.isForUnit) taken
      have passage := Site.passage_takeQueued? taken
      simp only [counter, ledger, Site.ledger_start, Site.passage_start, reached, passage, set]
      refine .deliver split ?_ rfl ?_
      · exact congrArg (List.map FinishedJob.ticket) filled
      · split <;> simp [Drain.delivered]
  | completeDelivery found =>
      obtain ⟨before, later, split, set, -⟩ := exists_split found
      rw [set]
      exact .completeDelivery split
  | giveUpDelivery found =>
      obtain ⟨before, later, split, -, erase⟩ := exists_split found
      rw [erase]
      exact .giveUp split
  | endDelivery found empty =>
      obtain ⟨before, later, split, -, erase⟩ := exists_split found
      simp only [counter, ledger, Site.ledger_endDelivery, Site.passage_endDelivery, erase]
      refine .endDelivery split ?_
      exact congrArg (List.map FinishedJob.ticket) empty
  | close isOpen _ noDrain =>
      simp only [counter, ledger, Site.ledger_close, Site.passage_close]
      exact .close isOpen noDrain

end Scene

end CompileSession
