import CompileSession.Proofs.Session.Run
import Mathlib.Data.List.Perm.Basic

/-!
# Units are conserved

At every point of every run each submitted unit is in exactly one place: unfinished, in the queue,
invoked or abandoned.  Only the end of a session abandons units, namely those in its queue, and
all units that are unfinished by then are invoked later.
-/

namespace CompileSession

namespace Ledger

/-- Where a unit can be. -/
inductive Place where
  /-- It waits for a worker, is with one, or is a rejection on its way. -/
  | unfinished
  /-- It lies in the session's queue. -/
  | queued
  /-- Its completion was invoked. -/
  | invoked
  /-- Its completion went away without having been invoked. -/
  | abandoned
deriving DecidableEq, Repr

/-- The units in a place. -/
def tickets (ledger : Ledger) : Place → List Nat
  | .unfinished =>
    ledger.waiting.map Job.ticket ++ ledger.held.toList.map Job.ticket ++
      ledger.compiled.map FinishedJob.ticket ++ ledger.returning.map FinishedJob.ticket
  | .queued => ledger.queue.map FinishedJob.ticket
  | .invoked => ledger.invocations.map Invocation.ticket
  | .abandoned => ledger.abandonments

/-- How often a unit is in a place. -/
def occurrences (ledger : Ledger) (ticket : Nat) (place : Place) : Nat :=
  (ledger.tickets place).count ticket

/-- How often a unit is anywhere. -/
def total (ledger : Ledger) (ticket : Nat) : Nat :=
  ledger.occurrences ticket .unfinished + ledger.occurrences ticket .queued +
    ledger.occurrences ticket .invoked + ledger.occurrences ticket .abandoned

/-- Every unit that was submitted is somewhere, once. -/
def Conserved (ledger : Ledger) : Prop :=
  ∀ ticket, ledger.total ticket = if ticket < ledger.submitted then 1 else 0

theorem count_map_eraseIdx {α : Type} (ticketOf : α → Nat) {items : List α}
    {position : Nat} {item : α} (found : items[position]? = some item) (ticket : Nat) :
    (items.map ticketOf).count ticket =
      [ticketOf item].count ticket + ((items.eraseIdx position).map ticketOf).count ticket := by
  obtain ⟨inside, rfl⟩ := List.getElem?_eq_some_iff.mp found
  have permutation := (List.getElem_cons_eraseIdx_perm inside).map ticketOf
  rw [← permutation.count_eq ticket, List.map_cons, List.count_cons, List.count_singleton]
  exact Nat.add_comm _ _

@[simp] theorem ticket_answered (job : Job) (reply : Reply Status) :
    (job.answered reply).ticket = job.ticket := by
  cases reply <;> rfl

theorem total_eq_sum (ledger : Ledger) (ticket : Nat) :
    ledger.total ticket =
      (ledger.waiting.map Job.ticket).count ticket +
        (ledger.held.toList.map Job.ticket).count ticket +
        (ledger.compiled.map FinishedJob.ticket).count ticket +
        (ledger.returning.map FinishedJob.ticket).count ticket +
        (ledger.queue.map FinishedJob.ticket).count ticket +
        (ledger.invocations.map Invocation.ticket).count ticket +
        ledger.abandonments.count ticket := by
  simp only [total, occurrences, tickets, List.count_append]

theorem Step.submitted_eq {move : Move} {ledger after : Ledger} (step : ledger.Step move after) :
    after.submitted = ledger.submitted + if move.source?.isSome then 1 else 0 := by
  cases step with
  | still quiet => simp [Move.source?_eq_none_of_quiet quiet]
  | accept accepted isOpen submits => simp [submits]
  | rejectToQueue rejected queued isOpen submits => simp [submits]
  | rejectAway rejected worker isOpen submits => simp [submits]
  | takeUp | compile | enqueue | invokeCompiled | invokeReturning | invokeQueued | close => rfl

/-- A step puts the unit that it submits into one place, and loses or doubles no other. -/
theorem Step.total_eq {move : Move} {ledger after : Ledger} (step : ledger.Step move after)
    (ticket : Nat) :
    after.total ticket = ledger.total ticket +
      if move.source?.isSome then [ledger.submitted].count ticket else 0 := by
  rw [total_eq_sum, total_eq_sum]
  cases step with
  | still quiet => simp [Move.source?_eq_none_of_quiet quiet]
  | @accept _ _ job waiting accepted isOpen submits numbered permutation =>
      have joined := (permutation.map Job.ticket).count_eq ticket
      rw [List.map_cons, List.count_cons] at joined
      simp [submits, joined, numbered, List.count_singleton]
      omega
  | rejectToQueue rejected queued isOpen submits numbered =>
      simp [submits, FinishedJob.ticket, numbered]
      omega
  | rejectAway rejected worker isOpen submits numbered =>
      simp [submits, FinishedJob.ticket, numbered]
      omega
  | takeUp free found =>
      have taken := count_map_eraseIdx Job.ticket found ticket
      simp [taken, free, Move.source?]
      omega
  | compile reply held =>
      simp [held, Move.source?]
      omega
  | enqueue queued isOpen found =>
      have taken := count_map_eraseIdx FinishedJob.ticket found ticket
      simp [taken, Move.source?]
      omega
  | invokeCompiled noQueue found =>
      have taken := count_map_eraseIdx FinishedJob.ticket found ticket
      simp [taken, FinishedJob.invocation, Move.source?]
      omega
  | invokeReturning found =>
      have taken := count_map_eraseIdx FinishedJob.ticket found ticket
      simp [taken, FinishedJob.invocation, Move.source?]
      omega
  | invokeQueued filled =>
      simp [filled, FinishedJob.invocation, Move.source?, List.count_cons]
      omega
  | close isOpen =>
      simp [Move.source?]
      omega

theorem Conserved.step {move : Move} {ledger after : Ledger} (conserved : ledger.Conserved)
    (step : ledger.Step move after) : after.Conserved := by
  intro ticket
  rw [step.total_eq, step.submitted_eq, conserved ticket]
  by_cases submits : move.source?.isSome = true
  · simp only [submits, if_true, List.count_singleton, beq_iff_eq]
    split <;> split <;> split <;> omega
  · simp only [submits]
    rfl

theorem conserved_blank (setup : Setup) : (blank setup).Conserved := by
  intro ticket
  simp [total_eq_sum, blank]

theorem Conserved.unique {ledger : Ledger} (conserved : ledger.Conserved) {ticket : Nat}
    (submitted : ticket < ledger.submitted) :
    ∃ place, ledger.occurrences ticket place = 1 ∧
      ∀ other, other ≠ place → ledger.occurrences ticket other = 0 := by
  have once := conserved ticket
  rw [if_pos submitted, total] at once
  have elsewhere {place other : Place} (here : ledger.occurrences ticket place = 1)
      (different : other ≠ place) : ledger.occurrences ticket other = 0 := by
    cases place <;> cases other <;> first | exact (different rfl).elim | omega
  obtain here | here | here | here :
      ledger.occurrences ticket .unfinished = 1 ∨ ledger.occurrences ticket .queued = 1 ∨
        ledger.occurrences ticket .invoked = 1 ∨ ledger.occurrences ticket .abandoned = 1 := by
    omega
  · exact ⟨.unfinished, here, fun _ => elsewhere here⟩
  · exact ⟨.queued, here, fun _ => elsewhere here⟩
  · exact ⟨.invoked, here, fun _ => elsewhere here⟩
  · exact ⟨.abandoned, here, fun _ => elsewhere here⟩

/-- Only sessions with queued delivery have a queue, and only as long as they exist.  Rejections are
on their way only where units are rejected and there is no queue for them. -/
structure Routed (ledger : Ledger) : Prop where
  queue_eq_nil : ledger.setup.delivery = .worker ∨ ledger.isOpen = false → ledger.queue = []
  returning_eq_nil :
    ledger.setup.delivery = .queued ∨ ledger.setup.rejection? = none → ledger.returning = []

theorem routed_blank (setup : Setup) : (blank setup).Routed :=
  ⟨fun _ => rfl, fun _ => rfl⟩

theorem Routed.step {move : Move} {ledger after : Ledger} (routed : ledger.Routed)
    (step : ledger.Step move after) : after.Routed := by
  obtain ⟨queueEmpty, returningEmpty⟩ := routed
  cases step with
  | still | accept | takeUp | compile | invokeCompiled => exact ⟨queueEmpty, returningEmpty⟩
  | rejectToQueue rejected queued isOpen | enqueue queued isOpen =>
      refine ⟨?_, returningEmpty⟩
      rintro (worker | closed)
      · have impossible := queued.symm.trans worker
        cases impossible
      · have impossible := isOpen.symm.trans closed
        cases impossible
  | rejectAway rejected worker =>
      refine ⟨queueEmpty, ?_⟩
      rintro (queued | accepted)
      · have impossible := queued.symm.trans worker
        cases impossible
      · have impossible := accepted.symm.trans rejected
        cases impossible
  | invokeReturning found =>
      refine ⟨queueEmpty, ?_⟩
      intro nothing
      rw [returningEmpty nothing, List.eraseIdx_nil]
  | invokeQueued filled =>
      refine ⟨?_, returningEmpty⟩
      intro empty
      have impossible := filled.symm.trans (queueEmpty empty)
      cases impossible
  | close isOpen => exact ⟨fun _ => rfl, returningEmpty⟩

/-- How many moves of the workers and rejections are due at most, unless units are submitted. -/
def backlog (ledger : Ledger) : Nat :=
  3 * ledger.waiting.length + 2 * ledger.held.toList.length + ledger.compiled.length +
    ledger.returning.length

private theorem length_eraseIdx {α : Type} {items : List α} {position : Nat} {item : α}
    (found : items[position]? = some item) :
    (items.eraseIdx position).length + 1 = items.length := by
  obtain ⟨inside, -⟩ := List.getElem?_eq_some_iff.mp found
  rw [List.length_eraseIdx_of_lt inside]
  omega

theorem Step.isOpen_eq {move : Move} {ledger after : Ledger} (step : ledger.Step move after)
    (different : move ≠ .close) : after.isOpen = ledger.isOpen := by
  cases step with
  | close => exact (different rfl).elim
  | still | accept | rejectToQueue | rejectAway | takeUp | compile | enqueue | invokeCompiled
  | invokeReturning | invokeQueued => rfl

theorem Step.setup_eq {move : Move} {ledger after : Ledger} (step : ledger.Step move after) :
    after.setup = ledger.setup := by
  cases step <;> rfl

/-- Once the session is gone, every background move brings the units closer to their end. -/
theorem Step.closed {move : Move} {ledger after : Ledger} (step : ledger.Step move after)
    (closed : ledger.isOpen = false) :
    after.isOpen = false ∧
      after.backlog + [move].countP Move.isBackground ≤ ledger.backlog := by
  have unopened {P : Prop} (isOpen : ledger.isOpen = true) : P := by
    rw [closed] at isOpen
    cases isOpen
  cases step with
  | still quiet =>
      simp [closed, Move.isBackground_eq_false_of_quiet quiet]
  | accept accepted isOpen => exact unopened isOpen
  | rejectToQueue rejected queued isOpen => exact unopened isOpen
  | rejectAway rejected worker isOpen => exact unopened isOpen
  | takeUp free found =>
      have taken := length_eraseIdx found
      refine ⟨closed, ?_⟩
      simp [backlog, free, Move.isBackground]
      omega
  | compile reply held =>
      refine ⟨closed, ?_⟩
      simp [backlog, held, Move.isBackground]
      omega
  | enqueue queued isOpen => exact unopened isOpen
  | invokeCompiled noQueue found =>
      have taken := length_eraseIdx found
      refine ⟨closed, ?_⟩
      simp [backlog, Move.isBackground]
      omega
  | invokeReturning found =>
      have taken := length_eraseIdx found
      refine ⟨closed, ?_⟩
      simp [backlog, Move.isBackground]
      omega
  | invokeQueued filled =>
      refine ⟨closed, ?_⟩
      simp [backlog, Move.isBackground]
  | close isOpen => exact unopened isOpen

/-- A unit is invoked by workers only. -/
def InvokedByWorkers (ledger : Ledger) (ticket : Nat) : Prop :=
  ∀ invocation ∈ ledger.invocations, invocation.ticket = ticket → invocation.runner = .worker

/-- Once a session is gone, only workers invoke completions, unless there are rejections on their
way. -/
theorem Step.invokedByWorkers {move : Move} {ledger after : Ledger}
    (step : ledger.Step move after) (routed : ledger.Routed) (closed : ledger.isOpen = false)
    (unrejected : ledger.setup.delivery = .queued ∨ ledger.setup.rejection? = none) {ticket : Nat}
    (workers : ledger.InvokedByWorkers ticket) : after.InvokedByWorkers ticket := by
  cases step with
  | still | accept | rejectToQueue | rejectAway | takeUp | compile | enqueue | close =>
      exact workers
  | invokeCompiled noQueue found =>
      intro invocation member same
      rcases List.mem_append.mp member with earlier | new
      · exact workers invocation earlier same
      · rw [List.mem_singleton.mp new]
        rfl
  | invokeReturning found =>
      rw [routed.returning_eq_nil unrejected] at found
      cases found
  | invokeQueued filled =>
      have impossible := filled.symm.trans (routed.queue_eq_nil (.inr closed))
      cases impossible

/-- Only the end of a session abandons units, and only those in its queue. -/
theorem Step.abandonments_eq {move : Move} {ledger after : Ledger}
    (step : ledger.Step move after) :
    after.abandonments = ledger.abandonments ∨
      move = .close ∧
        after.abandonments = ledger.abandonments ++ ledger.queue.map FinishedJob.ticket := by
  cases step with
  | close => exact .inr ⟨rfl, rfl⟩
  | still | accept | rejectToQueue | rejectAway | takeUp | compile | enqueue | invokeCompiled
  | invokeReturning | invokeQueued => exact .inl rfl

theorem Conserved.invoked_of_unfinished_eq_nil {ledger : Ledger} (conserved : ledger.Conserved)
    (routed : ledger.Routed) (closed : ledger.isOpen = false)
    (finished : ledger.tickets .unfinished = []) {ticket : Nat}
    (submitted : ticket < ledger.submitted)
    (kept : ledger.occurrences ticket .abandoned = 0) :
    ledger.occurrences ticket .invoked = 1 := by
  have once := conserved ticket
  have noQueue : ledger.occurrences ticket .queued = 0 := by
    simp [occurrences, tickets, routed.queue_eq_nil (.inr closed)]
  have noneLeft : ledger.occurrences ticket .unfinished = 0 := by
    simp [occurrences, finished]
  rw [if_pos submitted, total] at once
  omega

end Ledger

namespace Scene

variable {η σ : Type} {engine : Engine η σ}

/-- No caller is using the session. -/
def Deserted (scene : Scene η σ) : Prop :=
  scene.operations = [] ∧ scene.drains = []

/-- Nothing is left to do in the background. -/
def Quiet (engine : Engine η σ) (scene : Scene η σ) : Prop :=
  ∀ move, move.isBackground = true → scene.move? engine move = none

/-- A session that is gone was left by all its callers, and no new ones come. -/
theorem deserted_move? {scene after : Scene η σ} {move : Move}
    (deserted : scene.session.isOpen = false → scene.Deserted)
    (moved : scene.move? engine move = some after) :
    after.session.isOpen = false → after.Deserted := by
  intro closed
  have moves := Moves.of_move? moved
  by_cases closes : move = .close
  · subst move
    cases moves with
    | close _ noOperation noDrain => exact ⟨noOperation, noDrain⟩
  have before : scene.session.isOpen = false := by
    rw [← closed]
    exact ((ledger_move? moved).isOpen_eq closes).symm
  obtain ⟨noOperation, noDrain⟩ := deserted before
  cases moves with
  | close => exact (closes rfl).elim
  | ask isOpen | submit isOpen | resubmit isOpen | beginDelivery isOpen =>
      rw [before] at isOpen
      cases isOpen
  | acquire found | answer found | tell found =>
      rw [noOperation] at found
      cases found
  | deliverNext found | completeDelivery found | giveUpDelivery found | endDelivery found =>
      rw [noDrain] at found
      cases found
  | takeUp | compile | enqueue | finish | arrive | complete | giveUp | dropFuture =>
      exact ⟨noOperation, noDrain⟩

theorem Quiet.unfinished_eq_nil {scene : Scene η σ} (quiet : scene.Quiet engine)
    (deserted : scene.Deserted) : scene.ledger.tickets .unfinished = [] := by
  have heldNone : scene.session.held = none := by
    cases held : scene.session.held with
    | none => rfl
    | some job =>
        have stuck := quiet .compile rfl
        have holds : scene.site.session.held = some job := held
        simp [move?, compile?, held, Site.compile?, holds] at stuck
  have waitingNil : scene.session.waiting = [] := by
    cases waiting : scene.session.waiting with
    | nil => rfl
    | cons job rest =>
        have stuck := quiet (.takeUp 0) rfl
        have free : scene.site.session.held = none := heldNone
        have filled : scene.site.session.waiting = job :: rest := waiting
        simp [move?, takeUp?, engineFree, heldNone, deserted.1, Site.takeUp?, free, filled] at stuck
  have compiledNil : scene.session.compiled = [] := by
    cases compiled : scene.session.compiled with
    | nil => rfl
    | cons finished rest =>
        have stuck := quiet (.finish 0) rfl
        have filled : scene.site.session.compiled = finished :: rest := compiled
        simp [move?, finish?, Site.takeCompiled?, filled] at stuck
  have returningNil : scene.session.returning = [] := by
    cases returning : scene.session.returning with
    | nil => rfl
    | cons finished rest =>
        have stuck := quiet (.arrive 0) rfl
        have filled : scene.site.session.returning = finished :: rest := returning
        simp [move?, arrive?, Site.takeReturning?, filled] at stuck
  have session : scene.site.session = scene.session := rfl
  simp [Ledger.tickets, ledger, Site.ledger, session, heldNone, waitingNil, compiledNil,
    returningNil]

/-- Once the session is gone, a run makes no more background moves than are due. -/
theorem follow?_backlog {start finish : Scene η σ} {schedule : List Move}
    (closed : start.session.isOpen = false)
    (followed : start.follow? engine schedule = some finish) :
    finish.session.isOpen = false ∧
      finish.ledger.backlog + schedule.countP Move.isBackground ≤ start.ledger.backlog := by
  apply follow?_induction (motive := fun schedule scene => scene.session.isOpen = false ∧
    scene.ledger.backlog + schedule.countP Move.isBackground ≤ start.ledger.backlog)
    ⟨closed, Nat.le_refl _⟩ _ followed
  rintro schedule move scene after - ⟨still, bounded⟩ moved
  obtain ⟨gone, less⟩ := (ledger_move? moved).closed still
  refine ⟨gone, ?_⟩
  rw [List.countP_append]
  omega

/-- Once the session is gone, the background comes to rest. -/
theorem exists_quiet (start : Scene η σ) (closed : start.session.isOpen = false) :
    ∃ schedule finish, start.follow? engine schedule = some finish ∧ finish.Quiet engine := by
  induction due : start.ledger.backlog using Nat.strongRecOn generalizing start with
  | ind due ih =>
      by_cases quiet : start.Quiet engine
      · exact ⟨[], start, rfl, quiet⟩
      · simp only [Quiet, not_forall] at quiet
        obtain ⟨move, background, possible⟩ := quiet
        obtain ⟨after, moved⟩ := Option.ne_none_iff_exists'.mp possible
        obtain ⟨gone, less⟩ := (ledger_move? moved).closed closed
        simp only [List.countP_singleton, background, if_true] at less
        obtain ⟨schedule, finish, followed, rest⟩ := ih _ (by omega) after gone rfl
        exact ⟨move :: schedule, finish, by simp [follow?, moved, ← followed], rest⟩

theorem follow?_deserted {site : Site η σ} {schedule : List Move} {finish : Scene η σ}
    (followed : (idle site).follow? engine schedule = some finish) :
    finish.session.isOpen = false → finish.Deserted :=
  follow?_induction (motive := fun _ scene => scene.session.isOpen = false → scene.Deserted)
    (fun _ => ⟨rfl, rfl⟩) (fun _ deserted moved => deserted_move? deserted moved) followed

theorem follow?_conserved {site : Site η σ} (fresh : site.Fresh) {schedule : List Move}
    {finish : Scene η σ} (followed : (idle site).follow? engine schedule = some finish) :
    finish.ledger.Conserved :=
  follow?_ledger (fresh.ledger_idle ▸ Ledger.conserved_blank _) Ledger.Conserved.step followed

theorem follow?_routed {site : Site η σ} (fresh : site.Fresh) {schedule : List Move}
    {finish : Scene η σ} (followed : (idle site).follow? engine schedule = some finish) :
    finish.ledger.Routed :=
  follow?_ledger (fresh.ledger_idle ▸ Ledger.routed_blank _) Ledger.Routed.step followed

theorem follow?_submitted {start finish : Scene η σ} {schedule : List Move}
    (followed : start.follow? engine schedule = some finish) :
    finish.session.submitted =
      start.session.submitted + schedule.countP (·.source?.isSome) := by
  apply follow?_induction (motive := fun schedule scene => scene.session.submitted =
    start.session.submitted + schedule.countP (·.source?.isSome)) rfl _ followed
  intro schedule move scene after _ counted moved
  have more : after.session.submitted =
      scene.session.submitted + if move.source?.isSome then 1 else 0 :=
    (ledger_move? moved).submitted_eq
  rw [more, counted, List.countP_append, List.countP_singleton]
  exact Nat.add_assoc ..

theorem follow?_setup {start finish : Scene η σ} {schedule : List Move}
    (followed : start.follow? engine schedule = some finish) :
    finish.ledger.setup = start.ledger.setup :=
  follow?_ledger (motive := fun ledger => ledger.setup = start.ledger.setup) rfl
    (fun same step => step.setup_eq.trans same) followed

theorem follow?_abandonments {start finish : Scene η σ} {schedule : List Move}
    (closed : start.session.isOpen = false)
    (followed : start.follow? engine schedule = some finish) :
    finish.ledger.abandonments = start.ledger.abandonments := by
  apply follow?_induction (motive := fun _ scene => scene.ledger.abandonments =
    start.ledger.abandonments) rfl _ followed
  intro schedule move scene after before same moved
  have still : scene.session.isOpen = false := (follow?_backlog closed before).1
  rcases (ledger_move? moved).abandonments_eq with kept | ⟨closes, -⟩
  · exact kept.trans same
  · subst move
    cases Moves.of_move? moved with
    | close isOpen =>
        rw [still] at isOpen
        cases isOpen

theorem invoked_of_quiet {site : Site η σ} (fresh : site.Fresh) {schedule later : List Move}
    {gone finish : Scene η σ} (followed : (idle site).follow? engine schedule = some gone)
    (closed : gone.session.isOpen = false) (continued : gone.follow? engine later = some finish)
    (quiet : finish.Quiet engine) {ticket : Nat}
    (unfinished : gone.ledger.occurrences ticket .unfinished = 1) :
    finish.ledger.occurrences ticket .invoked = 1 := by
  have whole : (idle site).follow? engine (schedule ++ later) = some finish := by
    rw [follow?_append, followed]
    exact continued
  have stillClosed := (follow?_backlog closed continued).1
  have once := follow?_conserved fresh followed ticket
  have submitted : ticket < gone.ledger.submitted := by
    by_contra unsubmitted
    rw [if_neg unsubmitted, Ledger.total] at once
    omega
  rw [if_pos submitted, Ledger.total] at once
  have kept : finish.ledger.occurrences ticket .abandoned = 0 := by
    have same : finish.ledger.occurrences ticket .abandoned =
        gone.ledger.occurrences ticket .abandoned :=
      congrArg (List.count ticket) (follow?_abandonments closed continued)
    omega
  have more : gone.session.submitted ≤ finish.session.submitted :=
    (follow?_submitted continued).symm ▸ Nat.le_add_right ..
  exact (follow?_conserved fresh whole).invoked_of_unfinished_eq_nil (follow?_routed fresh whole)
    stillClosed (quiet.unfinished_eq_nil (follow?_deserted whole stillClosed))
    (Nat.lt_of_lt_of_le submitted more) kept

theorem invokedByWorkers_of_closed {site : Site η σ} (fresh : site.Fresh)
    {schedule later : List Move} {gone finish : Scene η σ}
    (followed : (idle site).follow? engine schedule = some gone)
    (closed : gone.session.isOpen = false) (continued : gone.follow? engine later = some finish)
    (unrejected : gone.ledger.setup.delivery = .queued ∨ gone.ledger.setup.rejection? = none)
    {ticket : Nat} (unfinished : gone.ledger.occurrences ticket .unfinished = 1) :
    finish.ledger.InvokedByWorkers ticket := by
  apply follow?_induction (motive := fun _ scene => scene.ledger.InvokedByWorkers ticket)
    _ _ continued
  · intro invocation member same
    have once := follow?_conserved fresh followed ticket
    have invoked : 0 < gone.ledger.occurrences ticket .invoked :=
      List.count_pos_iff.mpr (List.mem_map.mpr ⟨invocation, member, same⟩)
    rw [Ledger.total] at once
    split at once <;> omega
  · intro schedule' move scene after before workers moved
    have whole : (idle site).follow? engine (schedule ++ schedule') = some scene := by
      rw [follow?_append, followed]
      exact before
    have setup := follow?_setup before
    exact (ledger_move? moved).invokedByWorkers (follow?_routed fresh whole)
      (follow?_backlog closed before).1 (setup ▸ unrejected) workers

theorem close_of_abandoned {site : Site η σ} (fresh : site.Fresh) {schedule : List Move}
    {finish after : Scene η σ} (followed : (idle site).follow? engine schedule = some finish)
    {move : Move} (moved : finish.move? engine move = some after) {ticket : Nat}
    (abandoned : finish.ledger.occurrences ticket .abandoned <
      after.ledger.occurrences ticket .abandoned) :
    move = .close ∧ finish.session.delivery = .queued ∧
      finish.ledger.occurrences ticket .queued = 1 := by
  have once := follow?_conserved fresh followed ticket
  rw [Ledger.total] at once
  rcases (ledger_move? moved).abandonments_eq with same | ⟨closes, more⟩
  · rw [Ledger.occurrences, Ledger.occurrences, Ledger.tickets, Ledger.tickets, same] at abandoned
    omega
  · have counted : after.ledger.occurrences ticket .abandoned =
        finish.ledger.occurrences ticket .abandoned +
          finish.ledger.occurrences ticket .queued := by
      simp only [Ledger.occurrences, Ledger.tickets, more, List.count_append]
    have queued : finish.ledger.occurrences ticket .queued = 1 := by
      split at once <;> omega
    refine ⟨closes, ?_, queued⟩
    cases way : finish.session.delivery with
    | queued => rfl
    | worker =>
        have empty := (follow?_routed fresh followed).queue_eq_nil (.inl way)
        simp [Ledger.occurrences, Ledger.tickets, empty] at queued

/-- At the end of every run each unit is in exactly one place.  Only the end of a session with
queued delivery abandons units, and only those in its queue; the others are invoked once the
background comes to rest, which it does after boundedly many moves. -/
theorem units_conserved {site : Site η σ} {schedule : List Move} {finish : Scene η σ}
    (fresh : site.Fresh) (followed : (idle site).follow? engine schedule = some finish) :
    finish.session.submitted = schedule.countP (·.source?.isSome) ∧
    (∀ ticket, if ticket < finish.session.submitted then
        ∃ place, finish.ledger.occurrences ticket place = 1 ∧
          ∀ other, other ≠ place → finish.ledger.occurrences ticket other = 0
      else ∀ place, finish.ledger.occurrences ticket place = 0) ∧
    (finish.session.delivery = .worker → finish.session.queue = []) ∧
    (∀ move after, finish.move? engine move = some after → ∀ ticket,
      finish.ledger.occurrences ticket .abandoned < after.ledger.occurrences ticket .abandoned →
        move = .close ∧ finish.session.delivery = .queued ∧
          finish.ledger.occurrences ticket .queued = 1) ∧
    (finish.session.isOpen = false →
      (∃ later rest, finish.follow? engine later = some rest ∧ rest.Quiet engine) ∧
      ∀ later rest, finish.follow? engine later = some rest →
        later.countP Move.isBackground ≤ finish.ledger.backlog ∧
        ∀ ticket, finish.ledger.occurrences ticket .unfinished = 1 →
          (finish.session.delivery = .queued ∨ finish.ledger.setup.rejection? = none →
            rest.ledger.InvokedByWorkers ticket) ∧
          (rest.Quiet engine → rest.ledger.occurrences ticket .invoked = 1)) := by
  refine ⟨?_, ?_, ?_, ?_, ?_⟩
  · have counted := follow?_submitted followed
    have none : (idle site).session.submitted = 0 :=
      congrArg Ledger.submitted fresh.ledger_idle
    rw [counted, none, Nat.zero_add]
  · intro ticket
    have conserved := follow?_conserved fresh followed
    split
    case isTrue submitted => exact conserved.unique submitted
    case isFalse unsubmitted =>
      intro place
      have nowhere : finish.ledger.total ticket = 0 :=
        (conserved ticket).trans (if_neg unsubmitted)
      rw [Ledger.total] at nowhere
      cases place <;> omega
  · intro worker
    exact (follow?_routed fresh followed).queue_eq_nil (.inl worker)
  · intro move after moved ticket abandoned
    exact close_of_abandoned fresh followed moved abandoned
  · intro closed
    refine ⟨exists_quiet finish closed, ?_⟩
    intro later rest continued
    have bounded := (follow?_backlog closed continued).2
    refine ⟨by omega, ?_⟩
    intro ticket unfinished
    constructor
    · intro unrejected
      exact invokedByWorkers_of_closed fresh followed closed continued unrejected unfinished
    · intro quiet
      exact invoked_of_quiet fresh followed closed continued quiet unfinished

theorem units_conserved_sample :
    (Site.sample .execute .queued).Fresh ∧
    ∃ finish, (idle (Site.sample .execute .queued)).follow? Engine.content
        [.submit "first" .future, .submit "second" .future, .takeUp 1, .compile, .finish 0,
          .close] = some finish ∧
      finish.session.submitted = 2 ∧
      ∃ later rest, finish.follow? Engine.content later = some rest ∧
        rest.Quiet Engine.content ∧ rest.ledger.occurrences 0 .invoked = 1 := by
  have fresh : (Site.sample .execute .queued).Fresh := ⟨rfl, rfl, rfl⟩
  have followed : (idle (Site.sample .execute .queued)).follow? Engine.content
      [.submit "first" .future, .submit "second" .future, .takeUp 1, .compile, .finish 0,
        .close] = some _ := rfl
  refine ⟨fresh, _, followed, ?_⟩
  obtain ⟨submitted, -, -, -, ends⟩ := units_conserved fresh followed
  obtain ⟨⟨later, rest, continued, quiet⟩, all⟩ := ends rfl
  exact ⟨submitted, later, rest, continued, quiet, ((all later rest continued).2 0 rfl).2 quiet⟩

end Scene

end CompileSession
