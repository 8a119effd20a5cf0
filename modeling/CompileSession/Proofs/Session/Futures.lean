import CompileSession.Proofs.Session.Forgetting
import CompileSession.Proofs.Session.Outcomes
import CompileSession.Proofs.Session.Prospects
import CompileSession.Proofs.Session.Queue

/-!
# Futures

A future holds what its unit's completion was told, as soon as it was told, and that the unit was
abandoned, as soon as it was.  Futures neither take part in a run nor change once they are ready.
-/

namespace CompileSession

theorem Completion.isFuture_iff {completion : Completion} :
    completion.isFuture = true ↔ completion = .future := by
  cases completion <;> simp [isFuture]

namespace Prospects

/-- What the future of a unit holds agrees with what became of the unit. -/
def Tells (prospects : Prospects) (ticket : Nat) : FutureState → Prop
  | .pending => ticket ∉ prospects.invocations.map Invocation.ticket ∧
      ticket ∉ prospects.abandonments
  | .ready outcome => (∃ runner, ⟨ticket, outcome, runner⟩ ∈ prospects.invocations) ∨
      ticket ∈ prospects.abandonments ∧ outcome = .rejected .abandoned

/-- Only units that were submitted are due, were invoked or were abandoned. -/
def Numbered (prospects : Prospects) : Prop :=
  ∀ ticket, prospects.submitted ≤ ticket → ticket ∉ prospects.due.map Prod.fst ∧
    ticket ∉ prospects.invocations.map Invocation.ticket ∧ ticket ∉ prospects.abandonments

/-- Every future that is held tells what became of its unit. -/
structure Foreseen (prospects : Prospects) : Prop where
  tells : ∀ ticket state, prospects.futures ticket = some state → prospects.Tells ticket state
  known : ∀ ticket, (prospects.futures ticket).isSome → ticket < prospects.submitted
  marked : ∀ ticket isFuture, (prospects.futures ticket).isSome →
    (ticket, isFuture) ∈ prospects.due → isFuture = true

variable {move : Move} {prospects after : Prospects}

/-- What a future tells stays right when other units come to their ends. -/
theorem Tells.mono {ticket : Nat} {state : FutureState} (tells : prospects.Tells ticket state)
    (invoked : ∀ invocation : Invocation, invocation.ticket = ticket →
      (invocation ∈ after.invocations ↔ invocation ∈ prospects.invocations))
    (abandoned : ticket ∈ after.abandonments ↔ ticket ∈ prospects.abandonments) :
    after.Tells ticket state := by
  cases state with
  | pending =>
      refine ⟨?_, fun member => tells.2 (abandoned.mp member)⟩
      intro member
      obtain ⟨invocation, found, here⟩ := List.mem_map.mp member
      exact tells.1 (List.mem_map.mpr ⟨invocation, (invoked _ here).mp found, here⟩)
  | ready outcome =>
      rcases tells with ⟨runner, found⟩ | ⟨member, told⟩
      · exact .inl ⟨runner, (invoked _ rfl).mpr found⟩
      · exact .inr ⟨abandoned.mpr member, told⟩

theorem isSome_settle {tickets : List Nat} {outcome : CompileOutcome}
    {futures : Nat → Option FutureState} {ticket : Nat} :
    (settle tickets outcome futures ticket).isSome = (futures ticket).isSome := by
  simp only [settle]
  split
  · exact Option.isSome_map
  · rfl

theorem settle_cases {tickets : List Nat} {outcome : CompileOutcome}
    {futures : Nat → Option FutureState} {ticket : Nat} {state : FutureState}
    (held : settle tickets outcome futures ticket = some state) :
    (ticket ∈ tickets ∧ state = .ready outcome) ∨
      (ticket ∉ tickets ∧ futures ticket = some state) := by
  simp only [settle] at held
  split at held
  case isTrue member =>
    obtain ⟨-, -, rfl⟩ := Option.map_eq_some_iff.mp held
    exact .inl ⟨member, rfl⟩
  case isFalse other => exact .inr ⟨other, held⟩

theorem isSome_promise {isFuture : Bool} {fresh ticket : Nat}
    {futures : Nat → Option FutureState} :
    (promise isFuture fresh futures ticket).isSome = true ↔
      (futures ticket).isSome = true ∨ isFuture = true ∧ fresh = ticket := by
  simp only [promise, Option.isSome_or, Bool.or_eq_true]
  split <;> simp_all

theorem isSome_drop {dropped ticket : Nat} {futures : Nat → Option FutureState} :
    (drop dropped futures ticket).isSome = true ↔
      (futures ticket).isSome = true ∧ dropped ≠ ticket := by
  simp only [drop]
  split <;> simp_all

theorem Foreseen.step (foreseen : prospects.Foreseen) (numbered : prospects.Numbered)
    (step : Step move prospects after) : after.Foreseen := by
  obtain ⟨tells, known, marked⟩ := foreseen
  cases step with
  | still _ _ subset =>
      exact ⟨tells, known, fun ticket isFuture held due => marked ticket isFuture held (subset due)⟩
  | @submit _ _ completion due submits subset =>
      obtain ⟨notDue, notInvoked, notAbandoned⟩ := numbered _ (Nat.le_refl _)
      refine ⟨?_, ?_, ?_⟩
      · intro ticket state held
        rcases Option.or_eq_some_iff.mp held with before | ⟨-, promised⟩
        · exact tells ticket state before
        · obtain ⟨⟨-, rfl⟩, new⟩ := Option.ite_none_right_eq_some.mp promised
          cases new
          exact ⟨notInvoked, notAbandoned⟩
      · intro ticket held
        rcases isSome_promise.mp held with before | ⟨-, new⟩
        · exact Nat.lt_succ_of_lt (known ticket before)
        · exact new ▸ Nat.lt_succ_self _
      · intro ticket isFuture held member
        rcases List.mem_cons.mp (subset member) with new | earlier
        · cases new
          rcases isSome_promise.mp held with before | ⟨promised, -⟩
          · exact absurd (known _ before) (Nat.lt_irrefl _)
          · exact promised
        · rcases isSome_promise.mp held with before | ⟨-, rfl⟩
          · exact marked ticket isFuture before earlier
          · exact absurd (List.mem_map_of_mem earlier) notDue
  | @invoke _ _ due invocation isFuture _ _ subset promised =>
      have held_iff (ticket : Nat) : ((if isFuture = true then
          settle [invocation.ticket] invocation.outcome prospects.futures
          else prospects.futures) ticket).isSome = (prospects.futures ticket).isSome := by
        split
        · exact isSome_settle
        · rfl
      refine ⟨?_, ?_, ?_⟩
      · intro ticket state held
        by_cases here : ticket = invocation.ticket
        · subst here
          have before := (held_iff invocation.ticket).symm.trans (Option.isSome_of_eq_some held)
          have future := marked _ _ before promised
          subst future
          rw [if_pos rfl] at held
          rcases settle_cases held with ⟨-, rfl⟩ | ⟨other, -⟩
          · exact .inl ⟨invocation.runner, List.mem_append_right _ (List.mem_singleton_self _)⟩
          · exact absurd (List.mem_singleton_self _) other
        · have before : prospects.futures ticket = some state := by
            split at held
            · rcases settle_cases held with ⟨own, -⟩ | ⟨-, before⟩
              · exact absurd (List.mem_singleton.mp own) here
              · exact before
            · exact held
          refine (tells ticket state before).mono ?_ Iff.rfl
          intro other same
          have different : other ≠ invocation := fun equal => here (equal ▸ same.symm)
          simp [different]
      · intro ticket held
        exact known ticket ((held_iff ticket).symm.trans held)
      · intro ticket flag held member
        exact marked ticket flag ((held_iff ticket).symm.trans held) (subset member)
  | @close _ due units subset =>
      refine ⟨?_, ?_, ?_⟩
      · intro ticket state held
        rcases settle_cases held with ⟨here, rfl⟩ | ⟨other, before⟩
        · exact .inr ⟨List.mem_append_right _ here, rfl⟩
        · refine (tells ticket state before).mono (fun _ _ => Iff.rfl) ?_
          simp [other]
      · intro ticket held
        exact known ticket (isSome_settle.symm.trans held)
      · intro ticket flag held member
        exact marked ticket flag (isSome_settle.symm.trans held) (subset member)
  | @drop _ dropped =>
      refine ⟨?_, fun ticket held => known ticket (isSome_drop.mp held).1,
        fun ticket flag held => marked ticket flag (isSome_drop.mp held).1⟩
      intro ticket state held
      exact tells ticket state (Option.ite_none_left_eq_some.mp held).2

theorem Step.of_submits (step : Step move prospects after) {completion : Completion}
    (submits : move.completion? = some completion) :
    after.submitted = prospects.submitted + 1 ∧ after.invocations = prospects.invocations ∧
      after.abandonments = prospects.abandonments ∧
      after.futures = promise completion.isFuture prospects.submitted prospects.futures := by
  cases step with
  | still quiet | invoke quiet => cases quiet.symm.trans submits
  | submit same =>
      cases same.symm.trans submits
      exact ⟨rfl, rfl, rfl, rfl⟩
  | close | drop => cases submits

/-- A future is held from its unit's submission until it is dropped. -/
theorem Step.isSome_futures (step : Step move prospects after) (ticket : Nat) :
    (after.futures ticket).isSome = true ↔
      (prospects.futures ticket).isSome = true ∧ move.dropped? ≠ some ticket ∨
        move.completion? = some .future ∧ prospects.submitted = ticket := by
  cases step with
  | still quiet keeps => simp [quiet, keeps]
  | submit submits =>
      have keeps : move.dropped? = none := by
        cases move <;> first | rfl | cases submits
      simp only [isSome_promise, keeps, submits, Option.some.injEq, Completion.isFuture_iff, ne_eq,
        reduceCtorEq, not_false_iff, and_true]
  | invoke quiet keeps =>
      simp only [quiet, keeps]
      split <;> simp [isSome_settle]
  | close => simp [isSome_settle, Move.dropped?, Move.completion?]
  | drop => simp [isSome_drop, Move.dropped?, Move.completion?]

end Prospects

namespace Ledger

/-- While a session with queued delivery is there, completions are only invoked by callers, for whom
the first unit of the queue is taken. -/
theorem Step.mem_invocations {move : Move} {ledger after : Ledger} (step : ledger.Step move after)
    (routed : ledger.Routed) (queued : ledger.setup.delivery = .queued)
    (isOpen : after.isOpen = true) {invocation : Invocation}
    (member : invocation ∈ after.invocations) :
    invocation ∈ ledger.invocations ∨ invocation.runner = .caller ∧
      ∃ position rest, move = .deliverNext position ∧
        ledger.queue.map FinishedJob.ticket = invocation.ticket :: rest := by
  cases step with
  | still | accept | rejectToQueue | rejectAway | takeUp | compile | enqueue => exact .inl member
  | invokeCompiled noQueue => exact absurd ⟨queued, isOpen⟩ noQueue
  | invokeReturning found =>
      rw [routed.returning_eq_nil (.inl queued)] at found
      cases found
  | @invokeQueued _ finished rest position filled =>
      rcases List.mem_append.mp member with earlier | new
      · exact .inl earlier
      · rw [List.mem_singleton.mp new, filled]
        exact .inr ⟨rfl, position, _, rfl, rfl⟩
  | close => cases isOpen

/-- What was told and what was abandoned is never taken back. -/
theorem Step.told {move : Move} {ledger after : Ledger} (step : ledger.Step move after) :
    ledger.invocations ⊆ after.invocations ∧ ledger.abandonments ⊆ after.abandonments := by
  cases step with
  | still | accept | rejectToQueue | rejectAway | takeUp | compile | enqueue =>
      exact ⟨List.Subset.refl _, List.Subset.refl _⟩
  | invokeCompiled | invokeReturning | invokeQueued =>
      exact ⟨List.subset_append_left _ _, List.Subset.refl _⟩
  | close => exact ⟨List.Subset.refl _, List.subset_append_left _ _⟩

/-- Abandoned units are never told that they were abandoned by an invocation. -/
theorem Truthful.not_abandoned {ledger : Ledger} {finished : FinishedJob}
    (truthful : ledger.Truthful finished) : finished.outcome ≠ .rejected .abandoned := by
  intro same
  simp only [Truthful] at truthful
  split at truthful
  case h_1 =>
    obtain ⟨job, reply, -, rfl⟩ := truthful
    rw [outcome_answered] at same
    cases reply <;> cases same
  case h_2 error rejected =>
    have reason : error = .abandoned := by
      rw [truthful] at same
      exact Option.some.inj (congrArg CompileOutcome.error same)
    subst reason
    simp only [Setup.rejection?] at rejected
    split at rejected
    · split at rejected <;> cases rejected
    · cases rejected

end Ledger

/-- A unit of a schedule has a future, which is not dropped on the way. -/
def Move.Promises (schedule : List Move) (ticket : Nat) : Prop :=
  ∃ before move later, schedule = before ++ move :: later ∧
    move.completion? = some .future ∧ before.countP (·.source?.isSome) = ticket ∧
    ∀ other ∈ later, other.dropped? ≠ some ticket

theorem Move.promises_concat {schedule : List Move} {move : Move} {ticket : Nat} :
    Promises (schedule ++ [move]) ticket ↔
      Promises schedule ticket ∧ move.dropped? ≠ some ticket ∨
        move.completion? = some .future ∧ schedule.countP (·.source?.isSome) = ticket := by
  constructor
  · rintro ⟨before, first, later, split, future, counted, kept⟩
    rcases List.eq_nil_or_concat later with rfl | ⟨rest, last, rfl⟩
    · obtain ⟨rfl, same⟩ := List.append_inj' split rfl
      cases same
      exact .inr ⟨future, counted⟩
    · rw [List.concat_eq_append, ← List.cons_append, ← List.append_assoc] at split
      obtain ⟨rfl, same⟩ := List.append_inj' split rfl
      cases same
      exact .inl ⟨⟨before, first, rest, rfl, future, counted,
        fun other member => kept other (by simp [member])⟩, kept move (by simp)⟩
  · rintro (⟨⟨before, first, later, rfl, future, counted, kept⟩, keeps⟩ | ⟨future, counted⟩)
    · refine ⟨before, first, later ++ [move], by simp, future, counted, ?_⟩
      exact List.forall_mem_append.mpr ⟨kept, List.forall_mem_singleton.mpr keeps⟩
    · exact ⟨schedule, move, [], rfl, future, counted, List.forall_mem_nil _⟩

namespace Scene

variable {η σ : Type} {engine : Engine η σ} {site : Site η σ} {schedule : List Move}
  {start finish : Scene η σ}

theorem numbered_of_conserved (conserved : finish.ledger.Conserved) :
    finish.prospects.Numbered := by
  intro ticket unsubmitted
  have nowhere := conserved ticket
  have later : ¬ ticket < finish.ledger.submitted := Nat.not_lt.mpr unsubmitted
  rw [if_neg later, Ledger.total_eq_sum] at nowhere
  have due : finish.prospects.due.map Prod.fst =
      finish.ledger.waiting.map Job.ticket ++ finish.ledger.held.toList.map Job.ticket ++
        (finish.ledger.compiled.map FinishedJob.ticket ++
          finish.ledger.returning.map FinishedJob.ticket ++
          finish.ledger.queue.map FinishedJob.ticket) := by
    simp only [prospects, Site.prospects, Session.due, List.map_append, List.map_map]
    rfl
  refine ⟨?_, ?_, ?_⟩ <;> refine List.count_eq_zero.mp ?_
  · rw [due]
    simp only [List.count_append]
    omega
  · change (finish.ledger.invocations.map Invocation.ticket).count ticket = 0
    omega
  · change finish.ledger.abandonments.count ticket = 0
    omega

theorem future?_idle (fresh : site.Fresh) (ticket : Nat) :
    (idle site).session.future? ticket = none := by
  simp only [session, idle, Session.future?]
  rw [fresh.unused]
  rfl

theorem submitted_idle (fresh : site.Fresh) : (idle site).session.submitted = 0 :=
  congrArg Ledger.submitted fresh.ledger_idle

theorem follow?_foreseen (fresh : site.Fresh)
    (followed : (idle site).follow? engine schedule = some finish) :
    finish.prospects.Foreseen := by
  refine follow?_induction (motive := fun _ scene => scene.prospects.Foreseen) ?_ ?_ followed
  · have nothing (ticket : Nat) : (idle site).prospects.futures ticket = none :=
      future?_idle fresh ticket
    refine ⟨?_, ?_, ?_⟩
    · intro ticket state held
      cases (nothing ticket).symm.trans held
    · intro ticket held
      simp [nothing ticket] at held
    · intro ticket flag held
      simp [nothing ticket] at held
  · intro schedule move scene after before foreseen moved
    exact foreseen.step (numbered_of_conserved (follow?_conserved fresh before))
      (prospects_move? moved)

theorem follow?_promises (fresh : site.Fresh)
    (followed : (idle site).follow? engine schedule = some finish) (ticket : Nat) :
    (finish.session.future? ticket).isSome = true ↔ Move.Promises schedule ticket := by
  refine follow?_induction (motive := fun schedule scene =>
    (scene.session.future? ticket).isSome = true ↔ Move.Promises schedule ticket) ?_ ?_ followed
  · rw [future?_idle fresh]
    simp [Move.Promises]
  · intro schedule move scene after before promised moved
    have submitted := follow?_submitted before
    rw [submitted_idle fresh, Nat.zero_add] at submitted
    rw [Move.promises_concat, ← promised, ← submitted]
    exact (prospects_move? moved).isSome_futures ticket

theorem follow?_told (followed : start.follow? engine schedule = some finish) :
    start.ledger.invocations ⊆ finish.ledger.invocations ∧
      start.ledger.abandonments ⊆ finish.ledger.abandonments :=
  follow?_ledger (motive := fun ledger => start.ledger.invocations ⊆ ledger.invocations ∧
      start.ledger.abandonments ⊆ ledger.abandonments)
    ⟨List.Subset.refl _, List.Subset.refl _⟩
    (fun kept step => ⟨List.Subset.trans kept.1 step.told.1,
      List.Subset.trans kept.2 step.told.2⟩) followed

section

variable (fresh : site.Fresh) (followed : (idle site).follow? engine schedule = some finish)
  {ticket : Nat} {state : FutureState} (held : finish.session.future? ticket = some state)

include fresh followed held

theorem tells_of_future? : finish.prospects.Tells ticket state :=
  (follow?_foreseen fresh followed).tells ticket state held

theorem ready_iff (outcome : CompileOutcome) :
    state = .ready outcome ↔
      (∃ runner, ⟨ticket, outcome, runner⟩ ∈ finish.ledger.invocations) ∨
        ticket ∈ finish.ledger.abandonments ∧ outcome = .rejected .abandoned := by
  have tells := tells_of_future? fresh followed held
  have conserved := follow?_conserved fresh followed
  constructor
  · rintro rfl
    exact tells
  · intro told
    cases state with
    | pending =>
        rcases told with ⟨runner, member⟩ | ⟨member, -⟩
        · exact absurd (List.mem_map_of_mem member) tells.1
        · exact absurd member tells.2
    | ready known =>
        rcases tells, told with ⟨⟨other, before⟩ | ⟨gone, rfl⟩, ⟨runner, member⟩ | ⟨lost, rfl⟩⟩
        · have same := List.inj_on_of_nodup_map conserved.nodup_invoked before member rfl
          cases same
          rfl
        · exact absurd lost (conserved.not_mem_of_invoked (List.mem_map_of_mem before)).1
        · exact absurd gone (conserved.not_mem_of_invoked (List.mem_map_of_mem member)).1
        · rfl

theorem ready_abandoned_iff :
    state = .ready (.rejected .abandoned) ↔ ticket ∈ finish.ledger.abandonments := by
  rw [ready_iff fresh followed held]
  constructor
  · rintro (⟨runner, member⟩ | ⟨gone, -⟩)
    · obtain ⟨finished, other, truthful, same⟩ :=
        (follow?_honest fresh followed).invocations _ member
      exact absurd (congrArg Invocation.outcome same).symm truthful.not_abandoned
    · exact gone
  · intro gone
    exact .inr ⟨gone, rfl⟩

theorem pending_iff :
    state = .pending ↔ finish.ledger.occurrences ticket .unfinished = 1 ∨
      finish.ledger.occurrences ticket .queued = 1 := by
  have tells := tells_of_future? fresh followed held
  have known := (follow?_foreseen fresh followed).known ticket (Option.isSome_of_eq_some held)
  have once := follow?_conserved fresh followed ticket
  have submitted : ticket < finish.ledger.submitted := known
  rw [if_pos submitted, Ledger.total] at once
  cases state with
  | pending =>
      have invoked : finish.ledger.occurrences ticket .invoked = 0 :=
        List.count_eq_zero.mpr tells.1
      have abandoned : finish.ledger.occurrences ticket .abandoned = 0 :=
        List.count_eq_zero.mpr tells.2
      simp only [true_iff]
      omega
  | ready outcome =>
      simp only [reduceCtorEq, false_iff]
      rcases tells with ⟨runner, member⟩ | ⟨member, -⟩
      · have invoked : 0 < finish.ledger.occurrences ticket .invoked :=
          List.count_pos_iff.mpr (List.mem_map_of_mem member)
        omega
      · have abandoned : 0 < finish.ledger.occurrences ticket .abandoned :=
          List.count_pos_iff.mpr member
        omega

end

section

variable (fresh : site.Fresh) (followed : (idle site).follow? engine schedule = some finish)
  {move : Move} {after : Scene η σ} (moved : finish.move? engine move = some after)

include fresh followed moved

/-- A unit is on its way as soon as it was submitted, and its future waits for it. -/
theorem submitted_of_move? {completion : Completion}
    (submits : move.completion? = some completion) :
    after.session.submitted = finish.session.submitted + 1 ∧
      (after.ledger.occurrences finish.session.submitted .unfinished = 1 ∨
        after.ledger.occurrences finish.session.submitted .queued = 1) ∧
      (completion = .future → after.session.future? finish.session.submitted = some .pending) := by
  have foreseen := follow?_foreseen fresh followed
  obtain ⟨-, notInvoked, notAbandoned⟩ :=
    numbered_of_conserved (follow?_conserved fresh followed) _ (Nat.le_refl _)
  have whole : (idle site).follow? engine (schedule ++ [move]) = some after :=
    follow?_concat.mpr ⟨finish, followed, moved⟩
  obtain ⟨submitted, invocations, abandonments, futures⟩ :=
    (prospects_move? moved).of_submits submits
  refine ⟨submitted, ?_, ?_⟩
  · have once := follow?_conserved fresh whole finish.session.submitted
    have inside : finish.session.submitted < after.ledger.submitted :=
      Nat.lt_of_lt_of_eq (Nat.lt_succ_self _) submitted.symm
    have invoked : after.ledger.occurrences finish.session.submitted .invoked = 0 := by
      rw [← invocations] at notInvoked
      exact List.count_eq_zero.mpr notInvoked
    have abandoned : after.ledger.occurrences finish.session.submitted .abandoned = 0 := by
      rw [← abandonments] at notAbandoned
      exact List.count_eq_zero.mpr notAbandoned
    rw [if_pos inside, Ledger.total] at once
    omega
  · rintro rfl
    have unknown : finish.session.future? finish.session.submitted = none := by
      by_contra held
      exact absurd (foreseen.known _ (Option.isSome_iff_ne_none.mpr held)) (Nat.lt_irrefl _)
    have promised := congrFun futures finish.session.submitted
    have same : finish.prospects.futures finish.session.submitted = none := unknown
    simp only [Prospects.promise, same, Option.none_or] at promised
    exact promised.trans (if_pos ⟨rfl, rfl⟩)

/-- While a session with queued delivery is there, futures become ready in deliveries only. -/
theorem delivered_of_ready (queued : finish.session.delivery = .queued)
    (isOpen : after.session.isOpen = true) {ticket : Nat} {outcome : CompileOutcome}
    (pending : finish.session.future? ticket = some .pending)
    (ready : after.session.future? ticket = some (.ready outcome)) :
    ⟨ticket, outcome, .caller⟩ ∈ after.ledger.invocations ∧
      ∃ position rest, move = .deliverNext position ∧
        finish.session.queue.map FinishedJob.ticket = ticket :: rest := by
  have whole : (idle site).follow? engine (schedule ++ [move]) = some after :=
    follow?_concat.mpr ⟨finish, followed, moved⟩
  have before := tells_of_future? fresh followed pending
  rcases (ready_iff fresh whole ready outcome).mp rfl with ⟨runner, member⟩ | ⟨gone, -⟩
  · rcases (ledger_move? moved).mem_invocations (follow?_routed fresh followed) queued isOpen
      member with earlier | ⟨caller, position, rest, delivers, filled⟩
    · exact absurd (List.mem_map_of_mem earlier) before.1
    · cases caller
      exact ⟨member, position, rest, delivers, filled⟩
  · rcases (ledger_move? moved).abandonments_eq with same | ⟨closes, -⟩
    · rw [same] at gone
      exact absurd gone before.2
    · subst move
      cases Moves.of_move? moved with
      | close => cases isOpen

end

/-- A future is there from its unit's submission until it is dropped.  It is ready with what the
unit's completion was told as soon as it was told, with the news that the unit was abandoned as soon
as it was, and pending until then; what it holds then stays.  Units are under way from their
submission on, and abandoned only at the end of a session with queued delivery, out of its queue.
Dropping futures changes nothing but that they are gone. -/
theorem futures_foretold (fresh : site.Fresh)
    (followed : (idle site).follow? engine schedule = some finish) :
    (∀ ticket, (finish.session.future? ticket).isSome = true ↔ Move.Promises schedule ticket) ∧
    (∀ ticket state, finish.session.future? ticket = some state →
      (∀ outcome, state = .ready outcome ↔
        (∃ runner, ⟨ticket, outcome, runner⟩ ∈
          finish.site.host.journal.invocations finish.session.id) ∨
        ticket ∈ finish.site.host.journal.abandonments finish.session.id ∧
          outcome = { result := none, error := some .abandoned }) ∧
      (state = .ready { result := none, error := some .abandoned } ↔
        ticket ∈ finish.site.host.journal.abandonments finish.session.id) ∧
      (state = .pending ↔ finish.ledger.occurrences ticket .unfinished = 1 ∨
        finish.ledger.occurrences ticket .queued = 1)) ∧
    (∀ move after, finish.move? engine move = some after →
      (∀ completion, move.completion? = some completion →
        after.session.submitted = finish.session.submitted + 1 ∧
        (after.ledger.occurrences finish.session.submitted .unfinished = 1 ∨
          after.ledger.occurrences finish.session.submitted .queued = 1) ∧
        (completion = .future →
          after.session.future? finish.session.submitted = some .pending)) ∧
      (finish.session.delivery = .queued → after.session.isOpen = true → ∀ ticket outcome,
        finish.session.future? ticket = some .pending →
        after.session.future? ticket = some (.ready outcome) →
          ⟨ticket, outcome, .caller⟩ ∈ after.site.host.journal.invocations after.session.id ∧
          ∃ position rest, move = .deliverNext position ∧
            finish.session.queue.map FinishedJob.ticket = ticket :: rest) ∧
      (∀ ticket, finish.ledger.occurrences ticket .abandoned <
          after.ledger.occurrences ticket .abandoned →
        move = .close ∧ finish.session.delivery = .queued ∧
          finish.ledger.occurrences ticket .queued = 1)) ∧
    (∀ later rest, finish.follow? engine later = some rest → ∀ ticket outcome state,
      finish.session.future? ticket = some (.ready outcome) →
      rest.session.future? ticket = some state → state = .ready outcome) ∧
    (∀ other, other.filter Move.keepsFutures = schedule.filter Move.keepsFutures →
      ∃ rest, (idle site).follow? engine other = some rest ∧
        rest.withoutFutures = finish.withoutFutures ∧
        ∀ ticket state last, finish.session.future? ticket = some state →
          rest.session.future? ticket = some last → last = state) := by
  refine ⟨follow?_promises fresh followed, ?_, ?_, ?_, ?_⟩
  · intro ticket state held
    exact ⟨ready_iff fresh followed held, ready_abandoned_iff fresh followed held,
      pending_iff fresh followed held⟩
  · intro move after moved
    refine ⟨fun completion submits => submitted_of_move? fresh followed moved submits, ?_,
      fun ticket => close_of_abandoned fresh followed moved⟩
    intro queued isOpen ticket outcome pending ready
    exact delivered_of_ready fresh followed moved queued isOpen pending ready
  · intro later rest continued ticket outcome state ready held
    have whole : (idle site).follow? engine (schedule ++ later) = some rest := by
      rw [follow?_append, followed]
      exact continued
    obtain ⟨invocations, abandonments⟩ := follow?_told continued
    refine (ready_iff fresh whole held outcome).mpr ?_
    rcases (ready_iff fresh followed ready outcome).mp rfl with ⟨runner, member⟩ | ⟨gone, told⟩
    · exact .inl ⟨runner, invocations member⟩
    · exact .inr ⟨abandonments gone, told⟩
  · intro other same
    obtain ⟨rest, reached, equal⟩ := follow?_withoutFutures followed same
    refine ⟨rest, reached, equal, ?_⟩
    intro ticket state last held also
    have ledger : rest.ledger = finish.ledger := by
      have same := congrArg Scene.ledger equal
      exact same
    have ready (outcome : CompileOutcome) : last = .ready outcome ↔ state = .ready outcome := by
      rw [ready_iff fresh reached also, ready_iff fresh followed held, ledger]
    cases state with
    | ready outcome => exact (ready outcome).mpr rfl
    | pending =>
        cases last with
        | pending => rfl
        | ready outcome => cases (ready outcome).mp rfl

theorem futures_foretold_sample :
    (Site.sample .execute .queued).Fresh ∧
    ∃ finish, (idle (Site.sample .execute .queued)).follow? Engine.content
        [.submit "first" .future, .submit "second" .future, .submit "third" .future, .takeUp 0,
          .compile, .finish 0, .dropFuture 2, .beginDelivery, .deliverNext 0, .endDelivery 0,
          .takeUp 0, .compile, .finish 0, .close] = some finish ∧
      (∃ runner, ⟨0, .compiled .ok, runner⟩ ∈
        finish.site.host.journal.invocations finish.session.id) ∧
      1 ∈ finish.site.host.journal.abandonments finish.session.id ∧
      finish.session.future? 2 = none ∧
      ∃ rest, (idle (Site.sample .execute .queued)).follow? Engine.content
          [.submit "first" .future, .submit "second" .future, .submit "third" .future, .takeUp 0,
            .compile, .finish 0, .beginDelivery, .deliverNext 0, .endDelivery 0,
            .takeUp 0, .compile, .finish 0, .close] = some rest ∧
        rest.withoutFutures = finish.withoutFutures := by
  have fresh : (Site.sample .execute .queued).Fresh := ⟨rfl, rfl, rfl⟩
  have followed : (idle (Site.sample .execute .queued)).follow? Engine.content
      [.submit "first" .future, .submit "second" .future, .submit "third" .future, .takeUp 0,
        .compile, .finish 0, .dropFuture 2, .beginDelivery, .deliverNext 0, .endDelivery 0,
        .takeUp 0, .compile, .finish 0, .close] = some _ := rfl
  obtain ⟨-, told, -, -, erased⟩ := futures_foretold fresh followed
  obtain ⟨first, -, -⟩ := told 0 (.ready (.compiled .ok)) rfl
  obtain ⟨-, second, -⟩ := told 1 (.ready (.rejected .abandoned)) rfl
  obtain ⟨rest, reached, same, -⟩ := erased
    [.submit "first" .future, .submit "second" .future, .submit "third" .future, .takeUp 0,
      .compile, .finish 0, .beginDelivery, .deliverNext 0, .endDelivery 0,
      .takeUp 0, .compile, .finish 0, .close] rfl
  rcases (first (.compiled .ok)).mp rfl with compiled | ⟨-, other⟩
  · exact ⟨fresh, _, followed, compiled, second.mp rfl, rfl, rest, reached, same⟩
  · cases other

end Scene

end CompileSession
