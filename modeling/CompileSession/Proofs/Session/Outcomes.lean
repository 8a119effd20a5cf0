import CompileSession.Proofs.Session.Compiles

/-!
# What completions are told

A completion is told what the engine answered about its own unit, or why the engine was not asked.
Units keep their answers while they pass through workers, queues and threads of their own.
-/

namespace CompileSession

namespace CompileOutcome

/-- What a completion is to be told when the engine has answered. -/
def ofReply : Reply Status → CompileOutcome
  | .returned status => .compiled status
  | .panicked _ => .rejected .workerPanicked

/-- There is a result unless there is an error. -/
def Sound (outcome : CompileOutcome) : Prop :=
  outcome.result.isSome = outcome.error.isNone

theorem sound_ofReply (reply : Reply Status) : (ofReply reply).Sound := by
  cases reply <;> rfl

theorem sound_rejected (error : DispatchError) : (rejected error).Sound :=
  rfl

/-- A sound outcome is a success if its status is not negative. -/
theorem Sound.isSuccess_iff {outcome : CompileOutcome} (sound : outcome.Sound) :
    outcome.isSuccess = true ↔ ∃ status, outcome.toStatus = .ok status ∧ 0 ≤ status.code := by
  obtain ⟨result, error⟩ := outcome
  cases error with
  | some error => simp [isSuccess, toStatus]
  | none =>
      obtain ⟨status, rfl⟩ := Option.isSome_iff_exists.mp sound
      simp [isSuccess, toStatus, Status.isOk]

theorem Sound.toStatus_eq_ok_iff {outcome : CompileOutcome} (sound : outcome.Sound)
    {status : Status} : outcome.toStatus = .ok status ↔ outcome.result = some status := by
  obtain ⟨result, error⟩ := outcome
  cases error with
  | some error =>
      have nothing : result = none :=
        Option.isNone_iff_eq_none.mp (Option.isSome_eq_false_iff.mp sound)
      simp [toStatus, nothing]
  | none =>
      obtain ⟨known, rfl⟩ := Option.isSome_iff_exists.mp sound
      simp [toStatus]

end CompileOutcome

theorem outcome_answered (job : Job) (reply : Reply Status) :
    (job.answered reply).outcome = .ofReply reply := by
  cases reply <;> rfl

theorem of_compile_eq {job other : Job} {reply otherReply : Reply Status}
    (same : job.compile reply = other.compile otherReply) :
    job.ticket = other.ticket ∧ job.source = other.source := by
  simp only [Job.compile, Answer.mk.injEq, Request.mk.injEq, Origin.unit.injEq] at same
  obtain ⟨⟨ticket, -, call⟩, -⟩ := same
  exact ⟨ticket, Call.compileString.inj (eq_of_heq call)⟩

namespace Ledger

/-- A finished unit carries the engine's answer, or the reason for its rejection. -/
def Truthful (ledger : Ledger) (finished : FinishedJob) : Prop :=
  match ledger.setup.rejection? with
  | none => ∃ (job : Job) (reply : Reply Status),
    job.compile reply ∈ ledger.compiles ∧ finished = job.answered reply
  | some error => finished.outcome = .rejected error

/-- All units that are finished are truthful, and so was all that completions were told. -/
structure Honest (ledger : Ledger) : Prop where
  compiled : ∀ finished ∈ ledger.compiled, ledger.Truthful finished
  returning : ∀ finished ∈ ledger.returning, ledger.Truthful finished
  queue : ∀ finished ∈ ledger.queue, ledger.Truthful finished
  invocations : ∀ invocation ∈ ledger.invocations, ∃ finished runner,
    ledger.Truthful finished ∧ invocation = finished.invocation runner

theorem honest_blank (setup : Setup) : (blank setup).Honest := by
  refine ⟨?_, ?_, ?_, ?_⟩ <;>
    · intro finished member
      cases member

theorem Truthful.mono {ledger after : Ledger} {finished : FinishedJob}
    (truthful : ledger.Truthful finished) (setup : after.setup = ledger.setup)
    (compiles : ledger.compiles ⊆ after.compiles) : after.Truthful finished := by
  simp only [Truthful, setup] at truthful ⊢
  split at truthful
  · obtain ⟨job, reply, member, same⟩ := truthful
    exact ⟨job, reply, compiles member, same⟩
  · exact truthful

theorem truthful_rejected {ledger : Ledger} {error : DispatchError}
    (rejected : ledger.setup.rejection? = some error) (job : Job) :
    ledger.Truthful { job, error := some error } := by
  simp only [Truthful, rejected]
  rfl

theorem EngagedOnce.rejection?_eq_none {ledger : Ledger} (once : ledger.EngagedOnce) {job : Job}
    (due : job ∈ ledger.due) : ledger.setup.rejection? = none := by
  by_contra rejected
  have engaged := once job.ticket
  rw [if_neg (fun accepted => rejected accepted.1), engagements] at engaged
  have waits : 0 < (ledger.due.map Job.ticket).count job.ticket :=
    List.count_pos_iff.mpr (List.mem_map_of_mem due)
  omega

theorem Honest.step {move : Move} {ledger after : Ledger} (honest : ledger.Honest)
    (once : ledger.EngagedOnce) (step : ledger.Step move after) : after.Honest := by
  obtain ⟨compiled, returning, queue, invocations⟩ := honest
  -- A unit that is invoked was finished before.
  have invoke {finished : FinishedJob} (runner : Runner) (truthful : ledger.Truthful finished) :
      ∀ invocation ∈ ledger.invocations ++ [finished.invocation runner], ∃ finished runner,
        ledger.Truthful finished ∧ invocation = finished.invocation runner := by
    intro invocation member
    rcases List.mem_append.mp member with earlier | new
    · exact invocations invocation earlier
    · exact ⟨finished, runner, truthful, List.mem_singleton.mp new⟩
  have join {units : List FinishedJob} {finished : FinishedJob}
      (all : ∀ unit ∈ units, ledger.Truthful unit) (truthful : ledger.Truthful finished) :
      ∀ unit ∈ units ++ [finished], ledger.Truthful unit := by
    intro unit member
    rcases List.mem_append.mp member with earlier | new
    · exact all unit earlier
    · exact List.mem_singleton.mp new ▸ truthful
  cases step with
  | still | accept | takeUp => exact ⟨compiled, returning, queue, invocations⟩
  | rejectToQueue rejected =>
      exact ⟨compiled, returning, join queue (truthful_rejected rejected _), invocations⟩
  | rejectAway rejected =>
      exact ⟨compiled, join returning (truthful_rejected rejected _), queue, invocations⟩
  | @compile _ job reply held =>
      have due : job ∈ ledger.due := List.mem_append_right _ (Option.mem_toList.mpr held)
      have accepted := once.rejection?_eq_none due
      have kept {finished : FinishedJob} (truthful : ledger.Truthful finished) :
          ({ ledger with
            held := none
            compiled := ledger.compiled ++ [job.answered reply]
            compiles := ledger.compiles ++ [job.compile reply] } : Ledger).Truthful finished :=
        truthful.mono rfl (List.subset_append_left _ _)
      refine ⟨?_, ?_, ?_, ?_⟩
      · intro finished member
        rcases List.mem_append.mp member with earlier | new
        · exact kept (compiled finished earlier)
        · simp only [Truthful, accepted]
          exact ⟨job, reply, List.mem_append_right _ (List.mem_singleton_self _),
            List.mem_singleton.mp new⟩
      · intro finished member
        exact kept (returning finished member)
      · intro finished member
        exact kept (queue finished member)
      · intro invocation member
        obtain ⟨finished, runner, truthful, same⟩ := invocations invocation member
        exact ⟨finished, runner, kept truthful, same⟩
  | enqueue queued isOpen found =>
      refine ⟨?_, returning, join queue (compiled _ (List.mem_of_getElem? found)), invocations⟩
      intro finished member
      exact compiled finished (List.mem_of_mem_eraseIdx member)
  | invokeCompiled noQueue found =>
      refine ⟨?_, returning, queue, invoke .worker (compiled _ (List.mem_of_getElem? found))⟩
      intro finished member
      exact compiled finished (List.mem_of_mem_eraseIdx member)
  | invokeReturning found =>
      refine ⟨compiled, ?_, queue, invoke .messenger (returning _ (List.mem_of_getElem? found))⟩
      intro finished member
      exact returning finished (List.mem_of_mem_eraseIdx member)
  | invokeQueued filled =>
      rw [filled] at queue
      refine ⟨compiled, returning, ?_, invoke .caller (queue _ List.mem_cons_self)⟩
      intro finished member
      exact queue finished (List.mem_cons_of_mem _ member)
  | close =>
      refine ⟨compiled, returning, ?_, invocations⟩
      intro finished member
      cases member

theorem Truthful.outcome_eq {sources : List String} {ledger : Ledger} {finished : FinishedJob}
    (truthful : ledger.Truthful finished) (accepted : ledger.setup.rejection? = none)
    (quoted : ledger.Quoted sources) (once : ledger.EngagedOnce) :
    ∃ source reply, sources[finished.ticket]? = some source ∧
      ledger.compilesFor finished.ticket =
        [{ origin := .unit finished.ticket, call := .compileString source, reply }] ∧
      finished.outcome = .ofReply reply := by
  simp only [Truthful, accepted] at truthful
  obtain ⟨job, reply, member, rfl⟩ := truthful
  rw [ticket_answered, outcome_answered]
  have only := compilesFor_eq_singleton once member rfl
  obtain ⟨other, otherReply, same, quote⟩ := quoted.compiles _ member
  obtain ⟨ticket, text⟩ := of_compile_eq same
  rw [← ticket, ← text] at quote
  exact ⟨job.source, reply, quote, only, rfl⟩

theorem Truthful.sound {ledger : Ledger} {finished : FinishedJob}
    (truthful : ledger.Truthful finished) : finished.outcome.Sound := by
  simp only [Truthful] at truthful
  split at truthful
  · obtain ⟨job, reply, -, rfl⟩ := truthful
    rw [outcome_answered]
    exact CompileOutcome.sound_ofReply reply
  · rw [truthful]
    exact CompileOutcome.sound_rejected _

end Ledger

namespace Scene

variable {η σ : Type} {engine : Engine η σ} {site : Site η σ} {schedule : List Move}
  {finish : Scene η σ}

theorem follow?_honest (fresh : site.Fresh)
    (followed : (idle site).follow? engine schedule = some finish) : finish.ledger.Honest := by
  have all := follow?_ledger (motive := fun ledger => ledger.Honest ∧ ledger.EngagedOnce)
    (fresh.ledger_idle ▸ ⟨Ledger.honest_blank _, Ledger.engagedOnce_blank _⟩)
    (fun kept step => ⟨kept.1.step kept.2 step, kept.2.step step⟩) followed
  exact all.1

/-- Every completion that is invoked is told what the engine answered about its own unit, or that
the session is for inspection only.  What it is told has a result or an error, never both. -/
theorem outcomes_truthful (fresh : site.Fresh)
    (followed : (idle site).follow? engine schedule = some finish) :
    ∀ invocation ∈ finish.site.host.journal.invocations finish.session.id,
      (∀ workers, finish.session.mode = .execute → finish.session.pool = .ok workers →
        ∃ source reply,
          (schedule.filterMap Move.source?)[invocation.ticket]? = some source ∧
          finish.calls.filter (·.origin = .unit invocation.ticket) =
            [{ origin := .unit invocation.ticket, call := .compileString source, reply }] ∧
          match reply with
          | .returned status => invocation.outcome = { result := some status, error := none }
          | .panicked _ => invocation.outcome = { result := none, error := some .workerPanicked }) ∧
      (finish.session.mode = .inspect →
        invocation.outcome = { result := none, error := some .inspectOnly }) ∧
      (invocation.outcome.result.isSome ↔ invocation.outcome.error = none) ∧
      (invocation.outcome.isSuccess ↔
        ∃ status, invocation.outcome.toStatus = .ok status ∧ 0 ≤ status.code) ∧
      ∀ status, invocation.outcome.toStatus = .ok status ↔
        invocation.outcome.result = some status := by
  intro invocation member
  obtain ⟨finished, runner, truthful, rfl⟩ :=
    (follow?_honest fresh followed).invocations invocation member
  have sound := truthful.sound
  refine ⟨?_, ?_, ?_, sound.isSuccess_iff, fun status => sound.toStatus_eq_ok_iff⟩
  · intro workers execute built
    have accepted : finish.ledger.setup.rejection? = none :=
      Setup.rejection?_eq_none_iff.mpr ⟨execute, workers, built⟩
    obtain ⟨source, reply, quote, only, told⟩ := truthful.outcome_eq accepted
      (follow?_quoted fresh followed) (follow?_engagedOnce fresh followed)
    rw [compilesFor_ledger] at only
    refine ⟨source, reply, quote, only, ?_⟩
    cases reply with
    | returned status => exact told
    | panicked panic => exact told
  · intro inspect
    have rejected : finish.ledger.setup.rejection? = some .inspectOnly := by
      have mode : finish.ledger.setup.mode = .inspect := inspect
      rw [Setup.rejection?, mode]
      rfl
    simp only [Ledger.Truthful, rejected] at truthful
    exact truthful
  · have one : (finished.outcome.result.isSome = true) = (finished.outcome.error.isNone = true) :=
      congrArg (· = true) sound
    exact (Eq.to_iff one).trans Option.isNone_iff_eq_none

theorem outcomes_truthful_sample :
    (Site.sample .execute .queued).Fresh ∧
    ∃ finish, (idle (Site.sample .execute .queued)).follow? Engine.content
        [.submit "int x;" .future, .takeUp 0, .compile, .finish 0, .beginDelivery,
          .deliverNext 0] = some finish ∧
      ∃ invocation ∈ finish.site.host.journal.invocations finish.session.id,
        invocation.ticket = 0 ∧ invocation.outcome.isSuccess = true ∧
        (invocation.outcome.result.isSome ↔ invocation.outcome.error = none) := by
  have fresh : (Site.sample .execute .queued).Fresh := ⟨rfl, rfl, rfl⟩
  have followed : (idle (Site.sample .execute .queued)).follow? Engine.content
      [.submit "int x;" .future, .takeUp 0, .compile, .finish 0, .beginDelivery,
        .deliverNext 0] = some _ := rfl
  have told := outcomes_truthful fresh followed ⟨0, .compiled .ok, .caller⟩
    (List.mem_singleton_self _)
  obtain ⟨-, -, either, -⟩ := told
  exact ⟨fresh, _, followed, _, List.mem_singleton_self _, rfl, by decide, either⟩

end Scene

end CompileSession
