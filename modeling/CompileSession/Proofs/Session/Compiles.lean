import CompileSession.Proofs.Session.Conservation

/-!
# Compile calls for units

A session that rejects no units asks its engine once about each of them, with the text that was
passed when the unit was submitted.  A session that rejects units never asks.
-/

namespace CompileSession

/-- The engine was asked about a unit once, with the text that was passed when the unit was
submitted. -/
def CompiledOnce (sources : List String) (calls : List Answer) (ticket : Nat) : Prop :=
  ∃ source reply, sources[ticket]? = some source ∧
    calls.filter (·.origin = .unit ticket) =
      [{ origin := .unit ticket, call := .compileString source, reply }]

namespace Ledger

/-- The engine's answers to the workers of a unit. -/
def compilesFor (ledger : Ledger) (ticket : Nat) : List Answer :=
  ledger.compiles.filter (·.origin = .unit ticket)

/-- The units that the engine is still to be asked about. -/
def due (ledger : Ledger) : List Job :=
  ledger.waiting ++ ledger.held.toList

/-- How often the engine was asked about a unit or still is to be. -/
def engagements (ledger : Ledger) (ticket : Nat) : Nat :=
  (ledger.due.map Job.ticket).count ticket + (ledger.compilesFor ticket).length

theorem compilesFor_concat (ledger : Ledger) (job : Job) (reply : Reply Status) (ticket : Nat) :
    ((ledger.compiles ++ [job.compile reply]).filter (·.origin = .unit ticket)).length =
      (ledger.compilesFor ticket).length + [job.ticket].count ticket := by
  have origin : (job.compile reply).origin = .unit job.ticket := rfl
  rw [List.filter_append, List.length_append, compilesFor]
  by_cases same : job.ticket = ticket
  · simp [origin, same]
  · simp [origin, same]

/-- Each unit that is not rejected is engaged once, and no other is. -/
def EngagedOnce (ledger : Ledger) : Prop :=
  ∀ ticket, ledger.engagements ticket =
    if ledger.setup.rejection? = none ∧ ticket < ledger.submitted then 1 else 0

theorem engagedOnce_blank (setup : Setup) : (blank setup).EngagedOnce := by
  intro ticket
  simp [engagements, due, compilesFor, blank]

/-- A step engages the unit that it accepts, and no other anew. -/
theorem Step.engagements_eq {move : Move} {ledger after : Ledger}
    (step : ledger.Step move after) (ticket : Nat) :
    after.engagements ticket = ledger.engagements ticket +
      if ledger.setup.rejection? = none ∧ move.source?.isSome then
        [ledger.submitted].count ticket else 0 := by
  cases step with
  | still quiet => simp [Move.source?_eq_none_of_quiet quiet]
  | @accept _ _ job waiting accepted isOpen submits numbered permutation =>
      have joined := (permutation.map Job.ticket).count_eq ticket
      rw [List.map_cons, List.count_cons] at joined
      simp [engagements, due, compilesFor, accepted, submits, joined, numbered,
        List.count_singleton]
      omega
  | rejectToQueue rejected | rejectAway rejected => simp [engagements, due, compilesFor, rejected]
  | takeUp free found =>
      have taken := count_map_eraseIdx Job.ticket found ticket
      simp [engagements, due, compilesFor, taken, free, Move.source?]
      omega
  | @compile _ job reply held =>
      have asked := compilesFor_concat ledger job reply ticket
      simp [engagements, due, compilesFor, held, Move.source?] at asked ⊢
      omega
  | enqueue | invokeCompiled | invokeReturning | invokeQueued | close =>
      simp [engagements, due, compilesFor, Move.source?]

theorem EngagedOnce.step {move : Move} {ledger after : Ledger} (once : ledger.EngagedOnce)
    (step : ledger.Step move after) : after.EngagedOnce := by
  intro ticket
  rw [step.engagements_eq, step.submitted_eq, step.setup_eq, once ticket]
  by_cases accepted : ledger.setup.rejection? = none
  · by_cases submits : move.source?.isSome = true
    · simp only [accepted, submits, if_true, true_and, List.count_singleton, beq_iff_eq]
      split <;> split <;> split <;> omega
    · simp [submits]
  · simp [accepted]

/-- Workers ask with the texts that were passed when their units were submitted. -/
structure Quoted (sources : List String) (ledger : Ledger) : Prop where
  length_eq : sources.length = ledger.submitted
  due : ∀ job ∈ ledger.due, sources[job.ticket]? = some job.source
  compiles : ∀ answer ∈ ledger.compiles, ∃ job reply, answer = Job.compile job reply ∧
    sources[job.ticket]? = some job.source

theorem quoted_blank (setup : Setup) : (blank setup).Quoted [] where
  length_eq := rfl
  due := by
    intro job member
    cases member
  compiles := by
    intro answer member
    cases member

theorem Quoted.more {sources : List String} {ledger after : Ledger} (quoted : ledger.Quoted sources)
    (texts : List String) (counted : after.submitted = ledger.submitted + texts.length)
    (due : ∀ job ∈ after.due,
      job ∈ ledger.due ∨ (sources ++ texts)[job.ticket]? = some job.source)
    (compiles : after.compiles = ledger.compiles) : after.Quoted (sources ++ texts) where
  length_eq := by rw [List.length_append, quoted.length_eq, counted]
  due := by
    intro job member
    rcases due job member with earlier | new
    · have quote := quoted.due job earlier
      rw [List.getElem?_append_left (List.getElem?_eq_some_iff.mp quote).1]
      exact quote
    · exact new
  compiles := by
    rw [compiles]
    intro answer member
    obtain ⟨job, reply, rfl, quote⟩ := quoted.compiles answer member
    refine ⟨job, reply, rfl, ?_⟩
    rw [List.getElem?_append_left (List.getElem?_eq_some_iff.mp quote).1]
    exact quote

theorem Quoted.step {sources : List String} {move : Move} {ledger after : Ledger}
    (quoted : ledger.Quoted sources) (step : ledger.Step move after) :
    after.Quoted (sources ++ move.source?.toList) := by
  have length := quoted.length_eq
  have silent {next : Ledger} {other : Move} (unspoken : other.source? = none)
      (same : next.submitted = ledger.submitted) (due : ∀ job ∈ next.due, job ∈ ledger.due)
      (compiles : next.compiles = ledger.compiles) :
      next.Quoted (sources ++ other.source?.toList) := by
    rw [unspoken]
    exact quoted.more [] same (fun job member => .inl (due job member)) compiles
  cases step with
  | still quiet =>
      exact silent (Move.source?_eq_none_of_quiet quiet) rfl (fun _ member => member) rfl
  | @accept _ _ job waiting accepted isOpen submits numbered permutation =>
      rw [submits]
      refine quoted.more _ rfl ?_ rfl
      intro other member
      rcases List.mem_append.mp member with inWaiting | inHeld
      · rcases List.mem_cons.mp (permutation.mem_iff.mp inWaiting) with new | earlier
        · right
          rw [new, numbered, ← length]
          exact List.getElem?_concat_length
        · exact .inl (List.mem_append_left _ earlier)
      · exact .inl (List.mem_append_right _ inHeld)
  | rejectToQueue rejected queued isOpen submits | rejectAway rejected worker isOpen submits =>
      rw [submits]
      exact quoted.more _ rfl (fun _ member => .inl member) rfl
  | takeUp free found =>
      refine silent rfl rfl ?_ rfl
      intro job member
      rcases List.mem_append.mp member with left | taken
      · exact List.mem_append_left _ (List.mem_of_mem_eraseIdx left)
      · cases List.mem_singleton.mp taken
        exact List.mem_append_left _ (List.mem_of_getElem? found)
  | @compile _ job reply held =>
      have asked := quoted.due job (List.mem_append_right _ (by simp [held]))
      refine ⟨?_, ?_, ?_⟩
      · simpa [Move.source?] using length
      · intro other member
        have waiting : other ∈ ledger.waiting := by
          simpa [Ledger.due] using member
        simpa [Move.source?] using quoted.due other (List.mem_append_left _ waiting)
      · intro answer member
        simp only [Move.source?, Option.toList_none, List.append_nil]
        rcases List.mem_append.mp member with earlier | new
        · exact quoted.compiles answer earlier
        · exact ⟨job, reply, List.mem_singleton.mp new, asked⟩
  | enqueue | invokeCompiled | invokeReturning | invokeQueued | close =>
      exact silent rfl rfl (fun _ member => member) rfl

theorem compiles_eq_nil {sources : List String} {ledger : Ledger} (quoted : ledger.Quoted sources)
    (once : ledger.EngagedOnce) (rejected : ledger.setup.rejection? ≠ none) :
    ledger.compiles = [] := by
  apply List.eq_nil_iff_forall_not_mem.mpr
  intro answer member
  obtain ⟨job, reply, rfl, -⟩ := quoted.compiles answer member
  have never := once job.ticket
  rw [if_neg (fun engaged => rejected engaged.1)] at never
  have asked : job.compile reply ∈ ledger.compilesFor job.ticket :=
    List.mem_filter.mpr ⟨member, by simp [Job.compile]⟩
  have some := List.length_pos_of_mem asked
  rw [engagements] at never
  omega

theorem length_compilesFor_le {ledger : Ledger} (once : ledger.EngagedOnce) (ticket : Nat) :
    (ledger.compilesFor ticket).length ≤ 1 := by
  have engaged := once ticket
  rw [engagements] at engaged
  split at engaged <;> omega

theorem compilesFor_eq_singleton {ledger : Ledger} (once : ledger.EngagedOnce) {answer : Answer}
    (member : answer ∈ ledger.compiles) {ticket : Nat} (origin : answer.origin = .unit ticket) :
    ledger.compilesFor ticket = [answer] := by
  have asked : answer ∈ ledger.compilesFor ticket :=
    List.mem_filter.mpr ⟨member, decide_eq_true origin⟩
  have some := List.length_pos_of_mem asked
  have few := length_compilesFor_le once ticket
  obtain ⟨only, single⟩ := List.length_eq_one_iff.mp (Nat.le_antisymm few some)
  rw [single] at asked ⊢
  rw [List.mem_singleton.mp asked]

theorem compiledOnce_of_mem {sources : List String} {ledger : Ledger}
    (quoted : ledger.Quoted sources) (once : ledger.EngagedOnce) {answer : Answer}
    (member : answer ∈ ledger.compiles) {ticket : Nat} (origin : answer.origin = .unit ticket) :
    CompiledOnce sources ledger.compiles ticket := by
  have only := compilesFor_eq_singleton once member origin
  obtain ⟨job, reply, rfl, quote⟩ := quoted.compiles answer member
  cases origin
  exact ⟨job.source, reply, quote, only⟩

theorem compiledOnce {sources : List String} {ledger : Ledger} (quoted : ledger.Quoted sources)
    (once : ledger.EngagedOnce) (accepted : ledger.setup.rejection? = none) {ticket : Nat}
    (submitted : ticket < ledger.submitted)
    (done : (ledger.due.map Job.ticket).count ticket = 0) :
    CompiledOnce sources ledger.compiles ticket := by
  have engaged := once ticket
  rw [if_pos ⟨accepted, submitted⟩, engagements, done, Nat.zero_add] at engaged
  obtain ⟨answer, only⟩ := List.length_eq_one_iff.mp engaged
  have asked : answer ∈ ledger.compilesFor ticket := only ▸ List.mem_singleton_self answer
  obtain ⟨member, origin⟩ := List.mem_filter.mp asked
  exact compiledOnce_of_mem quoted once member (of_decide_eq_true origin)

theorem Conserved.count_due_eq_zero {ledger : Ledger} (conserved : ledger.Conserved)
    {invocation : Invocation} (member : invocation ∈ ledger.invocations) :
    (ledger.due.map Job.ticket).count invocation.ticket = 0 ∧
      invocation.ticket < ledger.submitted := by
  have once := conserved invocation.ticket
  have invoked : 0 < ledger.occurrences invocation.ticket .invoked :=
    List.count_pos_iff.mpr (List.mem_map_of_mem member)
  rw [total] at once
  have submitted : invocation.ticket < ledger.submitted := by
    by_contra unsubmitted
    rw [if_neg unsubmitted] at once
    omega
  rw [if_pos submitted] at once
  have finished : ledger.occurrences invocation.ticket .unfinished = 0 := by omega
  refine ⟨?_, submitted⟩
  simp only [occurrences, tickets, List.count_append] at finished
  rw [due, List.map_append, List.count_append]
  omega

end Ledger

theorem Setup.rejection?_eq_none_iff {setup : Setup} :
    setup.rejection? = none ↔ setup.mode = .execute ∧ ∃ workers, setup.pool = .ok workers := by
  obtain ⟨mode, delivery, pool⟩ := setup
  cases mode <;> cases pool <;> simp [rejection?, OutputMode.canRun]

namespace Scene

variable {η σ : Type} {engine : Engine η σ} {site : Site η σ} {schedule : List Move}
  {finish : Scene η σ}

theorem follow?_engagedOnce (fresh : site.Fresh)
    (followed : (idle site).follow? engine schedule = some finish) :
    finish.ledger.EngagedOnce :=
  follow?_ledger (fresh.ledger_idle ▸ Ledger.engagedOnce_blank _) Ledger.EngagedOnce.step followed

theorem follow?_quoted (fresh : site.Fresh)
    (followed : (idle site).follow? engine schedule = some finish) :
    finish.ledger.Quoted (schedule.filterMap Move.source?) := by
  apply follow?_induction
    (motive := fun schedule scene => scene.ledger.Quoted (schedule.filterMap Move.source?))
    (fresh.ledger_idle ▸ Ledger.quoted_blank _) _ followed
  intro schedule move scene after _ quoted moved
  have more := quoted.step (ledger_move? moved)
  rw [List.filterMap_append]
  cases source : move.source? with
  | none => simpa [source] using more
  | some text => simpa [source] using more

theorem compilesFor_ledger (scene : Scene η σ) (ticket : Nat) :
    scene.ledger.compilesFor ticket = scene.calls.filter (·.origin = .unit ticket) := by
  simp only [Ledger.compilesFor, ledger, Site.ledger, List.filter_filter]
  apply List.filter_congr
  intro answer _
  cases origin : answer.origin <;> simp [Answer.isForUnit, origin]

theorem compiledOnce_ledger {scene : Scene η σ} {sources : List String} {ticket : Nat} :
    CompiledOnce sources scene.ledger.compiles ticket ↔
      CompiledOnce sources scene.calls ticket := by
  rw [CompiledOnce, CompiledOnce, ← compilesFor_ledger]
  rfl

end Scene

end CompileSession
