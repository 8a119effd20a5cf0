import CompileSession.Proofs.Session.Ledger
import CompileSession.Session.Delivery

/-!
# Budgets are enough

Completions may submit units, so what is due can grow while it is being done.  But a completion
stands for its own unit and for all that come from it, and invoking it takes at least its own unit
away.  So what is delivered and what is run in the background ends because nothing is due any more,
never because a budget is used up.
-/

namespace CompileSession

variable {η σ : Type}

namespace Completion

theorem weight_pos (completion : Completion) : 0 < completion.weight := by
  cases completion with
  | future => exact Nat.one_pos
  | callback resubmissions panics =>
      rw [weight]
      omega

theorem weights_append (first second : List (String × Completion)) :
    weights (first ++ second) = weights first + weights second := by
  induction first with
  | nil => simp only [List.nil_append, weights, Nat.zero_add]
  | cons unit rest ih =>
      obtain ⟨source, completion⟩ := unit
      simp only [List.cons_append, weights, ih]
      omega

theorem weights_eraseIdx {α : Type} (unitOf : α → String × Completion) {items : List α}
    {position : Nat} {item : α} (found : items[position]? = some item) :
    weights (items.map unitOf) =
      (unitOf item).2.weight + weights ((items.eraseIdx position).map unitOf) := by
  induction items generalizing position with
  | nil => cases found
  | cons first rest ih =>
      cases position with
      | zero =>
          cases found
          rfl
      | succ position =>
          have others := ih found
          simp only [List.eraseIdx_cons_succ, List.map_cons, weights]
          omega

end Completion

namespace Job

@[simp] theorem load_nil : load [] = 0 := rfl

@[simp] theorem load_cons (job : Job) (jobs : List Job) :
    load (job :: jobs) = job.completion.weight + load jobs := rfl

@[simp] theorem load_append (first second : List Job) :
    load (first ++ second) = load first + load second := by
  rw [load, List.map_append, Completion.weights_append]
  rfl

theorem load_eraseIdx {jobs : List Job} {position : Nat} {job : Job}
    (found : jobs[position]? = some job) :
    load jobs = job.completion.weight + load (jobs.eraseIdx position) :=
  Completion.weights_eraseIdx _ found

end Job

namespace FinishedJob

@[simp] theorem load_nil : load [] = 0 := rfl

@[simp] theorem load_cons (finished : FinishedJob) (units : List FinishedJob) :
    load (finished :: units) = finished.job.completion.weight + load units := rfl

@[simp] theorem load_append (first second : List FinishedJob) :
    load (first ++ second) = load first + load second := by
  rw [load, List.map_append, Completion.weights_append]
  rfl

theorem load_eraseIdx {units : List FinishedJob} {position : Nat} {finished : FinishedJob}
    (found : units[position]? = some finished) :
    load units = finished.job.completion.weight + load (units.eraseIdx position) :=
  Completion.weights_eraseIdx _ found

theorem length_le_load (units : List FinishedJob) : units.length ≤ load units := by
  induction units with
  | nil => exact Nat.le_refl _
  | cons finished rest ih =>
      have positive := finished.job.completion.weight_pos
      rw [List.length_cons, load_cons]
      omega

end FinishedJob

theorem Job.length_le_load (jobs : List Job) : jobs.length ≤ load jobs := by
  induction jobs with
  | nil => exact Nat.le_refl _
  | cons job rest ih =>
      have positive := job.completion.weight_pos
      rw [List.length_cons, load_cons]
      omega

namespace Session

/-- How many units the units stand for that the background is to deal with. -/
def pendingLoad (session : Session σ) : Nat :=
  Job.load session.waiting + Job.load session.held.toList +
    FinishedJob.load session.compiled + FinishedJob.load session.returning

/-- What submissions and completions leave alone. -/
structure Undisturbed (before after : Session σ) : Prop where
  isOpen : after.isOpen = before.isOpen
  held : after.held = before.held
  compiled : after.compiled = before.compiled

theorem Undisturbed.refl (session : Session σ) : session.Undisturbed session :=
  ⟨rfl, rfl, rfl⟩

theorem Undisturbed.trans {before middle after : Session σ} (first : before.Undisturbed middle)
    (second : middle.Undisturbed after) : before.Undisturbed after where
  isOpen := second.isOpen.trans first.isOpen
  held := second.held.trans first.held
  compiled := second.compiled.trans first.compiled

/-- No unit is on its way. -/
structure Rested (session : Session σ) : Prop where
  waiting : session.waiting = []
  held : session.held = none
  compiled : session.compiled = []
  returning : session.returning = []

theorem rested_of_pendingLoad {session : Session σ} (nothing : session.pendingLoad = 0) :
    session.Rested := by
  have fewWaiting := Job.length_le_load session.waiting
  have fewHeld := Job.length_le_load session.held.toList
  have fewCompiled := FinishedJob.length_le_load session.compiled
  have fewReturning := FinishedJob.length_le_load session.returning
  rw [pendingLoad] at nothing
  have free : session.held.toList = [] := List.eq_nil_of_length_eq_zero (by omega)
  exact {
    waiting := List.eq_nil_of_length_eq_zero (by omega)
    held := Option.toList_eq_nil_iff.mp free
    compiled := List.eq_nil_of_length_eq_zero (by omega)
    returning := List.eq_nil_of_length_eq_zero (by omega) }

end Session

namespace Site

/-- A measure to which a submission adds at most what its completion stands for. -/
structure Grows (η : Type) (measure : Session σ → Nat) : Prop where
  submit : ∀ (site : Site η σ) (runner : Runner) (source : String) (completion : Completion),
    measure (site.submit runner source completion).session ≤
      measure site.session + completion.weight
  resolve : ∀ (session : Session σ) (ticket : Nat) (outcome : CompileOutcome),
    measure (session.resolve ticket outcome) = measure session

section Submissions

variable (site : Site η σ) (runner : Runner)

theorem undisturbed_submit (source : String) (completion : Completion) :
    site.session.Undisturbed (site.submit runner source completion).session := by
  unfold submit reject
  dsimp only
  split
  · split
    · exact ⟨rfl, rfl, rfl⟩
    · split <;> exact ⟨rfl, rfl, rfl⟩
  · split <;> exact ⟨rfl, rfl, rfl⟩

theorem undisturbed_submitAll (units : List (String × Completion)) :
    site.session.Undisturbed (site.submitAll runner units).session := by
  induction units generalizing site with
  | nil => exact .refl _
  | cons unit rest ih => exact (undisturbed_submit site runner unit.1 unit.2).trans (ih _)

theorem load_reject (error : DispatchError) (job : Job) :
    FinishedJob.load (site.reject error job).session.queue ≤
      FinishedJob.load site.session.queue + job.completion.weight := by
  unfold reject
  dsimp only
  split
  · exact Nat.le_of_eq (FinishedJob.load_append ..)
  · exact Nat.le_add_right ..

theorem grows_queueLoad : Grows η fun session : Session σ => FinishedJob.load session.queue where
  submit site runner source completion := by
    unfold submit
    dsimp only
    split
    · split
      · exact Nat.le_add_right ..
      · exact load_reject ..
    · exact load_reject ..
  resolve _ _ _ := rfl

theorem pendingLoad_dispatch (job : Job) :
    (site.dispatch runner job).session.pendingLoad =
      site.session.pendingLoad + job.completion.weight := by
  cases runner with
  | worker =>
      simp only [dispatch, log, Session.pendingLoad, Job.load_cons]
      omega
  | caller | messenger =>
      simp only [dispatch, log, Session.pendingLoad, Job.load_append, Job.load_cons,
        Job.load_nil]
      omega

theorem pendingLoad_reject (error : DispatchError) (job : Job) :
    (site.reject error job).session.pendingLoad ≤
      site.session.pendingLoad + job.completion.weight := by
  unfold reject
  dsimp only
  split
  · exact Nat.le_add_right ..
  · simp only [log, Session.pendingLoad, FinishedJob.load_append, FinishedJob.load_cons,
      FinishedJob.load_nil]
    omega

theorem grows_pendingLoad : Grows η fun session : Session σ => session.pendingLoad where
  submit site runner source completion := by
    unfold submit
    dsimp only
    split
    · split
      · exact Nat.le_of_eq (pendingLoad_dispatch ..)
      · exact pendingLoad_reject ..
    · exact pendingLoad_reject ..
  resolve _ _ _ := rfl

theorem Grows.submitAll {measure : Session σ → Nat} (grows : Grows η measure)
    (units : List (String × Completion)) :
    measure (site.submitAll runner units).session ≤
      measure site.session + Completion.weights units := by
  induction units generalizing site with
  | nil => exact Nat.le_refl _
  | cons unit rest ih =>
      have first := grows.submit site runner unit.1 unit.2
      have others := ih (site.submit runner unit.1 unit.2)
      have all : site.submitAll runner (unit :: rest) =
          (site.submit runner unit.1 unit.2).submitAll runner rest := rfl
      have weights : Completion.weights (unit :: rest) =
          unit.2.weight + Completion.weights rest := rfl
      rw [all, weights]
      omega

end Submissions

section Invocations

variable (site : Site η σ) (runner : Runner) (finished : FinishedJob)

/-- What is left behind by a completion that submits further units. -/
theorem invoke_callback {resubmissions : List (String × Completion)} {panics : Bool}
    (way : finished.job.completion = .callback resubmissions panics) :
    ∃ begun : Site η σ, begun.session = site.session ∧
      (site.invoke runner finished).2 =
        if begun.session.isOpen then begun.submitAll runner resubmissions else begun := by
  refine ⟨site.record (.invoked site.session.id finished.ticket finished.outcome runner), rfl, ?_⟩
  simp only [invoke, start, way]
  cases panics <;> rfl

theorem invoke_future (way : finished.job.completion = .future) :
    (site.invoke runner finished).2.session =
      site.session.resolve finished.ticket finished.outcome := by
  simp only [invoke, start, way]
  rfl

theorem undisturbed_invoke :
    site.session.Undisturbed (site.invoke runner finished).2.session := by
  cases way : finished.job.completion with
  | future =>
      rw [invoke_future site runner finished way]
      exact ⟨rfl, rfl, rfl⟩
  | callback resubmissions panics =>
      obtain ⟨begun, same, after⟩ := invoke_callback site runner finished way
      rw [after, ← same]
      split
      · exact undisturbed_submitAll begun runner resubmissions
      · exact .refl _

/-- A completion adds less than it stands for. -/
theorem Grows.invoke {measure : Session σ → Nat} (grows : Grows η measure) :
    measure (site.invoke runner finished).2.session + 1 ≤
      finished.job.completion.weight + measure site.session := by
  cases way : finished.job.completion with
  | future =>
      rw [invoke_future site runner finished way, grows.resolve, Completion.weight]
      omega
  | callback resubmissions panics =>
      obtain ⟨begun, same, after⟩ := invoke_callback site runner finished way
      have submitted := grows.submitAll begun runner resubmissions
      rw [after, ← same, Completion.weight]
      split <;> omega

theorem session_deliver :
    (site.deliver runner finished).session = (site.invoke runner finished).2.session := by
  unfold deliver
  split
  case h_1 after invoked => rw [invoked]
  case h_2 panic after invoked =>
    rw [invoked]
    rfl

end Invocations

/-- Every delivery takes at least one of the units for which the queue stands. -/
theorem load_deliverNext? {site after : Site η σ} {reply : Reply Unit}
    (delivered : site.deliverNext? = some (reply, after)) :
    FinishedJob.load after.session.queue + 1 ≤ FinishedJob.load site.session.queue := by
  obtain ⟨⟨finished, rest⟩, taken, invoked⟩ := Option.map_eq_some_iff.mp delivered
  have kept := grows_queueLoad.invoke rest .caller finished
  dsimp only at invoked
  rw [invoked] at kept
  unfold takeQueued? at taken
  split at taken
  case h_1 => cases taken
  case h_2 first others queue =>
    cases taken
    rw [queue, FinishedJob.load_cons]
    exact kept

/-- A budget is not used up before the background comes to rest.  A unit that waits takes three
steps, one that is held two, all others one; completions pay for the units that they submit. -/
def Enough (budget : Nat) (session : Session σ) : Prop :=
  3 * session.pendingLoad ≤
    budget + session.held.toList.length + 2 * session.compiled.length

section Background

variable {budget : Nat} {site after : Site η σ}

/-- A completion that is delivered in the background pays for itself and for what it submits. -/
theorem Enough.deliver {runner : Runner} {finished : FinishedJob}
    (enough : 3 * (finished.job.completion.weight + site.session.pendingLoad) ≤
      budget + 3 + site.session.held.toList.length + 2 * site.session.compiled.length) :
    Enough budget (site.deliver runner finished).session := by
  have less := grows_pendingLoad.invoke site runner finished
  have kept := undisturbed_invoke site runner finished
  rw [Enough, session_deliver, kept.held, kept.compiled]
  omega

theorem Enough.arrive? {position : Nat} (enough : Enough (budget + 1) site.session)
    (arrived : site.arrive? position = some after) : Enough budget after.session := by
  obtain ⟨_, taken, rfl⟩ := Option.map_eq_some_iff.mp arrived
  obtain ⟨finished, found, rfl⟩ := Option.map_eq_some_iff.mp taken
  rw [Enough, Session.pendingLoad, FinishedJob.load_eraseIdx found] at enough
  apply Enough.deliver
  simp only [Session.pendingLoad]
  omega

theorem Enough.finish? {position : Nat} (enough : Enough (budget + 1) site.session)
    (left : site.finish? position = some after) : Enough budget after.session := by
  obtain ⟨_, taken, rfl⟩ := Option.map_eq_some_iff.mp left
  obtain ⟨finished, found, rfl⟩ := Option.map_eq_some_iff.mp taken
  obtain ⟨inside, -⟩ := List.getElem?_eq_some_iff.mp found
  have fewer := List.length_eraseIdx_of_lt inside
  have positive := finished.job.completion.weight_pos
  rw [Enough, Session.pendingLoad, FinishedJob.load_eraseIdx found] at enough
  dsimp only
  split
  · simp only [Enough, Session.pendingLoad, enqueue, record, fewer]
    omega
  · apply Enough.deliver
    simp only [Session.pendingLoad, fewer]
    omega

theorem Enough.compile? {engine : Engine η σ} (enough : Enough (budget + 1) site.session)
    (compiled : site.compile? engine = some after) : Enough budget after.session := by
  obtain ⟨job, held, -⟩ := Option.map_eq_some_iff.mp compiled
  let reply := (site.perform engine (some job.ticket) (.compileString job.source)).1
  have reached := ledger_compile? [] held compiled
  have waiting : after.session.waiting = site.session.waiting :=
    congrArg Ledger.waiting reached
  have free : after.session.held = none := congrArg Ledger.held reached
  have more : after.session.compiled = site.session.compiled ++ [job.answered reply] :=
    congrArg Ledger.compiled reached
  have returning : after.session.returning = site.session.returning :=
    congrArg Ledger.returning reached
  have completion : (job.answered reply).job.completion = job.completion := by
    cases reply <;> rfl
  rw [Enough, Session.pendingLoad, held] at enough
  rw [Enough, Session.pendingLoad, waiting, free, more, returning]
  simp only [FinishedJob.load_append, FinishedJob.load_cons, FinishedJob.load_nil, completion,
    Option.toList_some, Option.toList_none, Job.load_cons, Job.load_nil, List.length_append,
    List.length_singleton, List.length_nil] at enough ⊢
  omega

theorem Enough.takeUp? {position : Nat} (enough : Enough (budget + 1) site.session)
    (taken : site.takeUp? position = some after) : Enough budget after.session := by
  unfold Site.takeUp? at taken
  split at taken
  case h_1 job free found =>
    cases taken
    rw [Enough, Session.pendingLoad, free, Job.load_eraseIdx found] at enough
    simp only [Enough, Session.pendingLoad, takeEngine, log, Option.toList_some,
      Option.toList_none, Job.load_cons, Job.load_nil, List.length_singleton,
      List.length_nil] at enough ⊢
    omega
  case h_2 => cases taken

theorem Enough.background? {engine : Engine η σ} {mayCompile : Bool}
    (enough : Enough (budget + 1) site.session)
    (moved : site.background? engine mayCompile = some after) : Enough budget after.session := by
  simp only [Site.background?, Option.orElse_eq_or, Option.or_eq_some_iff] at moved
  obtain ((arrived | ⟨-, left⟩) | ⟨-, compiled⟩) | ⟨-, taken⟩ := moved
  · exact enough.arrive? arrived
  · exact enough.finish? left
  · split at compiled
    · exact enough.compile? compiled
    · cases compiled
  · exact enough.takeUp? taken

theorem Enough.pendingLoad_eq_zero (nothing : Enough 0 site.session) :
    site.session.pendingLoad = 0 := by
  have fewHeld := Job.length_le_load site.session.held.toList
  have fewCompiled := FinishedJob.length_le_load site.session.compiled
  rw [Enough, Session.pendingLoad] at nothing
  rw [Session.pendingLoad]
  omega

theorem background?_of_rested (engine : Engine η σ) (mayCompile : Bool)
    (rested : site.session.Rested) : site.background? engine mayCompile = none := by
  obtain ⟨waiting, held, compiled, returning⟩ := rested
  have noArrival : site.arrive? 0 = none := by simp [Site.arrive?, takeReturning?, returning]
  have noFinish : site.finish? 0 = none := by simp [Site.finish?, takeCompiled?, compiled]
  have noCompile : site.compile? engine = none := by simp [Site.compile?, held]
  have noTakeUp : site.takeUp? 0 = none := by simp [Site.takeUp?, held, waiting]
  simp [Site.background?, noArrival, noFinish, noCompile, noTakeUp]

theorem rested_of_background? {engine : Engine η σ}
    (nothing : site.background? engine true = none) : site.session.Rested := by
  simp only [Site.background?, if_true, Option.orElse_eq_or, Option.or_eq_none_iff] at nothing
  obtain ⟨⟨⟨noArrival, noFinish⟩, noCompile⟩, noTakeUp⟩ := nothing
  have held : site.session.held = none := by simpa [Site.compile?] using noCompile
  have waiting : site.session.waiting = [] := by
    cases waiting : site.session.waiting with
    | nil => rfl
    | cons job rest => simp [Site.takeUp?, held, waiting] at noTakeUp
  have compiled : site.session.compiled = [] := by
    cases compiled : site.session.compiled with
    | nil => rfl
    | cons finished rest => simp [Site.finish?, takeCompiled?, compiled] at noFinish
  have returning : site.session.returning = [] := by
    cases returning : site.session.returning with
    | nil => rfl
    | cons finished rest => simp [Site.arrive?, takeReturning?, returning] at noArrival
  exact ⟨waiting, held, compiled, returning⟩

/-- A budget that is enough leaves nothing to do in the background. -/
theorem background?_settleWithin (engine : Engine η σ) (mayCompile : Bool) (site : Site η σ)
    (enough : Enough budget site.session) :
    (site.settleWithin engine mayCompile budget).background? engine mayCompile = none := by
  induction budget generalizing site with
  | zero =>
      apply background?_of_rested
      exact Session.rested_of_pendingLoad enough.pendingLoad_eq_zero
  | succ budget ih =>
      unfold settleWithin
      split
      case h_1 nothing => exact nothing
      case h_2 after moved => exact ih after (enough.background? moved)

theorem background?_settle (engine : Engine η σ) (mayCompile : Bool) (site : Site η σ) :
    (site.settle engine mayCompile).background? engine mayCompile = none := by
  apply background?_settleWithin
  simp only [Enough, backgroundLoad, Session.pendingLoad]
  omega

/-- When everything is settled, no unit is on its way any more, however many units completions have
submitted meanwhile. -/
theorem settle_rested (engine : Engine η σ) (site : Site η σ) :
    (site.settle engine true).session.Rested :=
  rested_of_background? (background?_settle engine true site)

end Background

end Site

end CompileSession
