import CompileSession.Proofs.Session.Counter
import CompileSession.Session.Creation
import CompileSession.Session.Delivery
import Mathlib.Algebra.Ring.Nat
import Mathlib.Data.List.Nodup

/-!
# The queue of a session

Whatever is submitted, finished and delivered in between, units leave the queue of a session in the
order in which they entered it, callers are told how many completions they ran, and what they were
told and what still lies in the queue make up for all that was finished.
-/

namespace CompileSession

/-- Whether a move lets a completion that callers run give up. -/
def Move.givesUp : Move → Bool
  | .completeDelivery _ panics => panics
  | _ => false

/-- Whether a move is a caller's asking for the delivery of completions. -/
def Move.asksForDelivery : Move → Bool
  | .beginDelivery => true
  | _ => false

/-- The units among some invocations whose completions callers ran. -/
def Invocation.delivered (invocations : List Invocation) : List Nat :=
  (invocations.filter (·.runner = .caller)).map (·.ticket)

namespace Invocation

@[simp] theorem delivered_append (first second : List Invocation) :
    delivered (first ++ second) = delivered first ++ delivered second := by
  simp [delivered]

theorem delivered_of_caller {invocation : Invocation} (caller : invocation.runner = .caller) :
    delivered [invocation] = [invocation.ticket] := by
  simp [delivered, caller]

theorem delivered_of_worker {invocation : Invocation} (worker : invocation.runner = .worker) :
    delivered [invocation] = [] := by
  simp [delivered, worker]

theorem delivered_of_callers {invocations : List Invocation}
    (callers : ∀ invocation ∈ invocations, invocation.runner = .caller) :
    delivered invocations = invocations.map (·.ticket) := by
  rw [delivered, List.filter_eq_self.mpr]
  intro invocation member
  exact decide_eq_true (callers invocation member)

end Invocation

namespace Counter

open Invocation (delivered)

/-- Units leave the queue in the order in which they entered it, and only with callers while the
session is there. -/
structure Ordered (counter : Counter) : Prop where
  order : counter.entrances =
    delivered counter.invocations ++ counter.abandonments ++ counter.queue
  alive : counter.isOpen = true → counter.abandonments = [] ∧ counter.running = [] ∧
    ∀ invocation ∈ counter.invocations, invocation.runner = .caller
  closed : counter.isOpen = false → counter.drains = []

theorem Ordered.isOpen {counter : Counter} (ordered : counter.Ordered) {before after : List Drain}
    {drain : Drain} (asked : counter.drains = before ++ drain :: after) :
    counter.isOpen = true := by
  by_contra closed
  have none := ordered.closed (eq_false_of_ne_true closed)
  simp [asked] at none

theorem Ordered.step {move : Move} {counter after : Counter} (ordered : counter.Ordered)
    (step : Step move counter after) : after.Ordered := by
  have order := ordered.order
  have exists_of {P : Prop} (isOpen : counter.isOpen = true) (gone : counter.isOpen = false) : P :=
    Bool.noConfusion (isOpen.symm.trans gone)
  cases step with
  | still => exact ordered
  | enter =>
      refine ⟨?_, ordered.alive, ordered.closed⟩
      rw [order, List.append_assoc]
  | outlive gone worker =>
      refine ⟨?_, fun isOpen => exists_of isOpen gone, ordered.closed⟩
      rw [order, Invocation.delivered_append, Invocation.delivered_of_worker worker,
        List.append_nil]
  | beginDelivery isOpen => exact ⟨order, ordered.alive, exists_of isOpen⟩
  | deliver asked filled caller =>
      have isOpen := ordered.isOpen asked
      obtain ⟨kept, resting, callers⟩ := ordered.alive isOpen
      refine ⟨?_, ?_, exists_of isOpen⟩
      · rw [order, Invocation.delivered_append, Invocation.delivered_of_caller caller, kept, filled]
        simp
      · intro _
        exact ⟨kept, resting,
          List.forall_mem_append.mpr ⟨callers, List.forall_mem_singleton.mpr caller⟩⟩
  | completeDelivery asked | giveUp asked | endDelivery asked =>
      exact ⟨order, ordered.alive, exists_of (ordered.isOpen asked)⟩
  | complete running =>
      refine ⟨order, ?_, ordered.closed⟩
      intro isOpen
      exact absurd (ordered.alive isOpen).2.1 running
  | close isOpen noDrain =>
      refine ⟨?_, fun impossible => Bool.noConfusion impossible, fun _ => noDrain⟩
      rw [order, List.append_nil, List.append_assoc]

/-- How many completions callers ran is what they were told and what there is to tell. -/
def Counted (counter : Counter) : Prop :=
  (delivered counter.invocations).length =
    counter.counts.sum + (counter.drains.map Drain.delivered).sum

theorem Counted.step {move : Move} {counter after : Counter} (counted : counter.Counted)
    (calm : move.givesUp = false) (step : Step move counter after) : after.Counted := by
  unfold Counted at counted ⊢
  cases step with
  | still | enter | complete | close => exact counted
  | outlive gone worker =>
      rw [Invocation.delivered_append, Invocation.delivered_of_worker worker, List.append_nil]
      exact counted
  | beginDelivery => simpa [Drain.delivered] using counted
  | deliver asked filled caller begun =>
      rw [Invocation.delivered_append, Invocation.delivered_of_caller caller, List.length_append,
        counted, asked]
      simp only [List.map_append, List.map_cons, List.sum_append, List.sum_cons, begun,
        List.length_singleton]
      simp only [Drain.delivered, Option.toList_none, List.length_nil]
      omega
  | completeDelivery asked =>
      rw [counted, asked]
      simp [Drain.delivered]
  | giveUp => cases calm
  | endDelivery asked =>
      rw [counted, asked]
      simp [Drain.delivered]
      omega

/-- What callers were told and what lies in the queue add up to what entered it. -/
theorem Ordered.length_entrances {counter : Counter} (ordered : counter.Ordered)
    (counted : counter.Counted) (isOpen : counter.isOpen = true) (noDrain : counter.drains = []) :
    counter.entrances.length = counter.counts.sum + counter.queue.length := by
  rw [Counted, noDrain, List.map_nil, List.sum_nil, Nat.add_zero] at counted
  rw [ordered.order, (ordered.alive isOpen).1, List.append_nil, List.length_append, counted]

theorem finishes_of_usesQueue {move : Move} {rejecting : Bool}
    (unused : move.usesQueue rejecting = false) : move.finishes rejecting = false := by
  cases move <;> first | exact unused | cases unused

/-- What finishes a unit lets it into the queue, as long as the session is there. -/
theorem Step.length_entrances {move : Move} {counter after : Counter}
    (step : Step move counter after) (isOpen : after.isOpen = true) :
    after.entrances.length =
      counter.entrances.length + (if move.finishes counter.rejecting then 1 else 0) := by
  cases step with
  | still quiet => simp [finishes_of_usesQueue quiet]
  | enter _ finishes => simp [finishes]
  | outlive gone => cases isOpen.symm.trans gone
  | close => cases isOpen
  | beginDelivery | deliver | completeDelivery | giveUp | endDelivery | complete => rfl

theorem Step.rejecting_eq {move : Move} {counter after : Counter}
    (step : Step move counter after) : after.rejecting = counter.rejecting := by
  cases step <;> rfl

theorem Step.isOpen_of {move : Move} {counter after : Counter} (step : Step move counter after)
    (isOpen : after.isOpen = true) : counter.isOpen = true := by
  cases step with
  | close => cases isOpen
  | _ => exact isOpen

/-- Nobody takes units out of the queue but callers who have asked for it. -/
theorem Step.queue_prefix {move : Move} {counter after : Counter} (step : Step move counter after)
    (isOpen : after.isOpen = true) (noDrain : counter.drains = []) :
    counter.queue <+: after.queue := by
  cases step with
  | enter => exact List.prefix_append ..
  | deliver asked => simp [noDrain] at asked
  | close => cases isOpen
  | _ => exact List.prefix_rfl

/-- What the only caller who asked for completions was given since a counter. -/
inductive Alone (base counter : Counter) : Prop where
  | ended : counter.drains = [] → Alone base counter
  | asked {drain : Drain} (own : List Invocation) :
      counter.drains = [drain] → counter.counts = base.counts →
      counter.invocations = base.invocations ++ own →
      (∀ invocation ∈ own, invocation.runner = .caller) → own.length = drain.delivered →
      Alone base counter

theorem Alone.step {move : Move} {base counter after : Counter} (alone : Alone base counter)
    (ordered : counter.Ordered) (calm : move.givesUp = false)
    (unasked : move.asksForDelivery = false) (step : Step move counter after) :
    Alone base after := by
  cases alone with
  | ended none =>
      apply Alone.ended
      cases step with
      | beginDelivery => cases unasked
      | deliver asked | completeDelivery asked | giveUp asked | endDelivery asked =>
          simp [none] at asked
      | _ => exact none
  | asked own only counts invocations callers length =>
      cases step with
      | still | enter | complete => exact .asked own only counts invocations callers length
      | outlive gone =>
          have none := ordered.closed gone
          simp [only] at none
      | beginDelivery => cases unasked
      | close _ noDrain => exact .ended noDrain
      | giveUp => cases calm
      | @deliver _ _ _ _ _ _ invocation _ asked filled caller begun =>
          obtain ⟨rfl, rfl, rfl⟩ := Scene.eq_of_singleton (only.symm.trans asked)
          refine .asked (own ++ [invocation]) rfl counts ?_ ?_ ?_
          · rw [invocations, List.append_assoc]
          · exact List.forall_mem_append.mpr ⟨callers, List.forall_mem_singleton.mpr caller⟩
          · rw [List.length_append, length, begun]
            rfl
      | completeDelivery asked =>
          obtain ⟨rfl, rfl, rfl⟩ := Scene.eq_of_singleton (only.symm.trans asked)
          exact .asked own rfl counts invocations callers length
      | endDelivery asked =>
          obtain ⟨rfl, rfl, -⟩ := Scene.eq_of_singleton (only.symm.trans asked)
          exact .ended rfl

/-- The caller is told how many completions were run for it. -/
theorem Alone.told {position : Nat} {base counter after : Counter} (alone : Alone base counter)
    (step : Step (.endDelivery position) counter after) :
    ∃ own, after.invocations = base.invocations ++ own ∧
      (∀ invocation ∈ own, invocation.runner = .caller) ∧
      after.counts = base.counts ++ [own.length] := by
  cases step with
  | still quiet => cases quiet
  | enter _ finishes => cases finishes
  | endDelivery asked =>
      cases alone with
      | ended none => simp [none] at asked
      | asked own only counts invocations callers length =>
          obtain ⟨-, -, rfl⟩ := Scene.eq_of_singleton (only.symm.trans asked)
          refine ⟨own, invocations, callers, ?_⟩
          rw [length, ← counts]
          rfl

/-- A completion begins when a caller who asked for completions takes its unit out of the queue. -/
theorem Step.invocations_eq {move : Move} {counter after : Counter}
    (step : Step move counter after) (isOpen : after.isOpen = true) :
    after.invocations = counter.invocations ∨
      ∃ position invocation, move = .deliverNext position ∧ invocation.runner = .caller ∧
        (∃ drain ∈ counter.drains, drain.running = none) ∧
        counter.queue = invocation.ticket :: after.queue ∧
        after.invocations = counter.invocations ++ [invocation] := by
  cases step with
  | @deliver position _ _ _ _ _ invocation _ asked filled caller =>
      have idle : ∃ drain ∈ counter.drains, drain.running = none := by
        rw [asked]
        exact ⟨_, List.mem_append_right _ List.mem_cons_self, rfl⟩
      exact .inr ⟨position, invocation, rfl, caller, idle, filled, rfl⟩
  | outlive gone => cases isOpen.symm.trans gone
  | _ => exact .inl rfl

end Counter

theorem Ledger.Conserved.nodup_invoked {ledger : Ledger} (conserved : ledger.Conserved) :
    (ledger.invocations.map Invocation.ticket).Nodup := by
  rw [List.nodup_iff_count_le_one]
  intro ticket
  have once := conserved ticket
  rw [Ledger.total_eq_sum] at once
  split at once <;> omega

theorem Ledger.Conserved.not_mem_of_invoked {ledger : Ledger} (conserved : ledger.Conserved)
    {ticket : Nat} (invoked : ticket ∈ ledger.invocations.map Invocation.ticket) :
    ticket ∉ ledger.abandonments ∧ ticket ∉ ledger.queue.map FinishedJob.ticket := by
  have positive := List.count_pos_iff.mpr invoked
  have once := conserved ticket
  rw [Ledger.total_eq_sum] at once
  constructor <;> (apply List.count_eq_zero.mp; split at once <;> omega)

namespace Site

variable {η σ : Type} (site : Site η σ)

/-- What completions were told, and what those who had asked for them. -/
def told : List Invocation × List Nat :=
  (site.host.journal.invocations site.session.id, site.host.journal.counts site.session.id)

theorem told_record (entry : Entry) :
    (site.record entry).told =
      (site.told.1 ++ (entry.invocation? site.session.id).toList,
        site.told.2 ++ (entry.count? site.session.id).toList) :=
  congrArg₂ Prod.mk (Journal.filterMap_concat ..) (Journal.filterMap_concat ..)

theorem told_record_quiet {entry : Entry}
    (noInvocation : entry.invocation? site.session.id = none)
    (noCount : entry.count? site.session.id = none) : (site.record entry).told = site.told := by
  simp only [told_record, noInvocation, noCount, Option.toList_none, List.append_nil]

theorem told_log (level : Log.Level) (message : String) (fields : List (String × Log.Value)) :
    (site.log level message fields).told = site.told :=
  told_record_quiet site rfl rfl

theorem told_reject (error : DispatchError) (job : Job) :
    (site.reject error job).told = site.told := by
  unfold reject
  dsimp only
  split
  · exact (told_record_quiet _ rfl rfl).trans (told_log ..)
  · exact told_log ..

theorem told_submit (runner : Runner) (source : String) (completion : Completion) :
    (site.submit runner source completion).told = site.told := by
  have registered : (site.register completion).told = site.told :=
    told_record_quiet site rfl rfl
  unfold submit
  dsimp only
  split
  · split
    · exact (told_log ..).trans registered
    · exact (told_reject ..).trans registered
  · exact (told_reject ..).trans registered

theorem told_submitAll (runner : Runner) (units : List (String × Completion)) :
    (site.submitAll runner units).told = site.told := by
  induction units generalizing site with
  | nil => rfl
  | cons unit rest ih => exact (ih _).trans (told_submit ..)

theorem told_start (runner : Runner) (finished : FinishedJob) :
    (site.start runner finished).told =
      (site.told.1 ++ [finished.invocation runner], site.told.2) := by
  have recorded := site.told_record
    (.invoked site.session.id finished.ticket finished.outcome runner)
  simp only [Entry.invocation?, Entry.count?, if_true, Option.toList_some, Option.toList_none,
    List.append_nil] at recorded
  unfold start
  split <;> exact recorded

/-- A completion is told what became of its unit, whatever it submits itself. -/
theorem told_invoke (runner : Runner) (finished : FinishedJob) :
    (site.invoke runner finished).2.told =
      (site.told.1 ++ [finished.invocation runner], site.told.2) := by
  have begun := told_start site runner finished
  cases way : finished.job.completion with
  | future =>
      simp only [invoke, way]
      exact begun
  | callback resubmissions panics =>
      have submitted : (if (site.start runner finished).session.isOpen then
          (site.start runner finished).submitAll runner resubmissions
          else site.start runner finished).told = (site.start runner finished).told := by
        split
        · exact told_submitAll ..
        · rfl
      simp only [invoke, way]
      cases panics <;> exact submitted.trans begun

theorem told_deliverNext? {site next : Site η σ} {reply : Reply Unit}
    (delivered : site.deliverNext? = some (reply, next)) :
    ∃ finished : FinishedJob,
      next.told = (site.told.1 ++ [finished.invocation .caller], site.told.2) := by
  obtain ⟨⟨finished, rest⟩, taken, invoked⟩ := Option.map_eq_some_iff.mp delivered
  have same : rest.told = site.told := by
    simp only [takeQueued?] at taken
    split at taken
    · cases taken
    · cases taken
      rfl
  have told := told_invoke rest .caller finished
  dsimp only at invoked
  rw [invoked, same] at told
  exact ⟨finished, told⟩

theorem told_endDelivery (count : Nat) :
    (site.endDelivery count).told = (site.told.1, site.told.2 ++ [count]) := by
  rw [endDelivery, told_record]
  simp [Entry.invocation?, Entry.count?]

/-- Whoever asks for completions is told how many were run meanwhile, `count` earlier ones
included. -/
theorem told_deliverRest {budget count value : Nat} {site after : Site η σ}
    (done : site.deliverRest budget count = (.returned value, after)) :
    ∃ own, after.told = (site.told.1 ++ own, site.told.2 ++ [value]) ∧
      (∀ invocation ∈ own, invocation.runner = .caller) ∧ value = count + own.length := by
  induction budget generalizing site count with
  | zero =>
      cases done
      refine ⟨[], ?_, List.forall_mem_nil _, rfl⟩
      rw [told_endDelivery, List.append_nil]
  | succ budget ih =>
      unfold deliverRest at done
      split at done
      case h_1 =>
        cases done
        refine ⟨[], ?_, List.forall_mem_nil _, rfl⟩
        rw [told_endDelivery, List.append_nil]
      case h_2 => cases done
      case h_3 next delivered =>
        obtain ⟨own, reached, callers, counted⟩ := ih done
        obtain ⟨finished, invoked⟩ := told_deliverNext? delivered
        refine ⟨finished.invocation .caller :: own, ?_, ?_, ?_⟩
        · simp only [reached, invoked, List.append_assoc, List.singleton_append]
        · exact List.forall_mem_cons.mpr ⟨rfl, callers⟩
        · rw [counted, List.length_cons]
          omega

/-- Either way to ask for completions tells how many were run meanwhile. -/
theorem told_deliverCompletions {value : Nat} {site after : Site η σ}
    (done : site.deliverCompletions = (.returned value, after) ∨
      site.deliverCompletionsTimeout = (.returned value, after)) :
    ∃ own, after.told = (site.told.1 ++ own, site.told.2 ++ [value]) ∧
      (∀ invocation ∈ own, invocation.runner = .caller) ∧ value = own.length := by
  rcases done with done | done
  · obtain ⟨own, reached, callers, counted⟩ := told_deliverRest done
    exact ⟨own, reached, callers, counted.trans (Nat.zero_add _)⟩
  · unfold deliverCompletionsTimeout at done
    split at done
    case h_1 =>
      cases done
      refine ⟨[], ?_, List.forall_mem_nil _, rfl⟩
      rw [told_endDelivery, List.append_nil]
    case h_2 => cases done
    case h_3 next delivered =>
      obtain ⟨own, reached, callers, counted⟩ := told_deliverRest done
      obtain ⟨finished, invoked⟩ := told_deliverNext? delivered
      refine ⟨finished.invocation .caller :: own, ?_, List.forall_mem_cons.mpr ⟨rfl, callers⟩, ?_⟩
      · simp only [reached, invoked, List.append_assoc, List.singleton_append]
      · rw [counted, List.length_cons, Nat.add_comm]

end Site

namespace Session

variable {η σ : Type}

theorem passage_noteRejection (what : String) (fields : List (String × Log.Value))
    (status : Status) (site : Site η σ) :
    (noteRejection what fields status site).passage = site.passage := by
  unfold noteRejection
  split
  · exact Site.passage_log ..
  · rfl

theorem passage_restrict (engine : Engine η σ) (site : Site η σ) :
    (restrict engine site).2.passage = site.passage := by
  unfold restrict
  split
  · rfl
  · dsimp only
    generalize logged : site.log .debug _ _ = start
    have performed := Site.passage_perform start engine none (.setOptions staticOptions)
    have same : start.passage = site.passage := logged ▸ Site.passage_log ..
    split
    case h_1 status after answered =>
      rw [answered] at performed
      exact (passage_noteRejection ..).trans (performed.trans same)
    case h_2 panic after answered =>
      rw [answered] at performed
      exact performed.trans same

/-- Nothing was done with the queue of a session that has just been made, if the journal does not
know its number yet. -/
theorem passage_create {engine : Engine η σ} {state : σ} {mode : OutputMode} {workers : UInt64}
    {delivery : Delivery} {host : Host η} {site : Site η σ}
    (noEntrance : host.journal.entrances host.nextSession = [])
    (noCount : host.journal.counts host.nextSession = [])
    (created : create engine state mode workers delivery host = (.returned (), site)) :
    site.passage = { entrances := [], counts := [] } := by
  let start : Site η σ :=
    { host := { host with nextSession := host.nextSession + 1 }
      session :=
        { id := host.nextSession, mode, delivery, pool := poolOf mode workers, engine := state } }
  have unused : start.passage = { entrances := [], counts := [] } :=
    congrArg₂ Passage.mk noEntrance noCount
  have performed := start.passage_perform engine none (.setOutputType mode)
  simp only [create] at created
  split at created
  case h_1 => cases created
  case h_2 status after answered =>
    rw [answered] at performed
    have restricted := passage_restrict engine
      (noteRejection "output mode" [("mode", Log.Value.word mode.text)] status after)
    split at created
    case h_1 => cases created
    case h_2 final finished =>
      cases created
      rw [finished] at restricted
      exact (Site.passage_log ..).trans (restricted.trans
        ((passage_noteRejection ..).trans (performed.trans unused)))

end Session

namespace Scene

open Invocation (delivered)

variable {η σ : Type} {engine : Engine η σ} {site : Site η σ} {schedule : List Move}
  {start finish : Scene η σ}

theorem follow?_queued (fresh : site.Fresh) (queued : site.session.delivery = .queued)
    (followed : (idle site).follow? engine schedule = some finish) :
    finish.session.delivery = .queued ∧ finish.session.returning = [] := by
  have way : finish.session.delivery = .queued :=
    (congrArg Setup.delivery (follow?_setup followed)).trans queued
  exact ⟨way, (follow?_routed fresh followed).returning_eq_nil (.inl way)⟩

/-- What every step of the counter keeps holds of the counter at the end of a part of a run. -/
theorem follow?_counter (fresh : site.Fresh) (queued : site.session.delivery = .queued)
    (earlier : List Move) (begun : (idle site).follow? engine earlier = some start)
    {motive : List Move → Counter → Prop} (begins : motive [] start.counter)
    (keeps : ∀ {schedule : List Move} {move : Move} {counter after : Counter},
      motive schedule counter → counter.Step move after → motive (schedule ++ [move]) after)
    (followed : start.follow? engine schedule = some finish) :
    motive schedule finish.counter := by
  apply follow?_induction (motive := fun schedule scene => motive schedule scene.counter) begins
    _ followed
  intro schedule move scene after before kept moved
  have whole : (idle site).follow? engine (earlier ++ schedule) = some scene := by
    rw [follow?_append, begun]
    exact before
  obtain ⟨way, returning⟩ := follow?_queued fresh queued whole
  exact keeps kept (counter_move? way returning moved)

theorem counter_idle (fresh : site.Fresh)
    (unused : site.passage = { entrances := [], counts := [] }) :
    (idle site).counter =
      counterOf (Ledger.blank (idle site).ledger.setup) { entrances := [], counts := [] } []
        [] := by
  rw [counter, fresh.ledger_idle]
  exact congrArg (counterOf _ · [] []) unused

section

variable (fresh : site.Fresh) (unused : site.passage = { entrances := [], counts := [] })
  (queued : site.session.delivery = .queued)
  (followed : (idle site).follow? engine schedule = some finish)

include fresh unused queued followed

theorem follow?_ordered : finish.counter.Ordered := by
  refine follow?_counter (motive := fun _ counter => counter.Ordered) fresh queued
    [] rfl ?_ (fun ordered step => ordered.step step) followed
  rw [counter_idle fresh unused]
  exact ⟨rfl, fun _ => ⟨rfl, rfl, List.forall_mem_nil _⟩, fun _ => rfl⟩

theorem follow?_counted (calm : ∀ move ∈ schedule, move.givesUp = false) :
    finish.counter.Counted := by
  refine follow?_counter (motive := fun schedule counter =>
    (∀ move ∈ schedule, move.givesUp = false) → counter.Counted) fresh queued
    [] rfl ?_ ?_ followed calm
  · intro _
    rw [counter_idle fresh unused]
    rfl
  · intro schedule move counter after counted step calm
    have before := counted fun other member => calm other (List.mem_append_left _ member)
    exact before.step (calm move (List.mem_append_right _ List.mem_cons_self)) step

theorem follow?_finishes :
    finish.counter.isOpen = true → finish.counter.entrances.length =
      schedule.countP (Move.finishes finish.counter.rejecting) := by
  refine follow?_counter (motive := fun schedule counter => counter.isOpen = true →
    counter.entrances.length = schedule.countP (Move.finishes counter.rejecting)) fresh queued
    [] rfl ?_ ?_ followed
  · intro _
    rw [counter_idle fresh unused]
    rfl
  · intro schedule move counter after counted step isOpen
    rw [step.length_entrances isOpen, counted (step.isOpen_of isOpen), step.rejecting_eq,
      List.countP_append, List.countP_singleton]

/-- Of the units whose completions were invoked, callers ran those that were in the queue. -/
theorem mem_entrances_iff {invocation : Invocation}
    (member : invocation ∈ finish.ledger.invocations) :
    invocation.ticket ∈ finish.counter.entrances ↔ invocation.runner = .caller := by
  have ordered := follow?_ordered fresh unused queued followed
  have conserved := follow?_conserved fresh followed
  have delivered_mem (other : Invocation) : other.ticket ∈ delivered finish.counter.invocations ↔
      ∃ first ∈ finish.ledger.invocations, first.runner = .caller ∧
        first.ticket = other.ticket := by
    simp [delivered, counter, counterOf, and_assoc]
  rw [ordered.order, List.mem_append, List.mem_append, delivered_mem]
  constructor
  · rintro ((⟨first, found, caller, same⟩ | abandoned) | queued)
    · exact List.inj_on_of_nodup_map conserved.nodup_invoked found member same ▸ caller
    · exact absurd abandoned (conserved.not_mem_of_invoked (List.mem_map_of_mem member)).1
    · exact absurd queued (conserved.not_mem_of_invoked (List.mem_map_of_mem member)).2
  · intro caller
    exact .inl (.inl ⟨invocation, member, caller, rfl⟩)

end

theorem follow?_alone (fresh : site.Fresh)
    (unused : site.passage = { entrances := [], counts := [] })
    (queued : site.session.delivery = .queued) {earlier during : List Move}
    {asked : Scene η σ} (begun : (idle site).follow? engine earlier = some asked)
    {base : Counter} (alone : Counter.Alone base asked.counter)
    (quiet : ∀ move ∈ during, move.givesUp = false ∧ move.asksForDelivery = false)
    (followed : asked.follow? engine during = some finish) :
    Counter.Alone base finish.counter := by
  have kept := follow?_counter (motive := fun schedule counter => counter.Ordered ∧
    ((∀ move ∈ schedule, move.givesUp = false ∧ move.asksForDelivery = false) →
      Counter.Alone base counter)) fresh queued _ begun
    ⟨follow?_ordered fresh unused queued begun, fun _ => alone⟩ ?_ followed
  · exact kept.2 quiet
  · rintro schedule move counter after ⟨ordered, alone⟩ step
    refine ⟨ordered.step step, ?_⟩
    intro quiet
    obtain ⟨calm, unasked⟩ := quiet move (List.mem_append_right _ List.mem_cons_self)
    have before := alone fun other member => quiet other (List.mem_append_left _ member)
    exact before.step ordered calm unasked step

/-- Whoever asks for completions while nobody else does is told how many were run for them. -/
theorem delivery_counted (fresh : site.Fresh)
    (unused : site.passage = { entrances := [], counts := [] })
    (queued : site.session.delivery = .queued) {earlier during : List Move} {position : Nat}
    (begun : (idle site).follow? engine earlier = some start) (noDrain : start.drains = [])
    (quiet : ∀ move ∈ during, move.givesUp = false ∧ move.asksForDelivery = false)
    (followed : start.follow? engine (.beginDelivery :: during ++ [.endDelivery position]) =
      some finish) :
    ∃ own, finish.ledger.invocations = start.ledger.invocations ++ own ∧
      (∀ invocation ∈ own, invocation.runner = .caller) ∧
      finish.site.passage.counts = start.site.passage.counts ++ [own.length] := by
  obtain ⟨done, delivered, ended⟩ := follow?_concat.mp followed
  obtain ⟨asked, moved, delivered⟩ := Option.bind_eq_some_iff.mp delivered
  have asking : (idle site).follow? engine (earlier ++ [.beginDelivery]) = some asked :=
    follow?_concat.mpr ⟨start, begun, moved⟩
  have first : Counter.Alone start.counter asked.counter := by
    cases Moves.of_move? moved with
    | beginDelivery =>
        have only : start.drains ++ [({ } : Drain)] = [{ }] := congrArg (· ++ [{ }]) noDrain
        exact .asked [] only rfl (List.append_nil _).symm (List.forall_mem_nil _) rfl
  have alone := follow?_alone fresh unused queued asking first quiet delivered
  have whole : (idle site).follow? engine (earlier ++ [.beginDelivery] ++ during) = some done := by
    rw [follow?_append, asking]
    exact delivered
  obtain ⟨way, returning⟩ := follow?_queued fresh queued whole
  exact alone.told (counter_move? way returning ended)

/-- In a session with queued delivery units leave the queue in the order in which they entered it.
As long as the session is there, completions are run by callers who asked for them and by nobody
else; each such caller is told how many it ran, and outside such calls the queue only grows, and
what callers were told and what lies in the queue add up to what was finished or rejected. -/
theorem queue_disciplined (fresh : site.Fresh)
    (unused : site.passage = { entrances := [], counts := [] })
    (queued : site.session.delivery = .queued)
    (followed : (idle site).follow? engine schedule = some finish) :
    finish.counter.entrances = delivered finish.ledger.invocations ++ finish.ledger.abandonments ++
      finish.session.queue.map FinishedJob.ticket ∧
    (∀ invocation ∈ finish.ledger.invocations,
      invocation.ticket ∈ finish.counter.entrances ↔ invocation.runner = .caller) ∧
    (finish.session.isOpen = true → finish.running = [] ∧ finish.counter.entrances =
      finish.ledger.invocations.map Invocation.ticket ++
        finish.session.queue.map FinishedJob.ticket) ∧
    (∀ move after, finish.move? engine move = some after → after.session.isOpen = true →
      (after.ledger.invocations = finish.ledger.invocations ∨
        ∃ position invocation, move = .deliverNext position ∧ invocation.runner = .caller ∧
          (∃ drain ∈ finish.drains, drain.running = none) ∧
          finish.session.queue.map FinishedJob.ticket =
            invocation.ticket :: after.session.queue.map FinishedJob.ticket ∧
          after.ledger.invocations = finish.ledger.invocations ++ [invocation]) ∧
      (finish.drains = [] → finish.session.queue.map FinishedJob.ticket <+:
        after.session.queue.map FinishedJob.ticket)) ∧
    ((∀ move ∈ schedule, move.givesUp = false) →
      (finish.session.isOpen = true → finish.drains = [] →
        finish.counter.counts.sum + finish.session.queue.length =
            schedule.countP (Move.finishes finish.counter.rejecting) ∧
          finish.counter.entrances.length =
            schedule.countP (Move.finishes finish.counter.rejecting)) ∧
      ∀ earlier during position start,
        schedule = earlier ++ .beginDelivery :: during ++ [.endDelivery position] →
        (idle site).follow? engine earlier = some start → start.drains = [] →
        (∀ move ∈ during, move.asksForDelivery = false) →
          ∃ own, finish.ledger.invocations = start.ledger.invocations ++ own ∧
            (∀ invocation ∈ own, invocation.runner = .caller) ∧
            finish.counter.counts = start.counter.counts ++ [own.length]) ∧
    ∀ value after, (finish.site.deliverCompletions = (.returned value, after) ∨
      finish.site.deliverCompletionsTimeout = (.returned value, after)) →
        ∃ own, after.told = (finish.site.told.1 ++ own, finish.site.told.2 ++ [value]) ∧
          (∀ invocation ∈ own, invocation.runner = .caller) ∧ value = own.length := by
  have ordered := follow?_ordered fresh unused queued followed
  obtain ⟨way, returning⟩ := follow?_queued fresh queued followed
  refine ⟨ordered.order, ?_, ?_, ?_, ?_, fun _ _ done => Site.told_deliverCompletions done⟩
  · intro invocation member
    exact mem_entrances_iff fresh unused queued followed member
  · intro isOpen
    obtain ⟨kept, resting, callers⟩ := ordered.alive isOpen
    refine ⟨resting, ordered.order.trans ?_⟩
    rw [kept, List.append_nil, Invocation.delivered_of_callers callers]
    rfl
  · intro move after moved isOpen
    have step := counter_move? way returning moved
    exact ⟨step.invocations_eq isOpen, step.queue_prefix isOpen⟩
  · intro calm
    constructor
    · intro isOpen noDrain
      have finished := follow?_finishes fresh unused queued followed isOpen
      have counted := follow?_counted fresh unused queued followed calm
      have entered := ordered.length_entrances counted isOpen noDrain
      have length : finish.counter.queue.length = finish.session.queue.length := List.length_map ..
      exact ⟨by rw [← length, ← entered, finished], finished⟩
    · intro earlier during position start split begun noDrain alone
      subst split
      have continued : start.follow? engine (.beginDelivery :: during ++ [.endDelivery position]) =
          some finish := by
        rw [List.append_assoc, follow?_append, begun] at followed
        exact followed
      refine delivery_counted fresh unused queued begun noDrain ?_ continued
      intro move member
      refine ⟨calm move ?_, alone move member⟩
      simp [member]

theorem queue_disciplined_sample :
    (Site.sample .execute .queued).Fresh ∧
    (Site.sample .execute .queued).passage = { entrances := [], counts := [] } ∧
    (Site.sample .execute .queued).session.delivery = .queued ∧
    ∃ finish, (idle (Site.sample .execute .queued)).follow? Engine.content
        [.submit "first" (.callback [("third", .future)] false), .submit "second" .future,
          .takeUp 0, .compile, .finish 0,
          .beginDelivery, .deliverNext 0, .submit "third" .future, .takeUp 0, .compile, .finish 0,
          .completeDelivery 0 false, .deliverNext 0, .endDelivery 0,
          .takeUp 0, .compile, .finish 0,
          .beginDelivery, .deliverNext 0, .endDelivery 0] = some finish ∧
      finish.counter.counts = [2, 1] ∧
      finish.counter.entrances = finish.ledger.invocations.map Invocation.ticket ++
        finish.session.queue.map FinishedJob.ticket ∧
      finish.counter.counts.sum + finish.session.queue.length = 3 := by
  have fresh : (Site.sample .execute .queued).Fresh := ⟨rfl, rfl, rfl⟩
  have followed : (idle (Site.sample .execute .queued)).follow? Engine.content
      [.submit "first" (.callback [("third", .future)] false), .submit "second" .future,
        .takeUp 0, .compile, .finish 0,
        .beginDelivery, .deliverNext 0, .submit "third" .future, .takeUp 0, .compile, .finish 0,
        .completeDelivery 0 false, .deliverNext 0, .endDelivery 0,
        .takeUp 0, .compile, .finish 0,
        .beginDelivery, .deliverNext 0, .endDelivery 0] = some _ := rfl
  obtain ⟨-, -, alive, -, counted, -⟩ := queue_disciplined fresh rfl rfl followed
  obtain ⟨total, -⟩ := counted (by decide)
  exact ⟨fresh, rfl, rfl, _, followed, rfl, (alive rfl).2, (total rfl rfl).1⟩

end Scene

end CompileSession
