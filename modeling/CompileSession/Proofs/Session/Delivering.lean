import CompileSession.Proofs.Session.Counter
import CompileSession.Proofs.Session.Execution

/-!
# Delivering what is in the queue

A caller who asks for completions takes one unit after the other out of the queue, until none is
left or a completion gives up.  `Site.Ends` says this without a budget, and
`Site.deliverCompletions_ends` that it is what is done.  An outlet is the part of a site that has to
do with it; what a completion submits while it is delivered comes in at the end of the queue, if the
session rejects it.
-/

namespace CompileSession

variable {η σ : Type}

namespace Completion

/-- What a completion submits. -/
def resubmissions : Completion → List (String × Completion)
  | .future => []
  | .callback resubmissions _ => resubmissions

/-- Whether a completion gives up at its end. -/
def givesUp : Completion → Bool
  | .future => false
  | .callback _ panics => panics

end Completion

namespace FinishedJob

def givesUp (finished : FinishedJob) : Bool :=
  finished.job.completion.givesUp

def resubmissions (finished : FinishedJob) : List (String × Completion) :=
  finished.job.completion.resubmissions

/-- Units that are rejected as soon as they are submitted, with their tickets. -/
def rejected (error : DispatchError) : (ticket : Nat) → List (String × Completion) →
    List FinishedJob
  | _, [] => []
  | ticket, (source, completion) :: rest =>
    { job := { ticket, source, completion }, error := some error } ::
      rejected error (ticket + 1) rest

@[simp] theorem length_rejected (error : DispatchError) (ticket : Nat)
    (units : List (String × Completion)) : (rejected error ticket units).length = units.length := by
  induction units generalizing ticket with
  | nil => rfl
  | cons unit rest ih => exact congrArg Nat.succ (ih _)

theorem rejected_append (error : DispatchError) (ticket : Nat)
    (first second : List (String × Completion)) :
    rejected error ticket (first ++ second) =
      rejected error ticket first ++ rejected error (ticket + first.length) second := by
  induction first generalizing ticket with
  | nil => rfl
  | cons unit rest ih =>
      rw [List.length_cons, Nat.add_comm rest.length, ← Nat.add_assoc]
      exact congrArg (List.cons _) (ih (ticket + 1))

end FinishedJob

/-- What the delivery of completions has to do with at a site. -/
structure Outlet where
  /-- The session's number. -/
  number : Nat
  setup : Setup
  isOpen : Bool
  submitted : Nat
  queue : List FinishedJob
  /-- The units that entered the queue. -/
  entrances : List Nat
  invocations : List Invocation

namespace Outlet

/-- The units that enter the queue as soon as they are submitted. -/
def entering (units : List (String × Completion)) (outlet : Outlet) : List FinishedJob :=
  match outlet.setup.rejection?, outlet.setup.delivery with
  | some error, .queued => FinishedJob.rejected error outlet.submitted units
  | _, _ => []

/-- Units are submitted. -/
def receive (units : List (String × Completion)) (outlet : Outlet) : Outlet :=
  { outlet with
    submitted := outlet.submitted + units.length
    queue := outlet.queue ++ outlet.entering units
    entrances := outlet.entrances ++ (outlet.entering units).map FinishedJob.ticket }

theorem entering_nil (outlet : Outlet) : outlet.entering [] = [] := by
  unfold entering
  split <;> rfl

theorem receive_nil (outlet : Outlet) : outlet.receive [] = outlet := by
  simp [receive, entering_nil]

theorem entering_append (outlet : Outlet) (first second : List (String × Completion)) :
    outlet.entering (first ++ second) =
      outlet.entering first ++ (outlet.receive first).entering second := by
  simp only [entering, receive]
  split
  · exact FinishedJob.rejected_append ..
  · rfl

theorem receive_append (outlet : Outlet) (first second : List (String × Completion)) :
    outlet.receive (first ++ second) = (outlet.receive first).receive second := by
  rw [receive, entering_append, List.length_append, List.map_append]
  simp only [receive, List.append_assoc, Nat.add_assoc]

/-- A unit leaves the queue, and its completion submits what it has to submit. -/
def deliver (finished : FinishedJob) (rest : List FinishedJob) (outlet : Outlet) : Outlet :=
  receive (if outlet.isOpen then finished.resubmissions else [])
    { outlet with
      queue := rest
      invocations := outlet.invocations ++ [finished.invocation .caller] }

/-- Some units came into the queue at its end, and the completions of others were invoked by callers
as those left it at its front. -/
structure Passes (before after : Outlet) (left entered : List FinishedJob) : Prop where
  invocations : after.invocations = before.invocations ++ left.map (·.invocation .caller)
  entrances : after.entrances = before.entrances ++ entered.map FinishedJob.ticket
  queue : before.queue ++ entered = left ++ after.queue

namespace Passes

variable {before middle after : Outlet} {left entered more others : List FinishedJob}

theorem refl (outlet : Outlet) : Passes outlet outlet [] [] where
  invocations := (List.append_nil _).symm
  entrances := (List.append_nil _).symm
  queue := List.append_nil _

theorem trans (first : Passes before middle left entered)
    (second : Passes middle after more others) :
    Passes before after (left ++ more) (entered ++ others) where
  invocations := by
    rw [second.invocations, first.invocations, List.append_assoc, List.map_append]
  entrances := by
    rw [second.entrances, first.entrances, List.append_assoc, List.map_append]
  queue := by
    rw [← List.append_assoc, first.queue, List.append_assoc, second.queue, List.append_assoc]

end Passes

/-- What is delivered leaves the queue; what it submits may come in. -/
theorem passes_deliver {outlet : Outlet} {finished : FinishedJob} {rest : List FinishedJob}
    (queue : outlet.queue = finished :: rest) :
    Passes outlet (outlet.deliver finished rest) [finished]
      (outlet.entering (if outlet.isOpen then finished.resubmissions else [])) where
  invocations := rfl
  entrances := rfl
  queue := by
    rw [queue]
    rfl

end Outlet

namespace Site

/-- The outlet of a ledger and what passed through the queue. -/
def outletOf (number : Nat) (ledger : Ledger) (passage : Passage) : Outlet where
  number
  setup := ledger.setup
  isOpen := ledger.isOpen
  submitted := ledger.submitted
  queue := ledger.queue
  entrances := passage.entrances
  invocations := ledger.invocations

/-- What the delivery of completions has to do with at a site. -/
def outlet (site : Site η σ) : Outlet :=
  outletOf site.session.id (site.ledger []) site.passage

section Submissions

variable (site : Site η σ)

theorem outlet_log (level : Log.Level) (message : String) (fields : List (String × Log.Value)) :
    (site.log level message fields).outlet = site.outlet := by
  simp only [outlet, ledger_log, passage_log, session_log]

theorem outlet_register (completion : Completion) :
    (site.register completion).outlet =
      { site.outlet with submitted := site.session.submitted + 1 } := by
  simp only [outlet, ledger_register, passage_register]
  rfl

theorem outlet_dispatch (runner : Runner) (job : Job) :
    (site.dispatch runner job).outlet = site.outlet := by
  obtain ⟨waiting, -, dispatched⟩ := ledger_dispatch site [] runner job
  have passage : (site.dispatch runner job).passage = site.passage := passage_log ..
  simp only [outlet, dispatched, passage]
  rfl

/-- A rejected unit comes into the queue if completions are queued. -/
theorem outlet_reject (error : DispatchError) (job : Job) :
    (site.reject error job).outlet =
      match site.session.delivery with
      | .queued => { site.outlet with
          queue := site.outlet.queue ++ [{ job, error := some error }]
          entrances := site.outlet.entrances ++ [job.ticket] }
      | .worker => site.outlet := by
  cases way : site.session.delivery with
  | queued =>
      have logged := site.outlet_log .debug
        (site.idText ++ ": rejecting async compile: " ++ error.message) []
      simp only [reject, session_log, way, outlet, ledger_enqueue, passage_enqueue] at logged ⊢
      simp only [ledger_log, passage_log]
      rfl
  | worker =>
      have passage : (site.reject error job).passage = site.passage := by
        simp only [reject, session_log, way]
        exact passage_log ..
      have number : (site.reject error job).session.id = site.session.id := by
        simp only [reject, session_log, way]
      simp only [outlet, ledger_rejectAway _ _ _ _ way, passage, number]
      rfl

theorem outlet_submit (runner : Runner) (source : String) (completion : Completion) :
    (site.submit runner source completion).outlet =
      site.outlet.receive [(source, completion)] := by
  have registered := site.outlet_register completion
  have mode : (site.register completion).session.mode = site.session.mode := rfl
  have pool : (site.register completion).session.pool = site.session.pool := rfl
  have delivery : (site.register completion).session.delivery = site.session.delivery := rfl
  have rejects (error : DispatchError) (job : Job)
      (numbered : job = { ticket := site.session.submitted, source, completion })
      (rejected : site.outlet.setup.rejection? = some error) :
      ((site.register completion).reject error job).outlet =
        site.outlet.receive [(source, completion)] := by
    subst numbered
    rw [outlet_reject, registered, delivery]
    cases way : site.session.delivery with
    | queued =>
        have queued : site.outlet.setup.delivery = .queued := way
        simp only [Outlet.receive, Outlet.entering, rejected, queued]
        rfl
    | worker =>
        have worker : site.outlet.setup.delivery = .worker := way
        simp only [Outlet.receive, Outlet.entering, rejected, worker, List.append_nil, List.map_nil]
        rfl
  simp only [submit, mode, pool]
  by_cases runs : site.session.mode.canRun = true
  · rw [if_pos runs]
    cases built : site.session.pool with
    | ok count =>
        have accepted : site.outlet.setup.rejection? = none := by
          simp [Setup.rejection?, outlet, outletOf, ledger, runs, built]
        simp only [outlet_dispatch, registered, Outlet.receive, Outlet.entering, accepted,
          List.append_nil, List.map_nil]
        rfl
    | error reason =>
        exact rejects _ _ rfl (by simp [Setup.rejection?, outlet, outletOf, ledger, runs, built])
  · rw [if_neg runs]
    exact rejects _ _ rfl (by simp [Setup.rejection?, outlet, outletOf, ledger, runs])

theorem outlet_submitAll (runner : Runner) (units : List (String × Completion)) :
    (site.submitAll runner units).outlet = site.outlet.receive units := by
  induction units generalizing site with
  | nil => exact (Outlet.receive_nil _).symm
  | cons unit rest ih =>
      refine (ih _).trans ?_
      rw [outlet_submit]
      exact (Outlet.receive_append _ [unit] rest).symm

end Submissions

section Invocations

variable (site : Site η σ) (runner : Runner) (finished : FinishedJob)

theorem outlet_start :
    (site.start runner finished).outlet =
      { site.outlet with
        invocations := site.outlet.invocations ++ [finished.invocation runner] } := by
  have number : (site.start runner finished).session.id = site.session.id := by
    unfold start
    split <;> rfl
  simp only [outlet, ledger_start, passage_start, number]
  rfl

/-- A completion is told what became of its unit and submits what it has to submit; then it returns
or gives up. -/
theorem invoke_eq :
    site.invoke runner finished =
      (if finished.givesUp then .panicked (.completion site.session.id finished.ticket)
        else .returned (),
        (site.start runner finished).submitAll runner
          (if site.session.isOpen then finished.resubmissions else [])) := by
  have begun : (site.start runner finished).session.isOpen = site.session.isOpen :=
    congrArg Outlet.isOpen (site.outlet_start runner finished)
  have number (units : List (String × Completion)) :
      ((site.start runner finished).submitAll runner units).session.id = site.session.id := by
    have submitted := congrArg Outlet.number (outlet_submitAll (site.start runner finished)
      runner units)
    exact submitted.trans (congrArg Outlet.number (site.outlet_start runner finished))
  obtain ⟨⟨ticket, source, result, completion⟩, error⟩ := finished
  cases completion with
  | future =>
      simp only [invoke, FinishedJob.resubmissions, Completion.resubmissions, ite_self]
      rfl
  | callback resubmissions panics =>
      simp only [invoke, begun, FinishedJob.givesUp, Completion.givesUp,
        FinishedJob.resubmissions, Completion.resubmissions]
      cases site.session.isOpen with
      | true => cases panics <;> simp [number]
      | false => cases panics <;> simp [← number [], submitAll]

theorem outlet_invoke :
    (site.invoke runner finished).2.outlet =
      Outlet.receive (if site.session.isOpen then finished.resubmissions else [])
        { site.outlet with
          invocations := site.outlet.invocations ++ [finished.invocation runner] } := by
  rw [invoke_eq]
  exact (outlet_submitAll ..).trans (congrArg _ (outlet_start ..))

end Invocations

theorem takeQueued?_eq_some_iff {site rest : Site η σ} {finished : FinishedJob} :
    site.takeQueued? = some (finished, rest) ↔ ∃ queue, site.session.queue = finished :: queue ∧
      rest = { site with session := { site.session with queue } } := by
  unfold takeQueued?
  cases site.session.queue with
  | nil => simp
  | cons first queue => simp [eq_comm]

theorem deliverNext?_of_taken {site rest : Site η σ} {finished : FinishedJob}
    (taken : site.takeQueued? = some (finished, rest)) :
    site.deliverNext? =
      some (if finished.givesUp then .panicked (.completion site.session.id finished.ticket)
        else .returned (), (rest.invoke .caller finished).2) := by
  rw [deliverNext?, taken, Option.map_some]
  obtain ⟨queue, -, rfl⟩ := takeQueued?_eq_some_iff.mp taken
  simp only [invoke_eq]

/-- The first unit of the queue is delivered. -/
theorem outlet_deliverNext {site rest : Site η σ} {finished : FinishedJob}
    (taken : site.takeQueued? = some (finished, rest)) :
    ∃ queue, site.session.queue = finished :: queue ∧
      (rest.invoke .caller finished).2.outlet = site.outlet.deliver finished queue := by
  obtain ⟨queue, filled, rfl⟩ := takeQueued?_eq_some_iff.mp taken
  exact ⟨queue, filled, outlet_invoke ..⟩

/-- The completions of some units are delivered to a caller one after the other, and all of them
return. -/
inductive Delivers : Site η σ → List FinishedJob → Site η σ → Prop where
  | none (site : Site η σ) : Delivers site [] site
  | next {site rest after : Site η σ} {finished : FinishedJob} {units : List FinishedJob} :
      site.takeQueued? = some (finished, rest) → finished.givesUp = false →
      Delivers (rest.invoke .caller finished).2 units after →
      Delivers site (finished :: units) after

/-- How the delivery of completions ends for a caller who has had `count` of them before, and whose
completions were invoked. -/
inductive Ends (site : Site η σ) (count : Nat) :
    List FinishedJob → Reply Nat × Site η σ → Prop where
  | returned {units : List FinishedJob} {after : Site η σ} :
      Delivers site units after → after.session.queue = [] →
      Ends site count units
        (.returned (count + units.length), after.endDelivery (count + units.length))
  | gaveUp {units : List FinishedJob} {middle rest : Site η σ} {finished : FinishedJob} :
      Delivers site units middle → middle.takeQueued? = some (finished, rest) →
      finished.givesUp = true →
      Ends site count (units ++ [finished])
        (.panicked (.completion site.session.id finished.ticket),
          (rest.invoke .caller finished).2)

theorem Delivers.trans {site middle after : Site η σ} {first second : List FinishedJob}
    (delivers : site.Delivers first middle) (others : middle.Delivers second after) :
    site.Delivers (first ++ second) after := by
  induction delivers with
  | none => exact others
  | next taken calm _ ih => exact .next taken calm (ih others)

/-- Units pass through the queue while completions are delivered. -/
theorem Delivers.passes {site after : Site η σ} {units : List FinishedJob}
    (delivers : site.Delivers units after) :
    ∃ entered, site.outlet.Passes after.outlet units entered := by
  induction delivers with
  | none site => exact ⟨[], .refl _⟩
  | next taken _ _ ih =>
      obtain ⟨entered, others⟩ := ih
      obtain ⟨queue, filled, delivered⟩ := outlet_deliverNext taken
      rw [delivered] at others
      exact ⟨_, (Outlet.passes_deliver filled).trans others⟩

theorem Delivers.number_eq {site after : Site η σ} {units : List FinishedJob}
    (delivers : site.Delivers units after) : after.session.id = site.session.id := by
  induction delivers with
  | none => rfl
  | next taken _ _ ih =>
      obtain ⟨queue, -, delivered⟩ := outlet_deliverNext taken
      exact ih.trans (congrArg Outlet.number delivered)

theorem Delivers.calm {site after : Site η σ} {units : List FinishedJob}
    (delivers : site.Delivers units after) : ∀ unit ∈ units, unit.givesUp = false := by
  induction delivers with
  | none => exact List.forall_mem_nil _
  | next _ calm _ ih => exact List.forall_mem_cons.mpr ⟨calm, ih⟩

theorem outlet_endDelivery (site : Site η σ) (count : Nat) :
    (site.endDelivery count).outlet = site.outlet := by
  simp only [outlet, ledger_endDelivery, passage_endDelivery]
  rfl

/-- Whichever way the delivery of completions ends, nothing else was taken from the queue. -/
theorem Ends.passes {site : Site η σ} {count : Nat} {units : List FinishedJob}
    {ended : Reply Nat × Site η σ} (ends : site.Ends count units ended) :
    ∃ entered, site.outlet.Passes ended.2.outlet units entered := by
  cases ends with
  | returned delivers empty =>
      rw [outlet_endDelivery]
      exact delivers.passes
  | gaveUp delivers taken panics =>
      obtain ⟨entered, before⟩ := delivers.passes
      obtain ⟨queue, filled, delivered⟩ := outlet_deliverNext taken
      rw [delivered]
      exact ⟨_, before.trans (Outlet.passes_deliver filled)⟩

/-- What the delivery of completions ends with for a caller: it is told how many completions were
invoked, all of which have returned, and the queue is empty; or the last one that was invoked has
given up, and the caller with it. -/
theorem Ends.cases {site : Site η σ} {units : List FinishedJob} {ended : Reply Nat × Site η σ}
    (ends : site.Ends 0 units ended) :
    ((∀ unit ∈ units, unit.givesUp = false) ∧ ended.1 = .returned units.length ∧
        ended.2.session.queue = []) ∨
      ∃ before last, units = before ++ [last] ∧ (∀ unit ∈ before, unit.givesUp = false) ∧
        last.givesUp = true ∧ ended.1 = .panicked (.completion site.session.id last.ticket) := by
  cases ends with
  | returned delivers empty =>
      rw [Nat.zero_add]
      exact .inl ⟨delivers.calm, rfl, empty⟩
  | gaveUp delivers _ panics => exact .inr ⟨_, _, rfl, delivers.calm, panics, rfl⟩

/-- A completion that returns is followed by all others. -/
theorem Ends.next {site rest : Site η σ} {count : Nat} {finished : FinishedJob}
    {units : List FinishedJob} {ended : Reply Nat × Site η σ}
    (taken : site.takeQueued? = some (finished, rest)) (calm : finished.givesUp = false)
    (ends : (rest.invoke .caller finished).2.Ends (count + 1) units ended) :
    site.Ends count (finished :: units) ended := by
  have number : (rest.invoke .caller finished).2.session.id = site.session.id :=
    (Delivers.next taken calm (.none _)).number_eq
  cases ends with
  | @returned units after delivers empty =>
      have total : count + 1 + units.length = count + (finished :: units).length := by
        rw [List.length_cons]
        omega
      rw [total]
      exact .returned (.next taken calm delivers) empty
  | gaveUp delivers found panics =>
      rw [number, ← List.cons_append]
      exact .gaveUp (.next taken calm delivers) found panics

variable (site : Site η σ)

theorem deliverRest_of_empty {site : Site η σ} (empty : site.session.queue = [])
    (budget count : Nat) :
    site.deliverRest budget count = (.returned count, site.endDelivery count) := by
  have nothing : site.deliverNext? = none := by simp [deliverNext?, takeQueued?, empty]
  cases budget with
  | zero => rfl
  | succ budget => rw [deliverRest, nothing]

/-- A budget of the queue's load is never used up: the delivery of completions ends because the
queue is empty, or because a completion gives up. -/
theorem deliverRest_ends (budget count : Nat)
    (enough : FinishedJob.load site.session.queue ≤ budget) :
    ∃ units, site.Ends count units (site.deliverRest budget count) := by
  induction budget generalizing site count with
  | zero =>
      have few := FinishedJob.length_le_load site.session.queue
      have empty : site.session.queue = [] := List.eq_nil_of_length_eq_zero (by omega)
      exact ⟨[], .returned (.none site) empty⟩
  | succ budget ih =>
      cases queue : site.session.queue with
      | nil =>
          rw [deliverRest_of_empty queue]
          exact ⟨[], .returned (.none site) queue⟩
      | cons finished others =>
          have taken : site.takeQueued? = some (finished,
              { site with session := { site.session with queue := others } }) :=
            takeQueued?_eq_some_iff.mpr ⟨others, queue, rfl⟩
          generalize { site with session := { site.session with queue := others } } = rest at taken
          have next := deliverNext?_of_taken taken
          have less := load_deliverNext? next
          cases panics : finished.givesUp with
          | true =>
              rw [panics, if_pos rfl] at next
              rw [deliverRest, next]
              exact ⟨[finished], .gaveUp (.none site) taken panics⟩
          | false =>
              rw [panics, if_neg Bool.false_ne_true] at next
              obtain ⟨units, ends⟩ := ih (rest.invoke .caller finished).2 (count + 1) (by omega)
              rw [deliverRest, next]
              exact ⟨finished :: units, ends.next taken panics⟩

theorem deliverCompletions_ends : ∃ units, site.Ends 0 units site.deliverCompletions :=
  deliverRest_ends site _ 0 (Nat.le_refl _)

/-- Whoever has emptied the queue is told how many completions that were. -/
theorem Delivers.deliverRest_eq {site after : Site η σ} {units : List FinishedJob}
    (delivers : site.Delivers units after) (empty : after.session.queue = []) (budget count : Nat)
    (enough : FinishedJob.load site.session.queue ≤ budget) :
    site.deliverRest budget count =
      (.returned (count + units.length), after.endDelivery (count + units.length)) := by
  induction delivers generalizing budget count with
  | none site => exact deliverRest_of_empty empty budget count
  | @next site rest after finished units taken calm _ ih =>
      have next := deliverNext?_of_taken taken
      have less := load_deliverNext? next
      obtain ⟨others, rfl⟩ : ∃ others, budget = others + 1 := ⟨budget - 1, by omega⟩
      rw [calm, if_neg Bool.false_ne_true] at next
      rw [deliverRest, next]
      have total : count + (finished :: units).length = count + 1 + units.length := by
        rw [List.length_cons]
        omega
      rw [total]
      exact ih empty others (count + 1) (by omega)

/-- Once a budget is enough, more of it changes nothing. -/
theorem deliverRest_eq (budget more count : Nat)
    (enough : FinishedJob.load site.session.queue ≤ budget)
    (enoughToo : FinishedJob.load site.session.queue ≤ more) :
    site.deliverRest budget count = site.deliverRest more count := by
  induction budget generalizing site more count with
  | zero =>
      have few := FinishedJob.length_le_load site.session.queue
      have empty : site.session.queue = [] := List.eq_nil_of_length_eq_zero (by omega)
      rw [deliverRest_of_empty empty, deliverRest_of_empty empty]
  | succ budget ih =>
      cases next : site.deliverNext? with
      | none =>
          have empty := deliverNext?_eq_none next
          rw [deliverRest_of_empty empty, deliverRest_of_empty empty]
      | some delivered =>
          obtain ⟨reply, after⟩ := delivered
          have less := load_deliverNext? next
          obtain ⟨others, rfl⟩ : ∃ others, more = others + 1 := ⟨more - 1, by omega⟩
          rw [deliverRest, deliverRest, next]
          cases reply with
          | panicked panic => rfl
          | returned => exact ih after others (count + 1) (by omega) (by omega)

/-- Where nothing comes up in the meantime, it makes no difference whether a caller would have
waited for the first completion. -/
theorem deliverCompletionsTimeout_eq :
    site.deliverCompletionsTimeout = site.deliverCompletions := by
  cases next : site.deliverNext? with
  | none =>
      rw [deliverCompletions, deliverRest_of_empty (deliverNext?_eq_none next),
        deliverCompletionsTimeout, next]
  | some delivered =>
      obtain ⟨reply, after⟩ := delivered
      have less := load_deliverNext? next
      obtain ⟨budget, load⟩ : ∃ budget, FinishedJob.load site.session.queue = budget + 1 :=
        ⟨FinishedJob.load site.session.queue - 1, by omega⟩
      rw [deliverCompletions, load, deliverRest, deliverCompletionsTimeout, next]
      cases reply with
      | panicked panic => rfl
      | returned => exact deliverRest_eq after _ _ 1 (Nat.le_refl _) (by omega)

/-- A session in whose queue there are two rejected units, of which the first one's completion gives
up. -/
def sampleQueue : Site Unit Unit :=
  ((sample .inspect .queued).submit .caller "first" (.callback [] true)).submit .caller "second"
    (.callback [] false)

end Site

end CompileSession
