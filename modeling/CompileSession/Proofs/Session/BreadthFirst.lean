import CompileSession.Proofs.Session.Delivering

/-!
# Breadth first

A session that rejects what is submitted and queues what is finished lets the queue grow while
completions are delivered.  Units form a forest then, of which the queue is a part: those that were
in it come first, then what their completions submitted, and so on, until nothing is left.
-/

namespace CompileSession

variable {η σ : Type}

mutual

/-- Whether a completion does not give up, nor any that comes from its resubmissions. -/
def Completion.isCalm : Completion → Bool
  | .future => true
  | .callback resubmissions panics => !panics && Completion.areCalm resubmissions

/-- Whether no completion gives up that comes from some resubmissions. -/
def Completion.areCalm : List (String × Completion) → Bool
  | [] => true
  | (_, completion) :: rest => completion.isCalm && Completion.areCalm rest

end

namespace Completion

theorem areCalm_eq_true {units : List (String × Completion)} :
    areCalm units = true ↔ ∀ unit ∈ units, unit.2.isCalm = true := by
  induction units with
  | nil => simp [areCalm]
  | cons unit rest ih => simp [areCalm, ih]

theorem givesUp_of_isCalm {completion : Completion} (calm : completion.isCalm = true) :
    completion.givesUp = false := by
  cases completion with
  | future => rfl
  | callback resubmissions panics =>
      rw [isCalm, Bool.and_eq_true, Bool.not_eq_true'] at calm
      exact calm.1

theorem isCalm_of_mem_resubmissions {completion : Completion} (calm : completion.isCalm = true) :
    ∀ unit ∈ completion.resubmissions, unit.2.isCalm = true := by
  cases completion with
  | future => exact List.forall_mem_nil _
  | callback resubmissions panics =>
      rw [isCalm, Bool.and_eq_true] at calm
      exact areCalm_eq_true.mp calm.2

/-- A completion stands for its own unit and what comes from its resubmissions. -/
theorem weight_eq (completion : Completion) :
    completion.weight = 1 + weights completion.resubmissions := by
  cases completion with
  | future => rfl
  | callback => rw [weight, Completion.resubmissions]

end Completion

namespace FinishedJob

theorem map_ticket_rejected (error : DispatchError) (ticket : Nat)
    (units : List (String × Completion)) :
    (rejected error ticket units).map FinishedJob.ticket = List.range' ticket units.length := by
  induction units generalizing ticket with
  | nil => rfl
  | cons unit rest ih => exact congrArg (List.cons ticket) (ih (ticket + 1))

theorem load_rejected (error : DispatchError) (ticket : Nat) (units : List (String × Completion)) :
    load (rejected error ticket units) = Completion.weights units := by
  induction units generalizing ticket with
  | nil => rfl
  | cons unit rest ih => exact congrArg (unit.2.weight + ·) (ih (ticket + 1))

theorem completion_of_mem_rejected {error : DispatchError} {ticket : Nat}
    {units : List (String × Completion)} {finished : FinishedJob}
    (member : finished ∈ rejected error ticket units) :
    ∃ unit ∈ units, finished.job.completion = unit.2 := by
  induction units generalizing ticket with
  | nil => cases member
  | cons unit rest ih =>
      rcases List.mem_cons.mp member with rfl | later
      · exact ⟨unit, List.mem_cons_self, rfl⟩
      · obtain ⟨other, found, same⟩ := ih later
        exact ⟨other, List.mem_cons_of_mem _ found, same⟩

/-- What the completions of some units submit, in order. -/
def offspring (units : List FinishedJob) : List (String × Completion) :=
  units.flatMap resubmissions

/-- Units stand for themselves and for what comes from their resubmissions. -/
theorem load_eq (units : List FinishedJob) :
    load units = units.length + Completion.weights (offspring units) := by
  induction units with
  | nil => rfl
  | cons finished rest ih =>
      have own := finished.job.completion.weight_eq
      have split : offspring (finished :: rest) = finished.resubmissions ++ offspring rest := rfl
      rw [load_cons, ih, own, split, Completion.weights_append, List.length_cons, resubmissions]
      omega

/-- All that comes from some units: they themselves, then what their completions submit, which is
rejected, and so on.  The next unit to be submitted has the given ticket. -/
def breadthFirst (error : DispatchError) (ticket : Nat) (units : List FinishedJob) :
    List FinishedJob :=
  if units = [] then []
  else units ++ breadthFirst error (ticket + (offspring units).length)
    (rejected error ticket (offspring units))
termination_by load units
decreasing_by
  have filled := List.length_pos_iff.mpr ‹_›
  rw [load_rejected, load_eq units]
  omega

theorem length_breadthFirst (error : DispatchError) (ticket : Nat) (units : List FinishedJob) :
    (breadthFirst error ticket units).length = load units := by
  fun_induction breadthFirst error ticket units with
  | case1 => rfl
  | case2 ticket units filled ih => rw [List.length_append, ih, load_rejected, load_eq]

/-- What comes from some units has tickets that follow on each other. -/
theorem map_ticket_breadthFirst (error : DispatchError) (ticket : Nat) (units : List FinishedJob) :
    (breadthFirst error ticket units).map FinishedJob.ticket =
      units.map FinishedJob.ticket ++ List.range' ticket (load units - units.length) := by
  fun_induction breadthFirst error ticket units with
  | case1 => rfl
  | case2 ticket units filled ih =>
      have total : load units - units.length = (offspring units).length +
          (load (rejected error ticket (offspring units)) - (offspring units).length) := by
        have more := length_le_load (rejected error ticket (offspring units))
        rw [length_rejected, load_rejected] at more
        rw [load_rejected, load_eq units]
        omega
      rw [List.map_append, ih, map_ticket_rejected, length_rejected, total]
      exact congrArg _ (List.range'_append_1 ..)

end FinishedJob

namespace Site

/-- A generation of units is delivered, and the next one comes in behind what else is in the queue.
-/
theorem delivers_generation {site : Site η σ} {units later : List FinishedJob}
    (isOpen : site.session.isOpen = true) (filled : site.session.queue = units ++ later)
    (calm : ∀ unit ∈ units, unit.givesUp = false) :
    ∃ after, site.Delivers units after ∧
      after.outlet = Outlet.receive (FinishedJob.offspring units)
        { site.outlet with
          queue := later
          invocations := site.outlet.invocations ++ units.map (·.invocation .caller) } := by
  induction units generalizing site later with
  | nil =>
      refine ⟨site, .none site, ?_⟩
      have same : site.outlet.queue = later := filled
      subst same
      simp only [FinishedJob.offspring, List.flatMap_nil, List.map_nil, List.append_nil]
      exact (Outlet.receive_nil _).symm
  | cons finished rest ih =>
      have taken := takeQueued?_eq_some_iff.mpr ⟨rest ++ later, filled, rfl⟩
      generalize ({ site with session := { site.session with queue := rest ++ later } } :
        Site η σ) = taking at taken
      obtain ⟨queue, front, delivered⟩ := outlet_deliverNext taken
      obtain rfl : rest ++ later = queue := List.tail_eq_of_cons_eq (filled.symm.trans front)
      have alive : site.outlet.isOpen = true := isOpen
      rw [Outlet.deliver, if_pos alive] at delivered
      obtain ⟨after, delivers, outlet⟩ := @ih (taking.invoke .caller finished).2
        (later ++ site.outlet.entering finished.resubmissions)
        ((congrArg Outlet.isOpen delivered).trans isOpen)
        ((congrArg Outlet.queue delivered).trans (List.append_assoc ..))
        (fun unit member => calm unit (List.mem_cons_of_mem _ member))
      refine ⟨after, .next taken (calm finished List.mem_cons_self) delivers, ?_⟩
      rw [outlet, delivered]
      have split : FinishedJob.offspring (finished :: rest) =
        finished.resubmissions ++ FinishedJob.offspring rest := rfl
      rw [split, Outlet.receive_append]
      simp only [Outlet.receive, List.map_cons, List.append_assoc, List.cons_append,
        List.nil_append]
      rfl

/-- Generation after generation is delivered, until one of them submits nothing. -/
theorem delivers_breadthFirst {site : Site η σ} {error : DispatchError}
    {units : List FinishedJob} {ticket : Nat} (filled : site.session.queue = units)
    (numbered : site.session.submitted = ticket)
    (rejected : site.outlet.setup.rejection? = some error)
    (queued : site.session.delivery = .queued) (isOpen : site.session.isOpen = true)
    (calm : ∀ unit ∈ units, unit.job.completion.isCalm = true) :
    ∃ after, site.Delivers (FinishedJob.breadthFirst error ticket units) after ∧
      after.session.queue = [] ∧ after.session.submitted =
        ticket + (FinishedJob.load units - units.length) := by
  fun_induction FinishedJob.breadthFirst error ticket units generalizing site with
  | case1 => exact ⟨site, .none site, filled, numbered⟩
  | case2 ticket units some ih =>
      obtain ⟨middle, delivers, outlet⟩ := delivers_generation isOpen
        (filled.trans (List.append_nil _).symm)
        (fun unit member => Completion.givesUp_of_isCalm (calm unit member))
      have next : middle.session.queue =
          FinishedJob.rejected error ticket (FinishedJob.offspring units) := by
        have way : site.outlet.setup.delivery = .queued := queued
        refine (congrArg Outlet.queue outlet).trans ?_
        simp only [Outlet.receive, Outlet.entering, rejected, way, List.nil_append]
        rw [← numbered]
        rfl
      obtain ⟨after, others, empty, submitted⟩ := ih next
        ((congrArg Outlet.submitted outlet).trans (congrArg (· + _) numbered))
        ((congrArg (fun outlet => outlet.setup.rejection?) outlet).trans rejected)
        ((congrArg (fun outlet => outlet.setup.delivery) outlet).trans queued)
        ((congrArg Outlet.isOpen outlet).trans isOpen) (by
          intro finished member
          obtain ⟨unit, found, same⟩ := FinishedJob.completion_of_mem_rejected member
          obtain ⟨parent, old, submits⟩ := List.mem_flatMap.mp found
          rw [same]
          exact Completion.isCalm_of_mem_resubmissions (calm parent old) unit submits)
      refine ⟨after, delivers.trans others, empty, ?_⟩
      have more := FinishedJob.length_le_load
        (FinishedJob.rejected error ticket (FinishedJob.offspring units))
      rw [FinishedJob.length_rejected, FinishedJob.load_rejected] at more submitted
      rw [submitted, FinishedJob.load_eq units]
      omega

/-- A session that cannot run anything, and queues what is finished, delivers what is in its queue
and all that comes from it: each unit once and breadth first, until nothing is left.  A caller who
would wait for the first completion sees no difference, unless there is none.  No completion is
invoked by the code that submits a unit. -/
theorem inspect_delivers_breadthFirst (site : Site η σ) (inspect : site.session.mode = .inspect)
    (queued : site.session.delivery = .queued) (isOpen : site.session.isOpen = true)
    (calm : ∀ unit ∈ site.session.queue, unit.job.completion.isCalm = true) :
    (∃ due after,
      due = FinishedJob.breadthFirst .inspectOnly site.session.submitted site.session.queue ∧
      site.deliverCompletions = (.returned due.length, after.endDelivery due.length) ∧
      site.Delivers due after ∧ after.session.queue = [] ∧
      after.outlet.invocations = site.outlet.invocations ++ due.map (·.invocation .caller) ∧
      due.length = FinishedJob.load site.session.queue ∧
      due.map FinishedJob.ticket = site.session.queue.map FinishedJob.ticket ++
        List.range' site.session.submitted (due.length - site.session.queue.length) ∧
      after.session.submitted =
        site.session.submitted + (due.length - site.session.queue.length)) ∧
    (site.session.queue ≠ [] → site.deliverCompletionsTimeout = site.deliverCompletions) ∧
    (site.session.queue = [] →
      site.deliverCompletionsTimeout = (.returned 0, site.endDelivery 0) ∧
      (site.endDelivery 0).session = site.session ∧ (site.endDelivery 0).outlet = site.outlet) ∧
    ∀ runner source completion,
      (site.submit runner source completion).outlet = { site.outlet with
        submitted := site.session.submitted + 1
        queue := site.session.queue ++
          [{ job := { ticket := site.session.submitted, source, completion }
             error := some .inspectOnly }]
        entrances := site.outlet.entrances ++ [site.session.submitted] } := by
  have rejected : site.outlet.setup.rejection? = some .inspectOnly := by
    have mode : site.outlet.setup.mode = .inspect := inspect
    simp [Setup.rejection?, mode, OutputMode.canRun]
  have way : site.outlet.setup.delivery = .queued := queued
  refine ⟨?_, fun _ => site.deliverCompletionsTimeout_eq, ?_, ?_⟩
  · obtain ⟨after, delivers, empty, submitted⟩ :=
      delivers_breadthFirst rfl rfl rejected queued isOpen calm
    obtain ⟨entered, passes⟩ := delivers.passes
    have counted := delivers.deliverRest_eq empty (FinishedJob.load site.session.queue) 0
      (Nat.le_refl _)
    rw [Nat.zero_add] at counted
    refine ⟨_, after, rfl, counted, delivers, empty, passes.invocations, ?_, ?_, ?_⟩
    · exact FinishedJob.length_breadthFirst ..
    · rw [FinishedJob.length_breadthFirst, FinishedJob.map_ticket_breadthFirst]
    · rw [FinishedJob.length_breadthFirst, submitted]
  · intro empty
    refine ⟨?_, rfl, outlet_endDelivery ..⟩
    rw [deliverCompletionsTimeout_eq]
    exact deliverRest_of_empty empty _ _
  · intro runner source completion
    rw [outlet_submit]
    simp only [Outlet.receive, Outlet.entering, rejected, way]
    rfl

theorem inspect_delivers_breadthFirst_sample :
    ∃ site : Site Unit Unit,
      site = ((sample .inspect .queued).submit .caller "first" (.callback
        [("third", .callback [("fifth", .future)] false), ("fourth", .future)] false)).submit
          .caller "second" .future ∧
      site.session.mode = .inspect ∧ site.session.delivery = .queued ∧
      site.session.isOpen = true ∧
      (∀ unit ∈ site.session.queue, unit.job.completion.isCalm = true) ∧
      ∃ due after, site.deliverCompletions = (.returned 5, after.endDelivery 5) ∧
        site.Delivers due after ∧ after.session.queue = [] ∧
        due.map FinishedJob.ticket = [0, 1, 2, 3, 4] := by
  refine ⟨_, rfl, rfl, rfl, rfl, ?_⟩
  generalize made : ((sample .inspect .queued).submit .caller "first" (.callback
    [("third", .callback [("fifth", .future)] false), ("fourth", .future)] false)).submit
      .caller "second" .future = site
  have calm : ∀ unit ∈ site.session.queue, unit.job.completion.isCalm = true := by
    subst made
    exact List.forall_mem_cons.mpr ⟨rfl, List.forall_mem_cons.mpr ⟨rfl, List.forall_mem_nil _⟩⟩
  have five : FinishedJob.load site.session.queue = 5 := by
    subst made
    rfl
  obtain ⟨⟨due, after, -, counted, delivers, empty, -, length, tickets, -⟩, -⟩ :=
    site.inspect_delivers_breadthFirst (by rw [← made]; rfl) (by rw [← made]; rfl)
      (by rw [← made]; rfl) calm
  rw [length, five] at counted tickets
  refine ⟨calm, due, after, counted, delivers, empty, ?_⟩
  rw [tickets]
  subst made
  rfl

end Site

end CompileSession
