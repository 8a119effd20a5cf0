import CompileSession.Proofs.Session.Conservation

/-!
# What is known about futures

The prospects of a session are the part of it that futures depend on: which units are still to come
to their end, which came to which end, and what the futures hold.  `Scene.prospects_move?` says once
what every move does to them.
-/

namespace CompileSession

namespace Move

/-- The completion of the unit that a move submits, if it submits one. -/
def completion? : Move → Option Completion
  | .submit _ completion | .resubmit _ _ completion => some completion
  | _ => none

/-- The future that a move drops, if it drops one. -/
def dropped? : Move → Option Nat
  | .dropFuture ticket => some ticket
  | _ => none

end Move

/-- What the futures of a session depend on. -/
structure Prospects where
  submitted : Nat
  /-- The units that are still to come to their end, and whether their completions are futures. -/
  due : List (Nat × Bool)
  invocations : List Invocation
  abandonments : List Nat
  /-- What the future of a unit holds, if somebody holds one. -/
  futures : Nat → Option FutureState

namespace Prospects

/-- The futures with one more, if a unit has one. -/
def promise (isFuture : Bool) (ticket : Nat) (futures : Nat → Option FutureState) :
    Nat → Option FutureState :=
  fun other => (futures other).or (if isFuture ∧ ticket = other then some .pending else none)

/-- The futures after those of some units have become ready. -/
def settle (tickets : List Nat) (outcome : CompileOutcome) (futures : Nat → Option FutureState) :
    Nat → Option FutureState :=
  fun other => if other ∈ tickets then (futures other).map fun _ => .ready outcome
    else futures other

/-- The futures without one of them. -/
def drop (ticket : Nat) (futures : Nat → Option FutureState) : Nat → Option FutureState :=
  fun other => if ticket = other then none else futures other

/-- What a move may do to the prospects. -/
inductive Step : Move → Prospects → Prospects → Prop where
  | still {move : Move} {prospects : Prospects} {due : List (Nat × Bool)} :
      move.completion? = none → move.dropped? = none → due ⊆ prospects.due →
      Step move prospects { prospects with due }
  | submit {move : Move} {prospects : Prospects} {completion : Completion}
      {due : List (Nat × Bool)} :
      move.completion? = some completion →
      due ⊆ (prospects.submitted, completion.isFuture) :: prospects.due →
      Step move prospects { prospects with
        submitted := prospects.submitted + 1
        due
        futures := promise completion.isFuture prospects.submitted prospects.futures }
  | invoke {move : Move} {prospects : Prospects} {due : List (Nat × Bool)}
      {invocation : Invocation} {isFuture : Bool} :
      move.completion? = none → move.dropped? = none → due ⊆ prospects.due →
      (invocation.ticket, isFuture) ∈ prospects.due →
      Step move prospects { prospects with
        due
        invocations := prospects.invocations ++ [invocation]
        futures :=
          if isFuture then settle [invocation.ticket] invocation.outcome prospects.futures
          else prospects.futures }
  | close {prospects : Prospects} {due : List (Nat × Bool)} {units : List Nat} :
      due ⊆ prospects.due →
      Step .close prospects { prospects with
        due
        abandonments := prospects.abandonments ++ units
        futures := settle units (.rejected .abandoned) prospects.futures }
  | drop {prospects : Prospects} {ticket : Nat} :
      Step (.dropFuture ticket) prospects { prospects with
        futures := drop ticket prospects.futures }

theorem settle_settle (ticket : Nat) (tickets : List Nat) (outcome : CompileOutcome)
    (futures : Nat → Option FutureState) :
    settle tickets outcome (settle [ticket] outcome futures) =
      settle (ticket :: tickets) outcome futures := by
  funext other
  by_cases first : other = ticket
  · cases held : futures ticket <;> simp [settle, first, held]
  · simp [settle, first]

end Prospects

/-- Which unit is to come to its end, and whether its completion is a future. -/
def Job.due (job : Job) : Nat × Bool :=
  (job.ticket, job.completion.isFuture)

def FinishedJob.due (finished : FinishedJob) : Nat × Bool :=
  finished.job.due

@[simp] theorem due_answered (job : Job) (reply : Reply Status) :
    (job.answered reply).due = job.due := by
  cases reply <;> rfl

namespace Session

variable {σ : Type}

/-- The units of a session that are still to come to their end. -/
def due (session : Session σ) : List (Nat × Bool) :=
  session.waiting.map Job.due ++ session.held.toList.map Job.due ++
    (session.compiled ++ session.returning ++ session.queue).map FinishedJob.due

theorem mem_due {session : Session σ} {unit : Nat × Bool} :
    unit ∈ session.due ↔
      unit ∈ session.waiting.map Job.due ∨ unit ∈ session.held.toList.map Job.due ∨
        unit ∈ session.compiled.map FinishedJob.due ∨
        unit ∈ session.returning.map FinishedJob.due ∨
        unit ∈ session.queue.map FinishedJob.due := by
  simp only [due, List.map_append, List.mem_append, or_assoc]

theorem due_subset {session after : Session σ} (waiting : after.waiting = session.waiting)
    (held : after.held = session.held) (compiled : after.compiled ⊆ session.compiled)
    (returning : after.returning ⊆ session.returning) (queue : after.queue ⊆ session.queue) :
    after.due ⊆ session.due := by
  intro unit
  simp only [mem_due, waiting, held]
  rintro (member | member | member | member | member)
  · exact .inl member
  · exact .inr (.inl member)
  · exact .inr (.inr (.inl (List.map_subset _ compiled member)))
  · exact .inr (.inr (.inr (.inl (List.map_subset _ returning member))))
  · exact .inr (.inr (.inr (.inr (List.map_subset _ queue member))))

theorem due_compiled {session : Session σ} {job : Job} (held : session.held = some job)
    (reply : Reply Status) :
    Session.due { session with
      held := none
      compiled := session.compiled ++ [job.answered reply] } ⊆ session.due := by
  intro unit
  simp only [mem_due, held, Option.toList_none, Option.toList_some, List.map_append, List.map_cons,
    List.map_nil, List.mem_append, List.mem_singleton, List.not_mem_nil, false_or]
  rintro (member | (member | rfl) | member)
  · exact .inl member
  · exact .inr (.inr (.inl member))
  · exact .inr (.inl (due_answered job reply))
  · exact .inr (.inr (.inr member))

theorem due_queued (session : Session σ) (finished : FinishedJob) :
    Session.due { session with queue := session.queue ++ [finished] } =
      session.due ++ [finished.due] := by
  simp [due]

theorem future?_resolve (session : Session σ) (ticket : Nat) (outcome : CompileOutcome) :
    (session.resolve ticket outcome).future? =
      Prospects.settle [ticket] outcome session.future? := by
  funext other
  simp only [future?, resolve, Prospects.settle, List.mem_singleton]
  induction session.futures with
  | nil => simp
  | cons entry rest ih =>
      obtain ⟨first, state⟩ := entry
      rw [List.map_cons, List.lookup_cons, List.lookup_cons, ih]
      by_cases same : first = ticket
      · subst first
        by_cases here : other = ticket <;> simp [here, beq_eq_decide]
      · by_cases here : other = first
        · subst other
          simp [same]
        · simp [same, here, beq_eq_decide]

theorem future?_dropFuture (session : Session σ) (ticket : Nat) :
    (session.dropFuture ticket).future? = Prospects.drop ticket session.future? := by
  funext other
  simp only [future?, dropFuture, Prospects.drop]
  induction session.futures with
  | nil => simp
  | cons entry rest ih =>
      obtain ⟨first, state⟩ := entry
      rw [List.filter_cons]
      by_cases same : first = ticket
      · rw [if_neg (by simp [same]), ih, List.lookup_cons]
        by_cases here : ticket = other
        · rw [if_pos here, if_pos here]
        · simp [here, same, Ne.symm here, beq_eq_decide]
      · rw [if_pos (by simp [same]), List.lookup_cons, List.lookup_cons, ih]
        by_cases here : other = first
        · subst other
          simp [Ne.symm same]
        · simp [here, beq_eq_decide]

end Session

namespace Site

variable {η σ : Type} (site : Site η σ)

def prospects : Prospects where
  submitted := site.session.submitted
  due := site.session.due
  invocations := (site.ledger []).invocations
  abandonments := (site.ledger []).abandonments
  futures := site.session.future?

theorem prospects_record_quiet {entry : Entry}
    (noInvocation : entry.invocation? site.session.id = none)
    (noAbandonment : entry.abandonment? site.session.id = none) :
    (site.record entry).prospects = site.prospects := by
  simp only [prospects, site.ledger_record_quiet [] noInvocation noAbandonment]
  rfl

theorem prospects_log (level : Log.Level) (message : String)
    (fields : List (String × Log.Value)) :
    (site.log level message fields).prospects = site.prospects :=
  site.prospects_record_quiet rfl rfl

theorem prospects_noteReply {kind : AnswerKind} (call : Call kind) (reply : Reply kind.Answer) :
    (site.noteReply call reply).prospects = site.prospects :=
  noteReply_unseen prospects prospects_log ..

theorem prospects_endDelivery (count : Nat) :
    (site.endDelivery count).prospects = site.prospects :=
  site.prospects_record_quiet rfl rfl

theorem prospects_perform (engine : Engine η σ) {kind : AnswerKind} (ticket : Option Nat)
    (call : Call kind) : (site.perform engine ticket call).2.prospects = site.prospects := by
  simp only [prospects, ledger_perform]
  rfl

theorem session_noteCompile (reply : Reply Status) :
    (site.noteCompile reply).session = site.session := by
  cases reply <;> rfl

theorem prospects_noteCompile (reply : Reply Status) :
    (site.noteCompile reply).prospects = site.prospects := by
  cases reply with
  | returned => rfl
  | panicked => exact prospects_log ..

theorem prospects_enqueue (finished : FinishedJob) :
    (site.enqueue finished).prospects = { site.prospects with
      due := (site.enqueue finished).session.due } := by
  simp only [prospects, ledger_enqueue]
  rfl

theorem prospects_start (runner : Runner) (finished : FinishedJob) :
    (site.start runner finished).prospects = { site.prospects with
      invocations := site.prospects.invocations ++ [finished.invocation runner]
      futures :=
        if finished.job.completion.isFuture then
          Prospects.settle [finished.ticket] finished.outcome site.prospects.futures
        else site.prospects.futures } := by
  simp only [prospects, ledger_start]
  unfold start
  split
  case h_1 isFuture =>
    simp only [isFuture, Completion.isFuture, if_true, Session.future?_resolve]
    rfl
  case h_2 isCallback =>
    simp only [isCallback, Completion.isFuture, Bool.false_eq_true, if_false]
    rfl

theorem future?_abandon (units : List FinishedJob) :
    (site.abandon units).session.future? =
      Prospects.settle (units.map FinishedJob.ticket) (.rejected .abandoned)
        site.session.future? := by
  induction units generalizing site with
  | nil =>
      funext other
      simp [abandon, Prospects.settle]
  | cons finished units ih =>
      refine (ih _).trans ?_
      rw [Session.future?_resolve]
      exact Prospects.settle_settle ..

theorem session_abandon (units : List FinishedJob) :
    (site.abandon units).session =
      { site.session with futures := (site.abandon units).session.futures } := by
  induction units generalizing site with
  | nil => rfl
  | cons finished units ih => exact ih _

theorem prospects_close :
    site.close.prospects = { site.prospects with
      due := Session.due { site.session with queue := [] }
      abandonments := site.prospects.abandonments ++ site.session.queue.map FinishedJob.ticket
      futures := Prospects.settle (site.session.queue.map FinishedJob.ticket)
        (.rejected .abandoned) site.prospects.futures } := by
  have abandoned := site.future?_abandon site.session.queue
  have kept := site.session_abandon site.session.queue
  have submitted : site.close.session.submitted = site.session.submitted := by
    simp only [close]
    rw [kept]
  have due : site.close.session.due = Session.due { site.session with queue := [] } := by
    simp only [close]
    rw [kept]
    rfl
  have futures : site.close.session.future? =
      (site.abandon site.session.queue).session.future? := rfl
  simp only [prospects, ledger_close, submitted, due, futures, abandoned]
  rfl

theorem future?_register (completion : Completion) :
    (site.register completion).session.future? =
      Prospects.promise completion.isFuture site.session.submitted site.session.future? := by
  funext other
  simp only [register, record, Session.future?, Prospects.promise]
  cases completion.isFuture with
  | false => simp
  | true =>
      rw [if_pos rfl, List.lookup_append]
      by_cases same : site.session.submitted = other
      · simp [same]
      · simp [List.lookup_cons, same, Ne.symm same, beq_eq_decide]

theorem prospects_register (completion : Completion) :
    (site.register completion).prospects = { site.prospects with
      submitted := site.session.submitted + 1
      futures := Prospects.promise completion.isFuture site.session.submitted
        site.session.future? } := by
  simp only [prospects, ledger_register, future?_register]
  rfl

theorem prospects_dispatch (runner : Runner) (job : Job) :
    (site.dispatch runner job).prospects = { site.prospects with
      due := (site.dispatch runner job).session.due } := by
  have logged := site.prospects_log .debug (site.idText ++ ": dispatching compile (" ++
    toString (Text.encode job.source).length ++ " bytes)") []
  rw [← logged]
  rfl

theorem prospects_reject (error : DispatchError) (job : Job) :
    (site.reject error job).prospects = { site.prospects with
      due := (site.reject error job).session.due } := by
  have logged := site.prospects_log .debug
    (site.idText ++ ": rejecting async compile: " ++ error.message) []
  rw [← logged]
  simp only [reject]
  split
  · rw [prospects_enqueue]
  · rfl

theorem prospects_submit (runner : Runner) (source : String) (completion : Completion) :
    (site.submit runner source completion).prospects = { site.prospects with
      submitted := site.session.submitted + 1
      due := (site.submit runner source completion).session.due
      futures := Prospects.promise completion.isFuture site.session.submitted
        site.session.future? } := by
  simp only [submit]
  split
  · split
    · rw [prospects_dispatch, prospects_register]
    · rw [prospects_reject, prospects_register]
  · rw [prospects_reject, prospects_register]

/-- A unit that is submitted is due, and so is what was due before. -/
theorem due_submit (runner : Runner) (source : String) (completion : Completion) :
    (site.submit runner source completion).session.due ⊆
      (site.session.submitted, completion.isFuture) :: site.session.due := by
  let job : Job := { ticket := site.session.submitted, source, completion }
  intro unit
  have registered : (site.register completion).session.due = site.session.due := rfl
  have dispatched : unit ∈ ((site.register completion).dispatch runner job).session.due →
      unit = job.due ∨ unit ∈ site.session.due := by
    rw [← registered]
    cases runner <;> simp only [dispatch, session_log, Session.mem_due, List.map_append,
      List.map_cons, List.map_nil, List.mem_append, List.mem_cons] <;> grind
  have rejected (error : DispatchError) :
      unit ∈ ((site.register completion).reject error job).session.due →
        unit = job.due ∨ unit ∈ site.session.due := by
    rw [← registered]
    cases way : (site.register completion).session.delivery <;>
      simp [reject, way, enqueue, record, Session.mem_due, FinishedJob.due] <;> grind
  rw [List.mem_cons]
  simp only [submit]
  split
  · split
    · exact dispatched
    · exact rejected _
  · exact rejected _

/-- A site after some of its units have gone from one place to another. -/
structure Rearranged (after : Site η σ) : Prop where
  due : after.session.due ⊆ site.session.due
  prospects : after.prospects = { site.prospects with due := after.session.due }

variable {site} {rest after : Site η σ} {position : Nat} {finished : FinishedJob}

theorem rearranged_takeUp? (taken : site.takeUp? position = some after) :
    site.Rearranged after := by
  simp only [takeUp?] at taken
  split at taken
  case h_1 job free found =>
    cases taken
    have logged := site.prospects_log .debug "engine call"
      [site.idField, ("op", .text "compile_async")]
    refine ⟨?_, logged ▸ rfl⟩
    intro unit
    have waiting := List.mem_map_of_mem (f := Job.due) (List.mem_of_getElem? found)
    have left : (site.session.waiting.eraseIdx position).map Job.due ⊆
        site.session.waiting.map Job.due := List.map_subset Job.due List.eraseIdx_subset
    simp only [Session.mem_due, Option.toList_some, List.map_cons, List.map_nil,
      List.mem_singleton]
    rintro (member | rfl | member)
    · exact .inl (left member)
    · exact .inl waiting
    · exact .inr (.inr member)
  case h_2 => cases taken

theorem rearranged_compile? {engine : Engine η σ} (compiled : site.compile? engine = some after) :
    site.Rearranged after := by
  obtain ⟨job, held, rfl⟩ := Option.map_eq_some_iff.mp compiled
  let reply := (site.perform engine (some job.ticket) (.compileString job.source)).1
  let noted :=
    (site.perform engine (some job.ticket) (.compileString job.source)).2.noteCompile reply
  have same : noted.prospects = site.prospects :=
    (prospects_noteCompile ..).trans (site.prospects_perform ..)
  have due : noted.session.due = site.session.due := congrArg Prospects.due same
  have holds : noted.session.held = some job := by
    rw [session_noteCompile]
    exact held
  refine ⟨due ▸ Session.due_compiled holds reply, ?_⟩
  rw [← same]
  rfl

theorem rearranged_takeCompiled? (taken : site.takeCompiled? position = some (finished, rest)) :
    finished.due ∈ site.session.due ∧ site.Rearranged rest := by
  simp only [takeCompiled?, Option.map_eq_some_iff, Prod.mk.injEq] at taken
  obtain ⟨found, member, rfl, rfl⟩ := taken
  refine ⟨?_, Session.due_subset rfl rfl List.eraseIdx_subset (.refl _) (.refl _), rfl⟩
  exact Session.mem_due.mpr (.inr (.inr (.inl (List.mem_map_of_mem (List.mem_of_getElem? member)))))

theorem rearranged_takeReturning? (taken : site.takeReturning? position = some (finished, rest)) :
    finished.due ∈ site.session.due ∧ site.Rearranged rest := by
  simp only [takeReturning?, Option.map_eq_some_iff, Prod.mk.injEq] at taken
  obtain ⟨found, member, rfl, rfl⟩ := taken
  refine ⟨?_, Session.due_subset rfl rfl (.refl _) List.eraseIdx_subset (.refl _), rfl⟩
  exact Session.mem_due.mpr
    (.inr (.inr (.inr (.inl (List.mem_map_of_mem (List.mem_of_getElem? member))))))

theorem rearranged_takeQueued? (taken : site.takeQueued? = some (finished, rest)) :
    finished.due ∈ site.session.due ∧ site.Rearranged rest := by
  simp only [takeQueued?] at taken
  split at taken
  case h_1 => cases taken
  case h_2 first queue filled =>
    cases taken
    refine ⟨?_, Session.due_subset rfl rfl (.refl _) (.refl _) ?_, rfl⟩
    · exact Session.mem_due.mpr
        (.inr (.inr (.inr (.inr (List.mem_map_of_mem (filled ▸ List.mem_cons_self))))))
    · exact filled ▸ List.subset_cons_self ..

theorem Rearranged.enqueue (due : finished.due ∈ site.session.due)
    (rearranged : site.Rearranged rest) : site.Rearranged (rest.enqueue finished) := by
  refine ⟨?_, ?_⟩
  · have queued : (rest.enqueue finished).session.due = rest.session.due ++ [finished.due] :=
      Session.due_queued ..
    rw [queued]
    exact List.append_subset.mpr ⟨rearranged.due, List.cons_subset.mpr ⟨due, List.nil_subset _⟩⟩
  · rw [prospects_enqueue, rearranged.prospects]

theorem Rearranged.step (rearranged : site.Rearranged rest) {move : Move}
    (quiet : move.completion? = none) (kept : move.dropped? = none) :
    Prospects.Step move site.prospects rest.prospects := by
  rw [rearranged.prospects]
  exact .still quiet kept rearranged.due

theorem Rearranged.start_step (rearranged : site.Rearranged rest)
    (due : finished.due ∈ site.session.due) (runner : Runner) {move : Move}
    (quiet : move.completion? = none) (kept : move.dropped? = none) :
    Prospects.Step move site.prospects (rest.start runner finished).prospects := by
  rw [prospects_start, rearranged.prospects]
  exact .invoke quiet kept rearranged.due due

end Site

namespace Scene

variable {η σ : Type}

def prospects (scene : Scene η σ) : Prospects :=
  scene.site.prospects

/-- Submitting a unit that has a future is promising it. -/
theorem prospects_submit {site : Site η σ} {move : Move} (runner : Runner) (source : String)
    {completion : Completion} (submits : move.completion? = some completion) :
    Prospects.Step move site.prospects (site.submit runner source completion).prospects := by
  rw [Site.prospects_submit]
  exact .submit submits (site.due_submit ..)

/-- Every move does to the prospects what `Prospects.Step` says. -/
theorem prospects_move? {engine : Engine η σ} {scene after : Scene η σ} {move : Move}
    (moved : scene.move? engine move = some after) :
    Prospects.Step move scene.prospects after.prospects := by
  have unchanged (quiet : move.completion? = none) (kept : move.dropped? = none)
      (same : after.prospects = scene.prospects) :
      Prospects.Step move scene.prospects after.prospects :=
    same ▸ .still quiet kept (List.Subset.refl _)
  cases Moves.of_move? moved with
  | ask | complete | beginDelivery | completeDelivery | giveUpDelivery =>
      exact unchanged rfl rfl rfl
  | acquire | giveUp => exact unchanged rfl rfl (Site.prospects_log ..)
  | answer => exact unchanged rfl rfl (Site.prospects_perform ..)
  | tell => exact unchanged rfl rfl (Site.prospects_noteReply ..)
  | endDelivery => exact unchanged rfl rfl (Site.prospects_endDelivery ..)
  | @submit source completion => exact prospects_submit .caller source rfl
  | @resubmit position activation source completion =>
      exact prospects_submit activation.runner source rfl
  | takeUp _ taken => exact (Site.rearranged_takeUp? taken).step rfl rfl
  | compile _ compiled => exact (Site.rearranged_compile? compiled).step rfl rfl
  | enqueue taken =>
      obtain ⟨due, rearranged⟩ := Site.rearranged_takeCompiled? taken
      exact (rearranged.enqueue due).step rfl rfl
  | finish taken =>
      obtain ⟨due, rearranged⟩ := Site.rearranged_takeCompiled? taken
      exact rearranged.start_step due .worker rfl rfl
  | arrive taken =>
      obtain ⟨due, rearranged⟩ := Site.rearranged_takeReturning? taken
      exact rearranged.start_step due .messenger rfl rfl
  | deliverNext _ taken =>
      obtain ⟨due, rearranged⟩ := Site.rearranged_takeQueued? taken
      exact rearranged.start_step due .caller rfl rfl
  | dropFuture =>
      simp only [prospects, Site.prospects, session, Session.future?_dropFuture]
      exact .drop
  | close =>
      simp only [prospects, Site.prospects_close]
      exact .close (Session.due_subset rfl rfl (.refl _) (.refl _) (List.nil_subset _))

end Scene

end CompileSession
