import CompileSession.Proofs.Session.Delivering
import CompileSession.Proofs.Session.Queue

/-!
# Deliveries that are interrupted

A completion that gives up ends the delivery of completions.  What was in front of it has been
delivered, what is behind it is still in the queue, and whoever asks again goes on from there.
-/

namespace CompileSession

variable {η σ : Type}

/-- How a caller asks for completions. -/
inductive Inquiry where
  /-- For those that are due. -/
  | due
  /-- The caller would wait for the first one. -/
  | patient

namespace Site

/-- Asks for completions once. -/
def inquire (site : Site η σ) : Inquiry → Reply Nat × Site η σ
  | .due => site.deliverCompletions
  | .patient => site.deliverCompletionsTimeout

/-- Asks for completions again and again, whatever comes of it. -/
def inquireAll : List Inquiry → Site η σ → List (Reply Nat) × Site η σ
  | [], site => ([], site)
  | inquiry :: rest, site =>
    let (replies, after) := (site.inquire inquiry).2.inquireAll rest
    ((site.inquire inquiry).1 :: replies, after)

theorem inquire_eq (site : Site η σ) (inquiry : Inquiry) :
    site.inquire inquiry = site.deliverCompletions := by
  cases inquiry with
  | due => rfl
  | patient => exact site.deliverCompletionsTimeout_eq

/-- The completions of so many units of the queue were invoked, from its front.  Futures may have
become ready, and nothing else was done with the session. -/
structure Served (before after : Site η σ) (count : Nat) : Prop where
  session : ∃ futures, after.session =
    { before.session with queue := before.session.queue.drop count, futures }
  host : ∃ more : Journal,
    after.host = { before.host with journal := before.host.journal ++ more } ∧
    more.invocations before.session.id =
      (before.session.queue.take count).map (·.invocation .caller)

namespace Served

variable {before middle after : Site η σ} {count more : Nat}

theorem refl (site : Site η σ) : Served site site 0 where
  session := ⟨_, rfl⟩
  host := by
    refine ⟨[], ?_, rfl⟩
    rw [List.append_nil]

theorem trans (first : Served before middle count) (second : Served middle after more) :
    Served before after (count + more) := by
  obtain ⟨⟨early, session⟩, journal, host, invoked⟩ := first
  obtain ⟨⟨futures, final⟩, others, later, invokedLater⟩ := second
  rw [session] at final invokedLater
  rw [host] at later
  refine ⟨⟨futures, ?_⟩, journal ++ others, ?_, ?_⟩
  · rw [final, List.drop_drop]
  · rw [later, List.append_assoc]
  · rw [Journal.invocations_append, invoked, invokedLater, ← List.map_append, ← List.take_add]

theorem queue_eq (served : Served before after count) :
    after.session.queue = before.session.queue.drop count := by
  obtain ⟨⟨futures, session⟩, -⟩ := served
  rw [session]

theorem number_eq (served : Served before after count) :
    after.session.id = before.session.id := by
  obtain ⟨⟨futures, session⟩, -⟩ := served
  rw [session]

end Served

theorem served_endDelivery (site : Site η σ) (count : Nat) :
    Served site (site.endDelivery count) 0 :=
  ⟨⟨_, rfl⟩, [.delivered site.session.id count], rfl, rfl⟩

/-- A completion that submits nothing is told what became of its unit, and that is all. -/
theorem served_invoke {site rest : Site η σ} {finished : FinishedJob}
    (taken : site.takeQueued? = some (finished, rest)) (still : finished.resubmissions = []) :
    Served site (rest.invoke .caller finished).2 1 := by
  obtain ⟨queue, filled, rfl⟩ := takeQueued?_eq_some_iff.mp taken
  have nothing : (if site.session.isOpen then finished.resubmissions else []) = [] := by
    rw [still, ite_self]
  have started : (({ site with session := { site.session with queue } } : Site η σ).invoke .caller
      finished).2 = ({ site with session := { site.session with queue } } : Site η σ).start .caller
        finished := by
    rw [invoke_eq]
    simp only [nothing]
    rfl
  rw [started]
  refine ⟨?_, [.invoked site.session.id finished.ticket finished.outcome .caller], ?_, ?_⟩
  · rw [filled]
    unfold start
    split <;> exact ⟨_, rfl⟩
  · unfold start
    split <;> rfl
  · rw [filled]
    simp [Journal.invocations, Entry.invocation?, FinishedJob.invocation]

/-- Units that submit nothing are delivered from the front of the queue. -/
theorem Delivers.served {site after : Site η σ} {units : List FinishedJob}
    (delivers : site.Delivers units after)
    (still : ∀ unit ∈ site.session.queue, unit.resubmissions = []) :
    Served site after units.length ∧ site.session.queue = units ++ after.session.queue := by
  induction delivers with
  | none site => exact ⟨.refl site, rfl⟩
  | @next site rest after finished units taken _ _ ih =>
      obtain ⟨queue, filled, -⟩ := takeQueued?_eq_some_iff.mp taken
      rw [filled] at still ⊢
      have first := served_invoke taken (still finished List.mem_cons_self)
      have left : (rest.invoke .caller finished).2.session.queue = queue := by
        rw [first.queue_eq, filled]
        rfl
      obtain ⟨others, split⟩ := ih (by
        rw [left]
        exact fun unit member => still unit (List.mem_cons_of_mem _ member))
      refine ⟨?_, congrArg (List.cons finished) (left.symm.trans split)⟩
      rw [List.length_cons, Nat.add_comm]
      exact first.trans others

/-- Whichever way the delivery of completions ends, it has come so far in the queue. -/
theorem Ends.served {site : Site η σ} {count : Nat} {units : List FinishedJob}
    {ended : Reply Nat × Site η σ} (ends : site.Ends count units ended)
    (still : ∀ unit ∈ site.session.queue, unit.resubmissions = []) :
    Served site ended.2 units.length ∧ site.session.queue = units ++ ended.2.session.queue := by
  cases ends with
  | returned delivers empty =>
      obtain ⟨served, split⟩ := delivers.served still
      exact ⟨served.trans (served_endDelivery ..), split⟩
  | @gaveUp units middle rest finished delivers taken panics =>
      obtain ⟨served, split⟩ := delivers.served still
      obtain ⟨queue, filled, -⟩ := takeQueued?_eq_some_iff.mp taken
      rw [split, filled] at still
      have last := served_invoke taken (still finished (by simp))
      rw [List.length_append]
      refine ⟨served.trans last, ?_⟩
      rw [split, last.queue_eq, filled, List.append_assoc]
      rfl

theorem inquire_served (site : Site η σ) (inquiry : Inquiry)
    (still : ∀ unit ∈ site.session.queue, unit.resubmissions = []) :
    ∃ units, Served site (site.inquire inquiry).2 units.length ∧
      site.session.queue = units ++ (site.inquire inquiry).2.session.queue ∧
      (((∀ unit ∈ units, unit.givesUp = false) ∧ units = site.session.queue ∧
          (site.inquire inquiry).1 = .returned site.session.queue.length) ∨
        ∃ before last, units = before ++ [last] ∧ (∀ unit ∈ before, unit.givesUp = false) ∧
          last.givesUp = true ∧
          (site.inquire inquiry).1 = .panicked (.completion site.session.id last.ticket)) := by
  rw [inquire_eq]
  obtain ⟨units, ends⟩ := site.deliverCompletions_ends
  obtain ⟨served, split⟩ := ends.served still
  refine ⟨units, served, split, ?_⟩
  rcases ends.cases with ⟨calm, returned, empty⟩ | interrupted
  · rw [empty, List.append_nil] at split
    exact .inl ⟨calm, split.symm, split ▸ returned⟩
  · exact .inr interrupted

/-- Whoever asks as often as there are units gets them all, and is then told that there are none. -/
theorem inquireAll_served (site : Site η σ) (inquiries : List Inquiry)
    (still : ∀ unit ∈ site.session.queue, unit.resubmissions = []) :
    ∃ count ≤ site.session.queue.length, Served site (site.inquireAll inquiries).2 count ∧
      (site.session.queue.length ≤ inquiries.length → count = site.session.queue.length) ∧
      (site.session.queue.length < inquiries.length →
        (site.inquireAll inquiries).1.getLast? = some (.returned 0)) := by
  induction inquiries generalizing site with
  | nil => exact ⟨0, Nat.zero_le _, .refl site, fun few => (Nat.le_zero.mp few).symm, nofun⟩
  | cons inquiry rest ih =>
      obtain ⟨units, served, split, ended⟩ := site.inquire_served inquiry still
      obtain ⟨count, most, servedRest, all, last⟩ := ih (site.inquire inquiry).2 (by
        intro unit member
        apply still unit
        rw [split]
        exact List.mem_append_right _ member)
      have length : site.session.queue.length =
          units.length + (site.inquire inquiry).2.session.queue.length := by
        rw [← List.length_append, ← split]
      -- What was asked for was all, or at least something.
      have progress : (site.inquire inquiry).2.session.queue.length = 0 ∨ 0 < units.length := by
        rcases ended with ⟨-, rfl, -⟩ | ⟨before, last, rfl, -⟩
        · exact .inl (by omega)
        · exact .inr (by simp)
      refine ⟨units.length + count, by omega, served.trans servedRest, ?_, ?_⟩
      · intro enough
        rw [List.length_cons] at enough
        have rest := all (by omega)
        omega
      · intro more
        rw [List.length_cons] at more
        simp only [inquireAll, List.getLast?_cons]
        cases rest with
        | nil =>
            rw [List.length_nil, Nat.zero_add, Nat.lt_one_iff] at more
            rcases ended with ⟨-, -, returned⟩ | ⟨before, last, rfl, -⟩
            · rw [returned, more]
              rfl
            · simp only [List.length_append, List.length_singleton] at length
              omega
        | cons other others =>
            rw [last (by simp only [List.length_cons] at more ⊢; omega)]
            rfl

end Site

namespace Counter

/-- How many completions callers are running. -/
def busy (counter : Counter) : Nat :=
  (counter.drains.map fun drain => drain.running.toList.length).sum

/-- The completions that give up on callers, and those that callers are running, were begun. -/
theorem Step.busy_le {move : Move} {counter after : Counter} (step : Step move counter after) :
    [move].countP Move.givesUp + after.busy + counter.invocations.length ≤
      counter.busy + after.invocations.length := by
  cases step with
  | still quiet =>
      have calm : move.givesUp = false := by
        cases move <;> first | rfl | cases quiet
      simp [calm]
  | enter alive finishes =>
      have calm : move.givesUp = false := by
        cases move <;> first | rfl | cases finishes
      simp [calm, busy]
  | outlive | beginDelivery | complete | close => simp [Move.givesUp, busy]
  | @deliver _ _ _ _ _ _ _ drain asked =>
      have one : drain.running.toList.length ≤ 1 := by
        cases drain.running <;> simp
      simp [Move.givesUp, busy, asked]
      omega
  | completeDelivery asked | endDelivery asked => simp [Move.givesUp, busy, asked]
  | giveUp asked =>
      simp [Move.givesUp, busy, asked]
      omega

/-- Some units came into the queue at its end, and those left it at its front that invocations tell
of. -/
structure Passes (before after : Counter) (called : List Invocation) (entered : List Nat) :
    Prop where
  invocations : after.invocations = before.invocations ++ called
  entrances : after.entrances = before.entrances ++ entered
  queue : before.queue ++ entered = called.map Invocation.ticket ++ after.queue

/-- While the session is there, its queue is used as a queue. -/
theorem Step.passes {move : Move} {counter after : Counter} (step : Step move counter after)
    (isOpen : after.isOpen = true) : ∃ called entered, Passes counter after called entered := by
  cases step with
  | still | beginDelivery | completeDelivery | giveUp | endDelivery | complete =>
      exact ⟨[], [], (List.append_nil _).symm, (List.append_nil _).symm, List.append_nil _⟩
  | @enter _ _ ticket => exact ⟨[], [ticket], (List.append_nil _).symm, rfl, rfl⟩
  | @deliver _ _ _ _ _ rest invocation _ _ filled =>
      refine ⟨[invocation], [], rfl, (List.append_nil _).symm, ?_⟩
      rw [filled, List.append_nil]
      rfl
  | outlive gone =>
      have impossible := gone.symm.trans isOpen
      cases impossible
  | close => cases isOpen

end Counter

theorem Ledger.Step.isOpen_of {move : Move} {ledger after : Ledger} (step : ledger.Step move after)
    (isOpen : after.isOpen = true) : ledger.isOpen = true := by
  cases step with
  | close => cases isOpen
  | _ => exact isOpen

/-- While a session that queues what is finished is there, units come into the queue at its end and
leave it at its front, to callers. -/
theorem Ledger.Step.passes {move : Move} {ledger after : Ledger} (step : ledger.Step move after)
    (queued : ledger.setup.delivery = .queued) (returning : ledger.returning = [])
    (isOpen : after.isOpen = true) :
    ∃ left entered : List FinishedJob,
      after.invocations = ledger.invocations ++ left.map (·.invocation .caller) ∧
      ledger.queue ++ entered = left ++ after.queue ∧ after.returning = [] := by
  cases step with
  | still | accept | takeUp | compile =>
      exact ⟨[], [], (List.append_nil _).symm, List.append_nil _, returning⟩
  | @rejectToQueue _ _ job error =>
      exact ⟨[], [{ job, error := some error }], (List.append_nil _).symm, rfl, returning⟩
  | @enqueue _ finished => exact ⟨[], [finished], (List.append_nil _).symm, rfl, returning⟩
  | rejectAway _ worker =>
      have impossible := queued.symm.trans worker
      cases impossible
  | invokeCompiled noQueue => exact (noQueue ⟨queued, isOpen⟩).elim
  | invokeReturning found =>
      rw [returning] at found
      cases found
  | @invokeQueued _ finished _ _ filled =>
      refine ⟨[finished], [], rfl, ?_, returning⟩
      rw [filled, List.append_nil]
      rfl
  | close => cases isOpen

namespace Scene

variable {engine : Engine η σ}

/-- What every move does to the queue of a session that is there. -/
theorem passes_move? {scene after : Scene η σ} {move : Move}
    (queued : scene.session.delivery = .queued) (returning : scene.session.returning = [])
    (moved : scene.move? engine move = some after) (isOpen : after.session.isOpen = true) :
    ∃ left entered, scene.site.outlet.Passes after.site.outlet left entered ∧
      after.session.returning = [] ∧
      [move].countP Move.givesUp + after.counter.busy ≤ scene.counter.busy + left.length := by
  obtain ⟨left, entered, invocations, queue, noneReturning⟩ :=
    (ledger_move? moved).passes queued returning isOpen
  have step := counter_move? queued returning moved
  obtain ⟨called, tickets, invoked, entrances, passed⟩ := step.passes isOpen
  have same : called = left.map (·.invocation .caller) :=
    List.append_cancel_left (invoked.symm.trans invocations)
  have entering : tickets = entered.map FinishedJob.ticket := by
    have lists := congrArg (List.map FinishedJob.ticket) queue
    subst same
    simp only [List.map_append] at lists
    rw [List.map_map] at passed
    exact List.append_cancel_left (passed.trans lists.symm)
  refine ⟨left, entered, ⟨invocations, entering ▸ entrances, queue⟩, noneReturning, ?_⟩
  have busy := step.busy_le
  rw [invoked, same, List.length_append, List.length_map] at busy
  omega

theorem follow?_passes {start finish : Scene η σ} {schedule : List Move}
    (queued : start.session.delivery = .queued) (returning : start.session.returning = [])
    (followed : start.follow? engine schedule = some finish)
    (isOpen : finish.session.isOpen = true) :
    ∃ left entered, start.site.outlet.Passes finish.site.outlet left entered ∧
      schedule.countP Move.givesUp + finish.counter.busy ≤ start.counter.busy + left.length := by
  have kept := follow?_induction (motive := fun schedule scene =>
    scene.session.delivery = .queued ∧ (scene.session.isOpen = true →
      scene.session.returning = [] ∧
      ∃ left entered, start.site.outlet.Passes scene.site.outlet left entered ∧
        schedule.countP Move.givesUp + scene.counter.busy ≤ start.counter.busy + left.length))
    ⟨queued, fun _ => ⟨returning, [], [], .refl _, by simp⟩⟩ ?_ followed
  · exact (kept.2 isOpen).2
  · intro schedule move scene after _ kept moved
    obtain ⟨queued, kept⟩ := kept
    have step := ledger_move? moved
    have same : after.session.delivery = scene.session.delivery :=
      congrArg Setup.delivery step.setup_eq
    refine ⟨same.trans queued, fun alive => ?_⟩
    have before : scene.session.isOpen = true := step.isOpen_of alive
    obtain ⟨returning, left, entered, passes, busy⟩ := kept before
    obtain ⟨more, others, passed, noneReturning, more_busy⟩ :=
      passes_move? queued returning moved alive
    refine ⟨noneReturning, _, _, passes.trans passed, ?_⟩
    rw [List.countP_append, List.length_append]
    omega

end Scene

/-- Nothing is lost and nothing changes places where completions give up.  A caller who asks for the
completions of units that submit nothing gets some of them from the front of the queue, and the
others stay there; once it has asked as often as there are units it has got all of them.  What comes
into the queue in the meantime is behind them, whatever else happens to the session. -/
theorem Site.interruptions_lose_nothing (site : Site η σ)
    (still : ∀ unit ∈ site.session.queue, unit.resubmissions = []) :
    (∀ inquiry, ∃ units, Served site (site.inquire inquiry).2 units.length ∧
      site.session.queue = units ++ (site.inquire inquiry).2.session.queue ∧
      (((∀ unit ∈ units, unit.givesUp = false) ∧ units = site.session.queue ∧
          (site.inquire inquiry).1 = .returned site.session.queue.length) ∨
        ∃ before last, units = before ++ [last] ∧ (∀ unit ∈ before, unit.givesUp = false) ∧
          last.givesUp = true ∧
          (site.inquire inquiry).1 = .panicked (.completion site.session.id last.ticket))) ∧
    (∀ inquiries, ∃ count ≤ site.session.queue.length,
      Served site (site.inquireAll inquiries).2 count ∧
      (site.session.queue.length ≤ inquiries.length → count = site.session.queue.length) ∧
      (site.session.queue.length < inquiries.length →
        (site.inquireAll inquiries).1.getLast? = some (.returned 0))) ∧
    ∀ (engine : Engine η σ) (start finish : Scene η σ) (schedule : List Move),
      start.session.delivery = .queued → start.session.returning = [] → start.drains = [] →
      start.follow? engine schedule = some finish → finish.session.isOpen = true →
      ∃ left entered, start.site.outlet.Passes finish.site.outlet left entered ∧
        schedule.countP Move.givesUp ≤ left.length := by
  refine ⟨fun inquiry => site.inquire_served inquiry still,
    fun inquiries => site.inquireAll_served inquiries still, ?_⟩
  intro engine start finish schedule queued returning noDrain followed isOpen
  obtain ⟨left, entered, passes, busy⟩ := Scene.follow?_passes queued returning followed isOpen
  refine ⟨left, entered, passes, ?_⟩
  have idle : start.counter.busy = 0 := by
    simp [Counter.busy, Scene.counter, Scene.counterOf, noDrain]
  omega

theorem Site.interruptions_lose_nothing_sample :
    (∀ unit ∈ sampleQueue.session.queue, unit.resubmissions = []) ∧
      sampleQueue.session.queue.length = 2 ∧
      Served sampleQueue (sampleQueue.inquireAll [.due, .patient, .due]).2 2 ∧
      (sampleQueue.inquireAll [.due, .patient, .due]).1.getLast? = some (.returned 0) ∧
      ∃ finish, (Scene.idle sampleQueue).follow? Engine.content
          [.beginDelivery, .deliverNext 0, .submit "third" .future, .completeDelivery 0 true,
            .beginDelivery, .deliverNext 0] = some finish ∧
        ∃ left entered, sampleQueue.outlet.Passes finish.site.outlet left entered ∧
          1 ≤ left.length := by
  have still : ∀ unit ∈ sampleQueue.session.queue, unit.resubmissions = [] :=
    List.forall_mem_cons.mpr ⟨rfl, List.forall_mem_cons.mpr ⟨rfl, List.forall_mem_nil _⟩⟩
  have two : sampleQueue.session.queue.length = 2 := rfl
  obtain ⟨-, again, meanwhile⟩ := sampleQueue.interruptions_lose_nothing still
  obtain ⟨count, -, served, all, last⟩ := again [.due, .patient, .due]
  obtain rfl : count = 2 := (all (by rw [two]; decide)).trans two
  have followed : (Scene.idle sampleQueue).follow? Engine.content
      [.beginDelivery, .deliverNext 0, .submit "third" .future, .completeDelivery 0 true,
        .beginDelivery, .deliverNext 0] = some _ := rfl
  exact ⟨still, two, served, last (by rw [two]; decide), _, followed,
    meanwhile _ _ _ _ rfl rfl rfl followed rfl⟩

end CompileSession
