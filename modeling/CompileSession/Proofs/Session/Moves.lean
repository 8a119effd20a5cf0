import CompileSession.Session.Schedule

/-!
# Moves as a relation

`Scene.Moves` says what every move needs and what it makes of a scene, with one case for each way in
which a move can go.  It describes the moves of `Scene.move?` and no others.
-/

namespace CompileSession.Scene

variable {η σ : Type}

/-- A move is possible at a scene and leads to another one. -/
inductive Moves (engine : Engine η σ) (scene : Scene η σ) : Move → Scene η σ → Prop where
  | ask {caller : Nat} {kind : AnswerKind} {call : Call kind} :
      scene.session.isOpen = true →
      (∀ operation ∈ scene.operations, operation.caller ≠ caller) →
      Moves engine scene (.ask caller call) { scene with
        operations :=
          scene.operations ++ [{ caller, call, stage := call.opening scene.session.mode }] }
  | acquire {position caller : Nat} {kind : AnswerKind} {call : Call kind} :
      scene.operations[position]? = some { caller, call, stage := .waiting } →
      scene.engineFree = true →
      Moves engine scene (.acquire position) { scene with
        site := scene.site.takeEngine call.name
        operations := scene.operations.set position { caller, call, stage := .owning } }
  | answer {position caller : Nat} {kind : AnswerKind} {call : Call kind} :
      scene.operations[position]? = some { caller, call, stage := .owning } →
      Moves engine scene (.answer position) { scene with
        site := (scene.site.perform engine none call).2
        operations := scene.operations.set position
          { caller, call, stage := .answered (scene.site.perform engine none call).1 }
        calls := scene.calls ++ [{
          origin := .caller caller, call, reply := (scene.site.perform engine none call).1 }] }
  | tell {position caller : Nat} {kind : AnswerKind} {call : Call kind}
      {reply : Reply kind.Answer} :
      scene.operations[position]? = some { caller, call, stage := .answered reply } →
      Moves engine scene (.tell position) { scene with
        site := scene.site.noteReply call reply
        operations := scene.operations.eraseIdx position
        told := scene.told ++ [{ origin := .caller caller, call, reply }] }
  | submit {source : String} {completion : Completion} :
      scene.session.isOpen = true →
      Moves engine scene (.submit source completion) { scene with
        site := scene.site.submit .caller source completion }
  | takeUp {position : Nat} {site : Site η σ} :
      scene.engineFree = true → scene.site.takeUp? position = some site →
      Moves engine scene (.takeUp position) { scene with site }
  | compile {job : Job} {site : Site η σ} :
      scene.session.held = some job → scene.site.compile? engine = some site →
      Moves engine scene .compile { scene with
        site, calls := scene.calls ++ [scene.compileAnswer engine job] }
  /-- A unit that was compiled goes to the queue. -/
  | enqueue {position : Nat} {finished : FinishedJob} {site : Site η σ} :
      scene.site.takeCompiled? position = some (finished, site) → site.hasQueue = true →
      Moves engine scene (.finish position) { scene with site := site.enqueue finished }
  /-- The completion of a unit that was compiled begins. -/
  | finish {position : Nat} {finished : FinishedJob} {site : Site η σ} :
      scene.site.takeCompiled? position = some (finished, site) → ¬ site.hasQueue = true →
      Moves engine scene (.finish position) ({ scene with site }.start .worker finished)
  | arrive {position : Nat} {finished : FinishedJob} {site : Site η σ} :
      scene.site.takeReturning? position = some (finished, site) →
      Moves engine scene (.arrive position) ({ scene with site }.start .messenger finished)
  | resubmit {position : Nat} {activation : Activation} {source : String}
      {completion : Completion} :
      scene.session.isOpen = true → scene.running[position]? = some activation →
      Moves engine scene (.resubmit position source completion) { scene with
        site := scene.site.submit activation.runner source completion }
  | complete {position : Nat} {activation : Activation} :
      scene.running[position]? = some activation →
      Moves engine scene (.complete position false) { scene with
        running := scene.running.eraseIdx position }
  /-- A completion gives up. -/
  | giveUp {position : Nat} {activation : Activation} :
      scene.running[position]? = some activation →
      Moves engine scene (.complete position true) { scene with
        site := scene.site.notePanic
        running := scene.running.eraseIdx position }
  | beginDelivery :
      scene.session.isOpen = true →
      Moves engine scene .beginDelivery { scene with drains := scene.drains ++ [{}] }
  | deliverNext {position count : Nat} {finished : FinishedJob} {site : Site η σ} :
      scene.drains[position]? = some { count, running := none } →
      scene.site.takeQueued? = some (finished, site) →
      Moves engine scene (.deliverNext position) { scene with
        site := site.start .caller finished
        drains := scene.drains.set position
          (if finished.job.completion.isFuture then { count := count + 1 }
          else { count, running := some finished.ticket }) }
  | completeDelivery {position count ticket : Nat} :
      scene.drains[position]? = some { count, running := some ticket } →
      Moves engine scene (.completeDelivery position false) { scene with
        drains := scene.drains.set position { count := count + 1 } }
  /-- A completion that was delivered gives up, and so does the caller. -/
  | giveUpDelivery {position count ticket : Nat} :
      scene.drains[position]? = some { count, running := some ticket } →
      Moves engine scene (.completeDelivery position true) { scene with
        drains := scene.drains.eraseIdx position }
  | endDelivery {position count : Nat} :
      scene.drains[position]? = some { count, running := none } → scene.session.queue = [] →
      Moves engine scene (.endDelivery position) { scene with
        site := scene.site.endDelivery count
        drains := scene.drains.eraseIdx position }
  | dropFuture {ticket : Nat} :
      Moves engine scene (.dropFuture ticket) { scene with
        site := { scene.site with session := scene.session.dropFuture ticket } }
  | close :
      scene.session.isOpen = true → scene.operations = [] → scene.drains = [] →
      Moves engine scene .close { scene with site := scene.site.close }

variable {engine : Engine η σ} {scene after : Scene η σ} {move : Move}

theorem Moves.of_move? (moved : scene.move? engine move = some after) :
    Moves engine scene move after := by
  cases move with
  | ask caller call =>
      simp only [move?, ask?, Option.ite_none_right_eq_some, Option.some.injEq,
        List.all_eq_true, decide_eq_true_eq] at moved
      obtain ⟨⟨isOpen, others⟩, rfl⟩ := moved
      exact .ask isOpen others
  | acquire position =>
      simp only [move?, acquire?] at moved
      split at moved
      case h_1 caller kind call found =>
        simp only [Option.ite_none_right_eq_some, Option.some.injEq] at moved
        obtain ⟨free, rfl⟩ := moved
        exact .acquire found free
      case h_2 => cases moved
  | answer position =>
      simp only [move?, answer?] at moved
      split at moved
      case h_1 caller kind call found =>
        cases moved
        exact .answer found
      case h_2 => cases moved
  | tell position =>
      simp only [move?, tell?] at moved
      split at moved
      case h_1 caller kind call reply found =>
        cases moved
        exact .tell found
      case h_2 => cases moved
  | submit source completion =>
      simp only [move?, Option.ite_none_right_eq_some, Option.some.injEq] at moved
      obtain ⟨isOpen, rfl⟩ := moved
      exact .submit isOpen
  | takeUp position =>
      simp only [move?, takeUp?, Option.ite_none_right_eq_some, Option.map_eq_some_iff] at moved
      obtain ⟨free, site, taken, rfl⟩ := moved
      exact .takeUp free taken
  | compile =>
      simp only [move?, compile?] at moved
      split at moved
      case h_1 job site held compiled =>
        cases moved
        exact .compile held compiled
      case h_2 => cases moved
  | finish position =>
      simp only [move?, finish?, Option.map_eq_some_iff] at moved
      obtain ⟨⟨finished, site⟩, taken, rfl⟩ := moved
      dsimp only
      split
      case isTrue hasQueue => exact .enqueue taken hasQueue
      case isFalse noQueue => exact .finish taken noQueue
  | arrive position =>
      simp only [move?, arrive?, Option.map_eq_some_iff] at moved
      obtain ⟨⟨finished, site⟩, taken, rfl⟩ := moved
      exact .arrive taken
  | resubmit position source completion =>
      simp only [move?, resubmit?, Option.ite_none_right_eq_some, Option.map_eq_some_iff] at moved
      obtain ⟨isOpen, activation, found, rfl⟩ := moved
      exact .resubmit isOpen found
  | complete position panics =>
      simp only [move?, complete?, Option.map_eq_some_iff] at moved
      obtain ⟨activation, found, rfl⟩ := moved
      cases panics with
      | false => exact .complete found
      | true => exact .giveUp found
  | beginDelivery =>
      simp only [move?, Option.ite_none_right_eq_some, Option.some.injEq] at moved
      obtain ⟨isOpen, rfl⟩ := moved
      exact .beginDelivery isOpen
  | deliverNext position =>
      simp only [move?, deliverNext?] at moved
      split at moved
      case h_1 count finished site idle taken =>
        cases moved
        exact .deliverNext idle taken
      case h_2 => cases moved
  | completeDelivery position panics =>
      simp only [move?, completeDelivery?] at moved
      split at moved
      case h_1 count ticket busy =>
        cases moved
        cases panics with
        | false => exact .completeDelivery busy
        | true => exact .giveUpDelivery busy
      case h_2 => cases moved
  | endDelivery position =>
      simp only [move?, endDelivery?] at moved
      split at moved
      case h_1 count idle empty =>
        cases moved
        exact .endDelivery idle empty
      case h_2 => cases moved
  | dropFuture ticket =>
      cases moved
      exact .dropFuture
  | close =>
      simp only [move?, close?, Option.ite_none_right_eq_some, Option.some.injEq,
        List.isEmpty_iff] at moved
      obtain ⟨⟨isOpen, noOperation, noDrain⟩, rfl⟩ := moved
      exact .close isOpen noOperation noDrain

theorem Moves.move?_eq (moves : Moves engine scene move after) :
    scene.move? engine move = some after := by
  cases moves with
  | ask isOpen others => exact if_pos ⟨isOpen, by simpa using others⟩
  | acquire found free => simp only [move?, acquire?, found, if_pos free]
  | answer found | tell found => simp only [move?, answer?, tell?, found]
  | submit isOpen | beginDelivery isOpen => exact if_pos isOpen
  | takeUp free taken => simp only [move?, takeUp?, if_pos free, taken, Option.map_some]
  | compile held compiled => simp only [move?, compile?, held, compiled]
  | enqueue taken hasQueue =>
      simp only [move?, finish?, taken, Option.map_some, if_pos hasQueue]
  | finish taken noQueue => simp only [move?, finish?, taken, Option.map_some, if_neg noQueue]
  | arrive taken => simp only [move?, arrive?, taken, Option.map_some]
  | resubmit isOpen found => simp only [move?, resubmit?, if_pos isOpen, found, Option.map_some]
  | complete found | giveUp found =>
      simp only [move?, complete?, found, Option.map_some]
      rfl
  | deliverNext idle taken => simp only [move?, deliverNext?, idle, taken]
  | completeDelivery busy | giveUpDelivery busy =>
      simp only [move?, completeDelivery?, busy]
      rfl
  | endDelivery idle empty => simp only [move?, endDelivery?, idle, empty]
  | dropFuture => rfl
  | close isOpen noOperation noDrain =>
      exact if_pos ⟨isOpen, List.isEmpty_iff.mpr noOperation, List.isEmpty_iff.mpr noDrain⟩

/-- The moves that are possible are those that the relation describes. -/
theorem move?_eq_some_iff :
    scene.move? engine move = some after ↔ Moves engine scene move after :=
  ⟨Moves.of_move?, Moves.move?_eq⟩

end CompileSession.Scene
