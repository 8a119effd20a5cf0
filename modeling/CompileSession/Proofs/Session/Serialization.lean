import CompileSession.Proofs.Session.Compiles
import CompileSession.Proofs.Session.Desk
import Mathlib.Data.List.Nodup

/-!
# One call after another

However callers and workers come in each other's way, the engine answers as if its calls were made
one after another in the order in which it answered them.  Every caller's calls come in the order in
which it made them, and every unit that is not rejected is compiled once, from its own text.
-/

namespace CompileSession

variable {η σ : Type}

/-- Lets an engine that nobody else uses answer requests one after another. -/
def Engine.serveAll (engine : Engine η σ) : List Request → Bench η σ → List Answer × Bench η σ
  | [], bench => ([], bench)
  | request :: rest, bench =>
    let (answer, bench) := engine.serve request bench
    let (answers, bench) := engine.serveAll rest bench
    (answer :: answers, bench)

theorem Engine.serveAll_append (engine : Engine η σ) (first second : List Request)
    (bench : Bench η σ) :
    engine.serveAll (first ++ second) bench =
      ((engine.serveAll first bench).1 ++
          (engine.serveAll second (engine.serveAll first bench).2).1,
        (engine.serveAll second (engine.serveAll first bench).2).2) := by
  induction first generalizing bench with
  | nil => rfl
  | cons request rest ih => simp only [List.cons_append, serveAll, ih]

/-- The call that a caller begins with a move, if it does. -/
def Move.request? : Move → Option Request
  | .ask caller call => some { origin := .caller caller, call }
  | _ => none

/-- Whether a request is for the engine to answer. -/
def Request.reaches (mode : OutputMode) (request : Request) : Bool :=
  (request.call.refusal? mode).isNone

/-- What a caller will be told, once it is known. -/
def Operation.answer? (operation : Operation) : Option Answer :=
  match operation.stage with
  | .answered reply => some { origin := .caller operation.caller, call := operation.call, reply }
  | _ => none

namespace Desk

/-- The calls that callers have made: those that they returned from and those under way. -/
def requests (desk : Desk η σ) : List Request :=
  desk.told.map Answer.toRequest ++ desk.operations.map Operation.request

/-- What callers were told or will be told. -/
def answers (desk : Desk η σ) : List Answer :=
  desk.told ++ desk.operations.filterMap Operation.answer?

/-- How many own the engine. -/
def owners (desk : Desk η σ) : Nat :=
  desk.held.toList.length + desk.operations.countP Operation.owns

/-- The engine and its answers are as if only its calls had been made, one after another. -/
def Serial (engine : Engine η σ) (start : Bench η σ) (desk : Desk η σ) : Prop :=
  engine.serveAll (desk.calls.map Answer.toRequest) start = (desk.calls, desk.bench)

theorem Serial.serve {engine : Engine η σ} {start bench : Bench η σ} {desk : Desk η σ}
    (serial : desk.Serial engine start) {answer : Answer}
    (served : engine.serve answer.toRequest desk.bench = (answer, bench)) :
    engine.serveAll ((desk.calls ++ [answer]).map Answer.toRequest) start =
      (desk.calls ++ [answer], bench) := by
  rw [Serial] at serial
  rw [List.map_append, Engine.serveAll_append, serial]
  simp only [List.map_cons, List.map_nil, Engine.serveAll, served]

theorem Serial.step {engine : Engine η σ} {start : Bench η σ} {move : Move} {desk after : Desk η σ}
    (serial : desk.Serial engine start) (step : desk.Step engine move after) :
    after.Serial engine start := by
  cases step with
  | still | ask | acquire | tell | takeUp => exact serial
  | answer owning served => exact serial.serve served
  | compile held served => exact serial.serve served

theorem owners_eq_zero {desk : Desk η σ} (free : desk.Free) : desk.owners = 0 := by
  have nobody : desk.operations.countP Operation.owns = 0 :=
    List.countP_eq_zero.mpr fun operation member => by simp [free.2 operation member]
  rw [owners, nobody, free.1]
  rfl

theorem Step.owners_le {engine : Engine η σ} {move : Move} {desk after : Desk η σ}
    (step : desk.Step engine move after) (atMostOne : desk.owners ≤ 1) : after.owners ≤ 1 := by
  cases step with
  | still => exact atMostOne
  | @ask _ caller _ call others =>
      have opened : (⟨caller, call, call.opening desk.mode⟩ : Operation).owns = false := by
        cases refused : call.refusal? desk.mode <;> simp [Operation.owns, Call.opening, refused]
      simpa [owners, opened] using atMostOne
  | acquire waiting free =>
      have none := owners_eq_zero free
      simp only [owners, waiting, List.countP_append, List.countP_cons, Operation.owns,
        Bool.false_eq_true, if_true, if_false] at none ⊢
      omega
  | answer owning served | tell owning =>
      simp only [owners, owning, List.countP_append, List.countP_cons, Operation.owns,
        Bool.false_eq_true, if_true, if_false] at atMostOne ⊢
      omega
  | takeUp free =>
      have none := owners_eq_zero free
      simp only [owners, Option.toList_some, List.length_singleton] at none ⊢
      omega
  | compile held served =>
      simp only [owners, Option.toList_none, List.length_nil] at atMostOne ⊢
      omega

/-- Callers are in the middle of one call each. -/
def Distinct (desk : Desk η σ) : Prop :=
  (desk.operations.map Operation.caller).Nodup

theorem Distinct.step {engine : Engine η σ} {move : Move} {desk after : Desk η σ}
    (distinct : desk.Distinct) (step : desk.Step engine move after) : after.Distinct := by
  cases step with
  | still | takeUp | compile => exact distinct
  | ask others =>
      simp only [Distinct, List.map_append, List.map_cons, List.map_nil]
      apply List.Nodup.append distinct (List.nodup_singleton _)
      intro caller member same
      obtain ⟨operation, inside, rfl⟩ := List.mem_map.mp member
      exact others operation inside (List.mem_singleton.mp same)
  | acquire waiting | answer waiting =>
      rw [Distinct, waiting] at distinct
      simpa only [Distinct, List.map_append, List.map_cons] using distinct
  | tell answered =>
      rw [Distinct, answered] at distinct
      refine distinct.sublist ?_
      exact (List.Sublist.append_left (List.sublist_cons_self _ _) _).map _

theorem Distinct.others {desk : Desk η σ} (distinct : desk.Distinct) {operation : Operation}
    {before after : List Operation} (split : desk.operations = before ++ operation :: after) :
    ∀ other ∈ before ++ after, other.caller ≠ operation.caller := by
  rw [Distinct, split, List.map_append, List.map_cons] at distinct
  have apart := (List.nodup_cons.mp (List.nodup_middle.mp distinct)).1
  intro other member same
  apply apart
  rw [← List.map_append, ← same]
  exact List.mem_map_of_mem member

/-- What a session answers by itself never reaches its engine. -/
structure Screened (desk : Desk η σ) : Prop where
  unanswered : ∀ operation ∈ desk.operations, operation.answer? = none →
    operation.request.reaches desk.mode = true
  refused : ∀ answer ∈ desk.answers, ∀ own, answer.call.refusal? desk.mode = some own →
    answer.reply = .returned own
  calls : ∀ answer ∈ desk.calls, answer.reaches desk.mode = true

theorem mem_answers_iff {desk : Desk η σ} {before after : List Operation}
    {operation : Operation} (split : desk.operations = before ++ operation :: after)
    {answer : Answer} :
    answer ∈ desk.answers ↔ operation.answer? = some answer ∨
      answer ∈ desk.told ++ (before ++ after).filterMap Operation.answer? := by
  rw [answers, split, ← List.singleton_append, ← List.append_assoc]
  simp only [List.mem_append, List.mem_filterMap, List.mem_singleton]
  constructor
  · rintro (told | ⟨other, (earlier | rfl) | later, answered⟩)
    · exact .inr (.inl told)
    · exact .inr (.inr ⟨other, .inl earlier, answered⟩)
    · exact .inl answered
    · exact .inr (.inr ⟨other, .inr later, answered⟩)
  · rintro (answered | told | ⟨other, earlier | later, answered⟩)
    · exact .inr ⟨operation, .inl (.inr rfl), answered⟩
    · exact .inl told
    · exact .inr ⟨other, .inl (.inl earlier), answered⟩
    · exact .inr ⟨other, .inr later, answered⟩

theorem Screened.step {engine : Engine η σ} {move : Move} {desk after : Desk η σ}
    (screened : desk.Screened) (step : desk.Step engine move after) : after.Screened := by
  obtain ⟨unanswered, refused, calls⟩ := screened
  cases step with
  | still | takeUp => exact ⟨unanswered, refused, calls⟩
  | @ask _ caller _ call others =>
      refine ⟨?_, ?_, calls⟩
      · intro operation member none
        rcases List.mem_append.mp member with earlier | new
        · exact unanswered operation earlier none
        · cases List.mem_singleton.mp new
          cases own : call.refusal? desk.mode with
          | none => simp [Request.reaches, Operation.request, own]
          | some answer => simp [Operation.answer?, Call.opening, own] at none
      · intro answer member
        rcases (mem_answers_iff rfl).mp member with new | earlier
        · cases own : call.refusal? desk.mode with
          | none => simp [Operation.answer?, Call.opening, own] at new
          | some refusal =>
              simp only [Operation.answer?, Call.opening, own, Option.some.injEq] at new
              subst answer
              intro again same
              cases own.symm.trans same
              rfl
        · rw [List.append_nil] at earlier
          exact refused answer earlier
  | @acquire _ _ caller _ call before later waiting free =>
      refine ⟨?_, ?_, calls⟩
      · intro operation member none
        rcases List.mem_append.mp member with earlier | inside
        · exact unanswered operation (by simp [waiting, earlier]) none
        · rcases List.mem_cons.mp inside with rfl | later
          · exact unanswered ⟨caller, call, .waiting⟩ (by simp [waiting]) rfl
          · exact unanswered operation (by simp [waiting, later]) none
      · intro answer member
        rcases (mem_answers_iff rfl).mp member with impossible | earlier
        · cases impossible
        · exact refused answer ((mem_answers_iff waiting).mpr (.inr earlier))
  | @answer _ _ caller _ call before later reply bench owning served =>
      have reaches := unanswered ⟨caller, call, .owning⟩ (by simp [owning]) rfl
      refine ⟨?_, ?_, ?_⟩
      · intro operation member none
        rcases List.mem_append.mp member with earlier | inside
        · exact unanswered operation (by simp [owning, earlier]) none
        · rcases List.mem_cons.mp inside with rfl | later
          · cases none
          · exact unanswered operation (by simp [owning, later]) none
      · intro answer member
        rcases (mem_answers_iff rfl).mp member with new | earlier
        · cases new
          intro own refusal
          simp [Request.reaches, Operation.request, refusal] at reaches
        · exact refused answer ((mem_answers_iff owning).mpr (.inr earlier))
      · intro answer member
        rcases List.mem_append.mp member with earlier | new
        · exact calls answer earlier
        · cases List.mem_singleton.mp new
          exact reaches
  | @tell _ _ caller _ call before later reply answered =>
      refine ⟨?_, ?_, calls⟩
      · intro operation member none
        apply unanswered operation _ none
        rw [answered]
        exact (List.sublist_cons_self _ _).append_left _ |>.subset member
      · intro answer member
        apply refused answer
        rw [mem_answers_iff answered]
        rcases List.mem_append.mp member with told | underWay
        · rcases List.mem_append.mp told with earlier | new
          · exact .inr (List.mem_append_left _ earlier)
          · cases List.mem_singleton.mp new
            exact .inl rfl
        · exact .inr (List.mem_append_right _ underWay)
  | compile held served =>
      refine ⟨unanswered, refused, ?_⟩
      intro answer member
      rcases List.mem_append.mp member with earlier | new
      · exact calls answer earlier
      · cases List.mem_singleton.mp new
        rfl

/-- Callers are served in the order in which they ask, and everything that the engine answers to a
caller is what the caller is told. -/
structure InOrder (asked : List Request) (desk : Desk η σ) : Prop where
  requests : ∀ caller, asked.filter (·.origin = .caller caller) =
    desk.requests.filter (·.origin = .caller caller)
  calls : ∀ caller, desk.calls.filter (·.origin = .caller caller) =
    (desk.answers.filter (·.origin = .caller caller)).filter (·.reaches desk.mode)

private theorem filter_requests_eq_nil {operations : List Operation} {caller : Nat}
    (apart : ∀ operation ∈ operations, operation.caller ≠ caller) :
    (operations.map Operation.request).filter (·.origin = .caller caller) = [] := by
  apply List.filter_eq_nil_iff.mpr
  intro request member
  obtain ⟨operation, inside, rfl⟩ := List.mem_map.mp member
  simpa [Operation.request] using apart operation inside

theorem toRequest_of_answer? {operation : Operation} {answer : Answer}
    (answered : operation.answer? = some answer) : answer.toRequest = operation.request := by
  simp only [Operation.answer?] at answered
  split at answered
  · cases answered
    rfl
  · cases answered

private theorem filter_answers_eq_nil {operations : List Operation} {caller : Nat}
    (apart : ∀ operation ∈ operations, operation.caller ≠ caller) :
    (operations.filterMap Operation.answer?).filter (·.origin = .caller caller) = [] := by
  apply List.filter_eq_nil_iff.mpr
  intro answer member
  obtain ⟨operation, inside, answered⟩ := List.mem_filterMap.mp member
  have origin : answer.origin = .caller operation.caller :=
    congrArg Request.origin (toRequest_of_answer? answered)
  simpa [origin] using apart operation inside

private theorem filter_move_first {α : Type} {keeps : α → Bool} {item : α} {before : List α}
    (after : List α) (alone : keeps item = true → before.filter keeps = []) :
    (before ++ item :: after).filter keeps = (item :: (before ++ after)).filter keeps := by
  cases kept : keeps item with
  | true => simp [kept, alone kept]
  | false => simp [kept]

private theorem filter_move_last {α : Type} {keeps : α → Bool} {item : α} {after : List α}
    (before : List α) (alone : keeps item = true → after.filter keeps = []) :
    (before ++ item :: after).filter keeps = (before ++ after ++ [item]).filter keeps := by
  cases kept : keeps item with
  | true => simp [kept, alone kept]
  | false => simp [kept]

theorem answers_answer {desk : Desk η σ} (distinct : desk.Distinct) {owner : Operation}
    {answer : Answer} {before later : List Operation}
    (owning : desk.operations = before ++ owner :: later) (unanswered : owner.answer? = none)
    (origin : answer.origin = .caller owner.caller) (caller : Nat) :
    (desk.told ++ (before.filterMap Operation.answer? ++
        answer :: later.filterMap Operation.answer?)).filter (·.origin = .caller caller) =
      (desk.answers ++ [answer]).filter (·.origin = .caller caller) := by
  rw [← List.append_assoc, filter_move_last]
  · rw [answers, owning, List.filterMap_append, List.filterMap_cons, unanswered]
    simp only [List.append_assoc]
  · intro kept
    apply filter_answers_eq_nil
    intro other member
    have same : owner.caller = caller := by simpa [origin] using kept
    exact same ▸ distinct.others owning other (List.mem_append_right _ member)

theorem answers_tell {desk : Desk η σ} (distinct : desk.Distinct) {operation : Operation}
    {answer : Answer} {before later : List Operation}
    (split : desk.operations = before ++ operation :: later)
    (answered : operation.answer? = some answer)
    (origin : answer.origin = .caller operation.caller) (caller : Nat) :
    ((desk.told ++ [answer]) ++ (before ++ later).filterMap Operation.answer?).filter
        (·.origin = .caller caller) =
      desk.answers.filter (·.origin = .caller caller) := by
  rw [answers, split, List.filterMap_append, List.filterMap_append, List.filterMap_cons, answered,
    List.filter_append desk.told, filter_move_first]
  · simp only [List.filter_append, List.filter_cons, List.append_assoc, List.filter_nil]
    split <;> rfl
  · intro kept
    apply filter_answers_eq_nil
    intro other member
    have same : operation.caller = caller := by simpa [origin] using kept
    exact same ▸ distinct.others split other (List.mem_append_left _ member)

theorem requests_tell {desk : Desk η σ} (distinct : desk.Distinct) {operation : Operation}
    {before later : List Operation} (split : desk.operations = before ++ operation :: later)
    (caller : Nat) :
    ((desk.told.map Answer.toRequest ++ [operation.request]) ++
        (before ++ later).map Operation.request).filter (·.origin = .caller caller) =
      desk.requests.filter (·.origin = .caller caller) := by
  rw [requests, split, List.map_append, List.map_append, List.map_cons,
    List.filter_append (desk.told.map Answer.toRequest), filter_move_first]
  · simp only [List.filter_append, List.filter_cons, List.append_assoc, List.filter_nil]
    split <;> rfl
  · intro kept
    apply filter_requests_eq_nil
    intro other member
    have same : operation.caller = caller := by simpa [Operation.request] using kept
    exact same ▸ distinct.others split other (List.mem_append_left _ member)

theorem InOrder.step {engine : Engine η σ} {asked : List Request} {move : Move}
    {desk after : Desk η σ} (inOrder : desk.InOrder asked) (distinct : desk.Distinct)
    (screened : desk.Screened) (step : desk.Step engine move after) :
    after.InOrder (asked ++ move.request?.toList) := by
  obtain ⟨requests, calls⟩ := inOrder
  cases step with
  | @still _ _ quiet =>
      have silent : move.request? = none := by
        cases move <;> first | rfl | cases quiet
      rw [silent, Option.toList_none, List.append_nil]
      exact ⟨requests, calls⟩
  | @ask _ caller _ call others =>
      constructor
      · intro number
        simp only [Move.request?, Option.toList_some, Desk.requests, List.map_append,
          List.map_cons, List.map_nil, ← List.append_assoc]
        rw [List.filter_append, requests number, ← List.filter_append]
        rfl
      · intro number
        rw [calls number]
        cases own : call.refusal? desk.mode with
        | none => simp [answers, Operation.answer?, Call.opening, own]
        | some refusal =>
            simp [answers, Operation.answer?, Call.opening, own, Request.reaches,
              List.filter_cons]
  | @acquire _ _ caller _ call before later waiting free =>
      constructor
      · intro number
        simpa [Move.request?, Desk.requests, waiting, Operation.request] using requests number
      · intro number
        rw [calls number, answers, waiting, answers, List.filterMap_append, List.filterMap_append]
        rfl
  | @answer _ _ caller _ call before later reply bench owning served =>
      have reaches := screened.unanswered ⟨caller, call, .owning⟩ (by simp [owning]) rfl
      constructor
      · intro number
        simpa [Move.request?, Desk.requests, owning, Operation.request] using requests number
      · intro number
        let answer : Answer := { origin := .caller caller, call, reply }
        have told : (desk.told ++ (before.filterMap Operation.answer? ++
            answer :: later.filterMap Operation.answer?)).filter (·.origin = .caller number) =
              (desk.answers ++ [answer]).filter (·.origin = .caller number) :=
          answers_answer distinct owning rfl rfl number
        have kept : [answer].filter (·.origin = .caller number) =
            ([answer].filter (·.origin = .caller number)).filter (·.reaches desk.mode) := by
          have reached : answer.reaches desk.mode = true := reaches
          by_cases same : answer.origin = .caller number
          · simp [same, reached]
          · simp [same]
        rw [List.filter_append, calls number, kept, ← List.filter_append, ← List.filter_append,
          ← told, answers, List.filterMap_append]
        rfl
  | @tell _ _ caller _ call before later reply answered =>
      constructor
      · intro number
        have same := requests_tell distinct answered number
        simp only [Move.request?, Option.toList_none, List.append_nil]
        rw [requests number, ← same]
        simp only [Desk.requests, List.map_append, List.map_cons, List.map_nil]
        rfl
      · intro number
        rw [calls number, ← answers_tell distinct answered rfl rfl number]
        rfl
  | takeUp =>
      simp only [Move.request?, Option.toList_none, List.append_nil]
      exact ⟨requests, calls⟩
  | compile held served =>
      simp only [Move.request?, Option.toList_none, List.append_nil]
      refine ⟨requests, ?_⟩
      intro number
      rw [List.filter_append, calls number]
      simp [Job.compile, answers]

/-- The calls that a caller is in the middle of. -/
def underWay (desk : Desk η σ) (caller : Nat) : List Operation :=
  desk.operations.filter (·.caller = caller)

theorem Distinct.length_underWay_le {desk : Desk η σ} (distinct : desk.Distinct) (caller : Nat) :
    (desk.underWay caller).length ≤ 1 := by
  have once := List.nodup_iff_count_le_one.mp distinct caller
  rw [List.count, List.countP_map, List.countP_eq_length_filter] at once
  exact once

theorem filter_requests (desk : Desk η σ) (caller : Nat) :
    desk.requests.filter (·.origin = .caller caller) =
      (desk.told.filter (·.origin = .caller caller)).map Answer.toRequest ++
        (desk.underWay caller).map Operation.request := by
  simp only [requests, underWay, List.filter_append, List.filter_map]
  congr 2
  apply List.filter_congr
  intro operation _
  simp [Operation.request]

theorem filter_answers (desk : Desk η σ) (caller : Nat) :
    desk.answers.filter (·.origin = .caller caller) =
      desk.told.filter (·.origin = .caller caller) ++
        (desk.underWay caller).filterMap Operation.answer? := by
  rw [answers, List.filter_append, underWay]
  congr 1
  induction desk.operations with
  | nil => rfl
  | cons operation rest ih =>
      cases answered : operation.answer? with
      | none =>
          by_cases same : operation.caller = caller
          · simp [answered, same, ih]
          · simp [answered, same, ih]
      | some answer =>
          have origin : answer.origin = .caller operation.caller :=
            congrArg Request.origin (toRequest_of_answer? answered)
          by_cases same : operation.caller = caller
          · simp [answered, origin, same, ih]
          · simp [answered, origin, same, ih]

/-- The engine is called once for each of a caller's requests, in the order in which the caller
makes them.  Only the last one may still be to come. -/
theorem InOrder.calls_prefix {asked : List Request} {desk : Desk η σ}
    (inOrder : desk.InOrder asked) (distinct : desk.Distinct) (caller : Nat) :
    (desk.calls.filter (·.origin = .caller caller)).map Answer.toRequest <+:
      (asked.filter (·.origin = .caller caller)).filter (·.reaches desk.mode) := by
  have begun : (desk.answers.filter (·.origin = .caller caller)).map Answer.toRequest <+:
      asked.filter (·.origin = .caller caller) := by
    rw [inOrder.requests caller, filter_requests, filter_answers, List.map_append]
    apply (List.prefix_append_right_inj _).mpr
    have few := distinct.length_underWay_le caller
    match desk.underWay caller, few with
    | [], _ => exact List.nil_prefix
    | [operation], _ =>
        cases answered : operation.answer? with
        | none => simp [answered]
        | some answer => simp [answered, toRequest_of_answer? answered]
  have reached := begun.filter (·.reaches desk.mode)
  rw [List.filter_map] at reached
  rw [inOrder.calls caller]
  exact reached

end Desk

namespace Scene

variable {engine : Engine η σ} {site : Site η σ} {schedule : List Move} {finish : Scene η σ}

/-- What every step of the desk keeps holds of the desk at the end of a run. -/
theorem follow?_desk {start : Scene η σ} {motive : List Request → Desk η σ → Prop}
    (begins : motive [] start.desk)
    (keeps : ∀ {asked : List Request} {move : Move} {desk after : Desk η σ},
      motive asked desk → desk.Step engine move after →
        motive (asked ++ move.request?.toList) after)
    (followed : start.follow? engine schedule = some finish) :
    motive (schedule.filterMap Move.request?) finish.desk := by
  apply follow?_induction
    (motive := fun schedule scene => motive (schedule.filterMap Move.request?) scene.desk)
    begins _ followed
  intro schedule move scene after _ kept moved
  have more := keeps kept (desk_move? moved)
  rw [List.filterMap_append]
  cases request : move.request? with
  | none => simpa [request] using more
  | some asked => simpa [request] using more

theorem follow?_serial (followed : (idle site).follow? engine schedule = some finish) :
    finish.desk.Serial engine site.bench := by
  apply follow?_desk (motive := fun _ desk => desk.Serial engine site.bench) _ Desk.Serial.step
    followed
  rfl

theorem follow?_owners_le (fresh : site.Fresh)
    (followed : (idle site).follow? engine schedule = some finish) : finish.desk.owners ≤ 1 := by
  apply follow?_desk (motive := fun _ desk => desk.owners ≤ 1) _
    (fun atMostOne step => step.owners_le atMostOne) followed
  have free : (idle site).session.held = none := congrArg Ledger.held fresh.ledger_idle
  have nobody : (idle site).desk.Free := ⟨free, fun operation member => nomatch member⟩
  rw [Desk.owners_eq_zero nobody]
  exact Nat.zero_le 1

theorem distinct_idle (site : Site η σ) : (idle site).desk.Distinct :=
  List.nodup_nil

theorem screened_idle (site : Site η σ) : (idle site).desk.Screened where
  unanswered := by
    intro operation member
    cases member
  refused := by
    intro answer member
    cases member
  calls := by
    intro answer member
    cases member

theorem follow?_orderly (followed : (idle site).follow? engine schedule = some finish) :
    finish.desk.Distinct ∧ finish.desk.Screened ∧
      finish.desk.InOrder (schedule.filterMap Move.request?) := by
  apply follow?_desk
    (motive := fun asked desk => desk.Distinct ∧ desk.Screened ∧ desk.InOrder asked) _ _ followed
  · exact ⟨distinct_idle site, screened_idle site, fun _ => rfl, fun _ => rfl⟩
  · rintro asked move desk after ⟨distinct, screened, inOrder⟩ step
    exact ⟨distinct.step step, screened.step step, inOrder.step distinct screened step⟩

theorem mem_compiles {scene : Scene η σ} {answer : Answer} (member : answer ∈ scene.calls)
    {ticket : Nat} (origin : answer.origin = .unit ticket) : answer ∈ scene.ledger.compiles :=
  List.mem_filter.mpr ⟨member, by simp [Answer.isForUnit, origin]⟩

theorem calls_eq_nil_or_compiledOnce (fresh : site.Fresh)
    (followed : (idle site).follow? engine schedule = some finish) (ticket : Nat) :
    finish.calls.filter (·.origin = .unit ticket) = [] ∨
      CompiledOnce (schedule.filterMap Move.source?) finish.calls ticket := by
  cases asked : finish.calls.filter (·.origin = .unit ticket) with
  | nil => exact .inl rfl
  | cons answer rest =>
      right
      have member : answer ∈ finish.calls.filter (·.origin = .unit ticket) := by
        rw [asked]
        exact List.mem_cons_self
      obtain ⟨called, origin⟩ := List.mem_filter.mp member
      have unit : answer.origin = .unit ticket := of_decide_eq_true origin
      exact compiledOnce_ledger.mp (Ledger.compiledOnce_of_mem (follow?_quoted fresh followed)
        (follow?_engagedOnce fresh followed) (mem_compiles called unit) unit)

theorem compiledOnce_of_rest (fresh : site.Fresh)
    (followed : (idle site).follow? engine schedule = some finish)
    (accepted : finish.ledger.setup.rejection? = none) (noneWaits : finish.session.waiting = [])
    (noneHeld : finish.session.held = none) {ticket : Nat}
    (submitted : ticket < finish.session.submitted) :
    CompiledOnce (schedule.filterMap Move.source?) finish.calls ticket := by
  have due : finish.ledger.due = [] := by
    rw [Ledger.due]
    exact congr (congrArg _ noneWaits) (congrArg Option.toList noneHeld)
  apply compiledOnce_ledger.mp
  exact Ledger.compiledOnce (follow?_quoted fresh followed) (follow?_engagedOnce fresh followed)
    accepted submitted (by rw [due]; rfl)

/-- When the completion of a unit is invoked, the engine was asked about the unit and is no longer
owned by its worker. -/
theorem compiledOnce_of_invoked (fresh : site.Fresh)
    (followed : (idle site).follow? engine schedule = some finish)
    (accepted : finish.ledger.setup.rejection? = none) {invocation : Invocation}
    (member : invocation ∈ finish.ledger.invocations) :
    CompiledOnce (schedule.filterMap Move.source?) finish.calls invocation.ticket ∧
      ∀ job, finish.session.held = some job → job.ticket ≠ invocation.ticket := by
  obtain ⟨done, submitted⟩ := (follow?_conserved fresh followed).count_due_eq_zero member
  constructor
  · apply compiledOnce_ledger.mp
    exact Ledger.compiledOnce (follow?_quoted fresh followed) (follow?_engagedOnce fresh followed)
      accepted submitted done
  · intro job held same
    apply List.count_eq_zero.mp done
    rw [← same]
    apply List.mem_map_of_mem
    exact List.mem_append_right _ (Option.mem_toList.mpr held)

theorem refusal?_run (argc : Int32) : Call.refusal? .inspect (.run argc) = some .failed :=
  rfl

theorem calls_of_inspect (fresh : site.Fresh)
    (followed : (idle site).follow? engine schedule = some finish)
    (inspect : finish.session.mode = .inspect) {answer : Answer} (member : answer ∈ finish.calls) :
    ∃ caller, answer.origin = .caller caller ∧
      ∀ argc, answer.toRequest ≠ { origin := .caller caller, call := .run argc } := by
  have rejected : finish.ledger.setup.rejection? ≠ none := by
    intro accepted
    have execute := (Setup.rejection?_eq_none_iff.mp accepted).1
    cases inspect.symm.trans execute
  cases origin : answer.origin with
  | unit ticket =>
      have compile := mem_compiles member origin
      rw [Ledger.compiles_eq_nil (follow?_quoted fresh followed)
        (follow?_engagedOnce fresh followed) rejected] at compile
      cases compile
  | caller number =>
      refine ⟨number, rfl, ?_⟩
      intro argc same
      have reaches : answer.reaches finish.session.mode = true :=
        (follow?_orderly followed).2.1.calls answer member
      rw [same, Request.reaches, inspect, refusal?_run] at reaches
      cases reaches

/-- However callers and workers come in each other's way, the engine and its answers are as if its
calls had been made one after another; every caller's calls are among them in the caller's order,
once each, and every unit's once, with its own text, before its completion is invoked. -/
theorem calls_serialized (fresh : site.Fresh)
    (followed : (idle site).follow? engine schedule = some finish) :
    engine.serveAll (finish.calls.map Answer.toRequest) site.bench =
      (finish.calls, finish.site.bench) ∧
    finish.desk.owners ≤ 1 ∧
    (∀ caller,
      (schedule.filterMap Move.request?).filter (·.origin = .caller caller) =
        (finish.told.filter (·.origin = .caller caller)).map Answer.toRequest ++
          (finish.desk.underWay caller).map Operation.request ∧
      (finish.desk.underWay caller).length ≤ 1 ∧
      finish.calls.filter (·.origin = .caller caller) =
        (finish.told.filter (·.origin = .caller caller) ++
            (finish.desk.underWay caller).filterMap Operation.answer?).filter
          (·.reaches finish.session.mode) ∧
      (finish.calls.filter (·.origin = .caller caller)).map Answer.toRequest <+:
        ((schedule.filterMap Move.request?).filter (·.origin = .caller caller)).filter
          (·.reaches finish.session.mode)) ∧
    (∀ ticket, finish.calls.filter (·.origin = .unit ticket) = [] ∨
      CompiledOnce (schedule.filterMap Move.source?) finish.calls ticket) ∧
    (∀ workers, finish.session.mode = .execute → finish.session.pool = .ok workers →
      (finish.session.waiting = [] → finish.session.held = none →
        ∀ ticket < finish.session.submitted,
          CompiledOnce (schedule.filterMap Move.source?) finish.calls ticket) ∧
      ∀ invocation ∈ finish.ledger.invocations,
        CompiledOnce (schedule.filterMap Move.source?) finish.calls invocation.ticket ∧
        ∀ job, finish.session.held = some job → job.ticket ≠ invocation.ticket) ∧
    (finish.session.mode = .inspect →
      (∀ answer ∈ finish.calls, ∃ caller, answer.origin = .caller caller ∧
        ∀ argc, answer.toRequest ≠ { origin := .caller caller, call := .run argc }) ∧
      ∀ caller argc reply,
        { origin := .caller caller, call := .run argc, reply : Answer } ∈ finish.told →
          reply = .returned .failed) := by
  obtain ⟨distinct, screened, inOrder⟩ := follow?_orderly followed
  refine ⟨follow?_serial followed, follow?_owners_le fresh followed, ?_,
    calls_eq_nil_or_compiledOnce fresh followed, ?_, ?_⟩
  · intro caller
    refine ⟨?_, distinct.length_underWay_le caller, ?_, inOrder.calls_prefix distinct caller⟩
    · exact (inOrder.requests caller).trans (Desk.filter_requests ..)
    · exact (inOrder.calls caller).trans (congrArg _ (Desk.filter_answers ..))
  · intro workers execute built
    have accepted : finish.ledger.setup.rejection? = none :=
      Setup.rejection?_eq_none_iff.mpr ⟨execute, workers, built⟩
    constructor
    · intro noneWaits noneHeld ticket submitted
      exact compiledOnce_of_rest fresh followed accepted noneWaits noneHeld submitted
    · intro invocation member
      exact compiledOnce_of_invoked fresh followed accepted member
  · intro inspect
    constructor
    · intro answer member
      exact calls_of_inspect fresh followed inspect member
    · intro caller argc reply member
      apply screened.refused _ (List.mem_append_left _ member) .failed
      exact (congrArg (Call.refusal? · _) inspect).trans (refusal?_run argc)

theorem calls_serialized_sample :
    (Site.sample .execute .worker).Fresh ∧
    ∃ finish, (idle (Site.sample .execute .worker)).follow? Engine.content
        [.ask 7 (.addLibrary "m"), .submit "int x;" .future, .takeUp 0, .compile, .acquire 0,
          .answer 0, .tell 0, .finish 0] = some finish ∧
      finish.calls.map (·.origin) = [.unit 0, .caller 7] ∧
      Engine.content.serveAll (finish.calls.map Answer.toRequest)
        (Site.sample .execute .worker).bench = (finish.calls, finish.site.bench) ∧
      CompiledOnce ["int x;"] finish.calls 0 := by
  have fresh : (Site.sample .execute .worker).Fresh := ⟨rfl, rfl, rfl⟩
  have followed : (idle (Site.sample .execute .worker)).follow? Engine.content
      [.ask 7 (.addLibrary "m"), .submit "int x;" .future, .takeUp 0, .compile, .acquire 0,
        .answer 0, .tell 0, .finish 0] = some _ := rfl
  obtain ⟨serial, -, -, -, units, -⟩ := calls_serialized fresh followed
  exact ⟨fresh, _, followed, rfl, serial, (units 2 rfl rfl).1 rfl rfl 0 Nat.zero_lt_one⟩

end Scene

end CompileSession
