import CompileSession.Proofs.Session.Run

/-!
# Who uses the engine

A desk is the part of a scene that has to do with calls to the engine: who makes them and who owns
the engine, what was answered, and the engine with what it works on.  `Scene.desk_move?` says once
what every move does to it.
-/

namespace CompileSession

variable {η σ : Type}

/-- An engine's own state and what it works on. -/
structure Bench (η σ : Type) where
  state : σ
  memory : Memory
  shared : η

/-- Lets an engine that nobody else uses answer a request. -/
def Engine.serve (engine : Engine η σ) (request : Request) (bench : Bench η σ) :
    Answer × Bench η σ :=
  let result :=
    engine.perform request.call bench.state { memory := bench.memory, shared := bench.shared }
  ({ request with reply := result.1 },
    { state := result.2.1, memory := result.2.2.memory, shared := result.2.2.shared })

/-- What a site has to do with calls to its engine. -/
structure Post (η σ : Type) where
  mode : OutputMode
  /-- The unit whose worker owns the engine. -/
  held : Option Job
  bench : Bench η σ

/-- What a scene has to do with calls to its engine. -/
structure Desk (η σ : Type) extends Post η σ where
  operations : List Operation
  calls : List Answer
  told : List Answer

/-- Whether a move has to do with calls to the engine. -/
def Move.usesEngine : Move → Bool
  | .ask _ _ | .acquire _ | .answer _ | .tell _ | .takeUp _ | .compile => true
  | _ => false

/-- Whether nobody owns the engine. -/
def Desk.Free (desk : Desk η σ) : Prop :=
  desk.held = none ∧ ∀ operation ∈ desk.operations, operation.owns = false

/-- What a move may do to the desk. -/
inductive Desk.Step (engine : Engine η σ) : Move → Desk η σ → Desk η σ → Prop where
  | still {move : Move} {desk : Desk η σ} : move.usesEngine = false → Step engine move desk desk
  | ask {desk : Desk η σ} {caller : Nat} {kind : AnswerKind} {call : Call kind} :
      (∀ operation ∈ desk.operations, operation.caller ≠ caller) →
      Step engine (.ask caller call) desk { desk with
        operations := desk.operations ++ [{ caller, call, stage := call.opening desk.mode }] }
  | acquire {desk : Desk η σ} {position caller : Nat} {kind : AnswerKind} {call : Call kind}
      {before after : List Operation} :
      desk.operations = before ++ ⟨caller, call, .waiting⟩ :: after → desk.Free →
      Step engine (.acquire position) desk { desk with
        operations := before ++ ⟨caller, call, .owning⟩ :: after }
  | answer {desk : Desk η σ} {position caller : Nat} {kind : AnswerKind} {call : Call kind}
      {before after : List Operation} {reply : Reply kind.Answer} {bench : Bench η σ} :
      desk.operations = before ++ ⟨caller, call, .owning⟩ :: after →
      engine.serve { origin := .caller caller, call } desk.bench =
        ({ origin := .caller caller, call, reply }, bench) →
      Step engine (.answer position) desk { desk with
        bench
        operations := before ++ ⟨caller, call, .answered reply⟩ :: after
        calls := desk.calls ++ [{ origin := .caller caller, call, reply }] }
  | tell {desk : Desk η σ} {position caller : Nat} {kind : AnswerKind} {call : Call kind}
      {before after : List Operation} {reply : Reply kind.Answer} :
      desk.operations = before ++ ⟨caller, call, .answered reply⟩ :: after →
      Step engine (.tell position) desk { desk with
        operations := before ++ after
        told := desk.told ++ [{ origin := .caller caller, call, reply }] }
  | takeUp {desk : Desk η σ} {position : Nat} {job : Job} :
      desk.Free → Step engine (.takeUp position) desk { desk with held := some job }
  | compile {desk : Desk η σ} {job : Job} {reply : Reply Status} {bench : Bench η σ} :
      desk.held = some job →
      engine.serve { origin := .unit job.ticket, call := .compileString job.source } desk.bench =
        (job.compile reply, bench) →
      Step engine .compile desk { desk with
        held := none
        bench
        calls := desk.calls ++ [job.compile reply] }

/-- The engine of a site with what it works on. -/
def Site.bench (site : Site η σ) : Bench η σ where
  state := site.session.engine
  memory := site.host.memory
  shared := site.host.shared

/-- What a site has to do with calls to its engine. -/
def Site.post (site : Site η σ) : Post η σ where
  mode := site.session.mode
  held := site.session.held
  bench := site.bench

namespace Site

variable (site : Site η σ)

@[simp] theorem post_log (level : Log.Level) (message : String)
    (fields : List (String × Log.Value)) : (site.log level message fields).post = site.post :=
  rfl

theorem post_noteReply {kind : AnswerKind} (call : Call kind) (reply : Reply kind.Answer) :
    (site.noteReply call reply).post = site.post :=
  noteReply_unseen post post_log ..

theorem post_noteCompile (reply : Reply Status) : (site.noteCompile reply).post = site.post := by
  cases reply <;> rfl

theorem post_start (runner : Runner) (finished : FinishedJob) :
    (site.start runner finished).post = site.post := by
  unfold start
  split <;> rfl

theorem post_reject (error : DispatchError) (job : Job) :
    (site.reject error job).post = site.post := by
  simp only [reject]
  split <;> rfl

theorem post_submit (runner : Runner) (source : String) (completion : Completion) :
    (site.submit runner source completion).post = site.post := by
  simp only [submit]
  split
  · split
    · rfl
    · exact post_reject ..
  · exact post_reject ..

theorem post_abandon (units : List FinishedJob) : (site.abandon units).post = site.post := by
  induction units generalizing site with
  | nil => rfl
  | cons finished units ih => exact ih _

theorem post_close : site.close.post = site.post :=
  post_abandon site site.session.queue

/-- An answer depends on nothing but the bench. -/
theorem serve_perform (engine : Engine η σ) (origin : Origin) (ticket : Option Nat)
    {kind : AnswerKind} (call : Call kind) :
    engine.serve { origin, call } site.bench =
      ({ origin, call, reply := (site.perform engine ticket call).1 },
        (site.perform engine ticket call).2.bench) :=
  rfl

theorem post_takeUp? {position : Nat} {after : Site η σ}
    (taken : site.takeUp? position = some after) :
    ∃ job, site.session.held = none ∧ after.post = { site.post with held := some job } := by
  simp only [takeUp?] at taken
  split at taken
  case h_1 job free found =>
    cases taken
    exact ⟨job, free, rfl⟩
  case h_2 => cases taken

theorem post_compile? {engine : Engine η σ} {job : Job} {after : Site η σ}
    (held : site.session.held = some job) (compiled : site.compile? engine = some after) :
    after.post = { site.post with
      held := none
      bench := (site.perform engine (some job.ticket) (.compileString job.source)).2.bench } := by
  simp only [compile?, held, Option.map_some, Option.some.injEq] at compiled
  subst after
  exact congrArg (fun post : Post η σ => { post with held := none }) (post_noteCompile _ _)

theorem post_takeCompiled? {position : Nat} {finished : FinishedJob} {rest : Site η σ}
    (taken : site.takeCompiled? position = some (finished, rest)) : rest.post = site.post := by
  simp only [takeCompiled?, Option.map_eq_some_iff, Prod.mk.injEq] at taken
  obtain ⟨found, -, -, rfl⟩ := taken
  rfl

theorem post_takeReturning? {position : Nat} {finished : FinishedJob} {rest : Site η σ}
    (taken : site.takeReturning? position = some (finished, rest)) : rest.post = site.post := by
  simp only [takeReturning?, Option.map_eq_some_iff, Prod.mk.injEq] at taken
  obtain ⟨found, -, -, rfl⟩ := taken
  rfl

theorem post_takeQueued? {finished : FinishedJob} {rest : Site η σ}
    (taken : site.takeQueued? = some (finished, rest)) : rest.post = site.post := by
  simp only [takeQueued?] at taken
  split at taken
  case h_1 => cases taken
  case h_2 =>
    cases taken
    rfl

end Site

namespace Scene

/-- What a scene has to do with calls to its engine. -/
def desk (scene : Scene η σ) : Desk η σ :=
  { scene.site.post with
    operations := scene.operations
    calls := scene.calls
    told := scene.told }

theorem desk_of_post {scene : Scene η σ} {site : Site η σ} (same : site.post = scene.site.post) :
    { scene with site }.desk = scene.desk := by
  simp only [desk, same]

theorem free_of_engineFree {scene : Scene η σ} (free : scene.engineFree = true) :
    scene.desk.Free := by
  simp only [engineFree, Bool.and_eq_true, Option.isNone_iff_eq_none, Bool.not_eq_true',
    List.any_eq_false] at free
  exact ⟨free.1, fun operation member => by simpa using free.2 operation member⟩

theorem exists_split {α : Type} {items : List α} {position : Nat} {item : α}
    (found : items[position]? = some item) :
    ∃ before after, items = before ++ item :: after ∧
      (∀ other, items.set position other = before ++ other :: after) ∧
      items.eraseIdx position = before ++ after := by
  obtain ⟨inside, rfl⟩ := List.getElem?_eq_some_iff.mp found
  refine ⟨items.take position, items.drop (position + 1), ?_, ?_, ?_⟩
  · rw [List.getElem_cons_drop, List.take_append_drop]
  · intro other
    exact List.set_eq_take_append_cons_drop.trans (if_pos inside)
  · exact List.eraseIdx_eq_take_drop_succ ..

theorem eq_of_singleton {α : Type} {item other : α} {before after : List α}
    (split : [item] = before ++ other :: after) : before = [] ∧ after = [] ∧ other = item := by
  cases before with
  | nil => simp_all
  | cons => simp at split

/-- Every move does to the desk what `Desk.Step` says. -/
theorem desk_move? {engine : Engine η σ} {scene after : Scene η σ} {move : Move}
    (moved : scene.move? engine move = some after) :
    Desk.Step engine move scene.desk after.desk := by
  have unchanged (quiet : move.usesEngine = false) (same : after.desk = scene.desk) :
      Desk.Step engine move scene.desk after.desk :=
    same ▸ .still quiet
  cases Moves.of_move? moved with
  | ask _ others => exact .ask others
  | acquire found free =>
      obtain ⟨before, later, split, set, -⟩ := exists_split found
      rw [set]
      exact .acquire split (free_of_engineFree free)
  | answer found =>
      obtain ⟨before, later, split, set, -⟩ := exists_split found
      rw [set]
      exact .answer split (Site.serve_perform ..)
  | @tell _ _ _ call reply found =>
      obtain ⟨before, later, split, -, erase⟩ := exists_split found
      have post := Site.post_noteReply scene.site call reply
      simp only [desk, post, erase]
      exact .tell split
  | takeUp free taken =>
      obtain ⟨job, -, post⟩ := Site.post_takeUp? _ taken
      simp only [desk, post]
      exact .takeUp (free_of_engineFree free)
  | compile held compiled =>
      have post := Site.post_compile? _ held compiled
      simp only [desk, post]
      exact .compile held (Site.serve_perform ..)
  | submit | resubmit => exact unchanged rfl (desk_of_post (Site.post_submit ..))
  | enqueue taken =>
      have post := Site.post_takeCompiled? _ taken
      exact unchanged rfl (desk_of_post post)
  | finish taken =>
      exact unchanged rfl
        (desk_of_post ((Site.post_start ..).trans (Site.post_takeCompiled? _ taken)))
  | arrive taken =>
      exact unchanged rfl
        (desk_of_post ((Site.post_start ..).trans (Site.post_takeReturning? _ taken)))
  | deliverNext _ taken =>
      exact unchanged rfl
        (desk_of_post ((Site.post_start ..).trans (Site.post_takeQueued? _ taken)))
  | close => exact unchanged rfl (desk_of_post (Site.post_close _))
  | complete | giveUp | beginDelivery | completeDelivery | giveUpDelivery | endDelivery
  | dropFuture => exact unchanged rfl rfl

end Scene

end CompileSession
