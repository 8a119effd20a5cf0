import CompileSession.Session.Dispatch

/-!
# Schedules

Everything that can happen at a session, one move at a time: what callers do, what workers do, what
completions do that are running, and the end of the session.  Callers wait for the engine as workers
do, and whoever owns it keeps all others from it.  A schedule is a list of moves; which completions
submit units or give up is part of it.  Moves that are not possible have no result.
-/

namespace CompileSession

/-- Who makes a call to an engine. -/
inductive Origin where
  | caller (number : Nat)
  /-- The worker that compiles a unit. -/
  | unit (ticket : Nat)
deriving DecidableEq, Repr

/-- A call and who makes it. -/
structure Request where
  origin : Origin
  {kind : AnswerKind}
  call : Call kind

/-- A call that has been answered. -/
structure Answer extends Request where
  reply : Reply kind.Answer

/-- How far a caller's call has come. -/
inductive Stage (kind : AnswerKind) where
  /-- The caller waits for the engine. -/
  | waiting
  /-- The caller owns the engine. -/
  | owning
  /-- The caller has given the engine back, or never needed it. -/
  | answered (reply : Reply kind.Answer)

/-- What a session answers by itself; all other calls go to its engine. -/
def Call.refusal? {kind : AnswerKind} (mode : OutputMode) : Call kind → Option kind.Answer
  | .run _ => if mode.canRun then none else some .failed
  | _ => none

def Call.opening {kind : AnswerKind} (mode : OutputMode) (call : Call kind) : Stage kind :=
  match call.refusal? mode with
  | none => .waiting
  | some answer => .answered (.returned answer)

/-- A call that a caller is in the middle of. -/
structure Operation where
  caller : Nat
  {kind : AnswerKind}
  call : Call kind
  stage : Stage kind

/-- A caller that has asked for the delivery of completions. -/
structure Drain where
  /-- How many completions have been delivered to it. -/
  count : Nat := 0
  /-- The unit whose completion it is running. -/
  running : Option Nat := none

/-- A completion that is running away from the callers. -/
structure Activation where
  ticket : Nat
  runner : Runner

/-- A site and what its threads are in the middle of. -/
structure Scene (η σ : Type) where
  site : Site η σ
  operations : List Operation := []
  drains : List Drain := []
  running : List Activation := []
  /-- The calls that the engine has answered, in order. -/
  calls : List Answer := []
  /-- What callers were told in the end, in order. -/
  told : List Answer := []

/-- Something that can happen at a session. -/
inductive Move where
  /-- A caller begins a call. -/
  | ask (caller : Nat) {kind : AnswerKind} (call : Call kind)
  /-- A waiting caller gets the engine. -/
  | acquire (position : Nat)
  /-- The engine answers the caller that owns it, and is free again. -/
  | answer (position : Nat)
  /-- A caller returns from its call. -/
  | tell (position : Nat)
  /-- A caller submits a unit. -/
  | submit (source : String) (completion : Completion)
  /-- A worker takes up the unit at a position of the pool, and the engine with it. -/
  | takeUp (position : Nat)
  /-- The worker that owns the engine compiles its unit. -/
  | compile
  /-- A worker finishes one of the compiled units. -/
  | finish (position : Nat)
  /-- One of the rejections arrives. -/
  | arrive (position : Nat)
  /-- A completion that is running submits a unit. -/
  | resubmit (position : Nat) (source : String) (completion : Completion)
  /-- A completion ends, or gives up. -/
  | complete (position : Nat) (panics : Bool)
  /-- A caller asks for the delivery of completions. -/
  | beginDelivery
  /-- A caller that has asked begins with the completion of the first unit of the queue. -/
  | deliverNext (position : Nat)
  /-- A completion that was delivered ends, or gives up together with the caller. -/
  | completeDelivery (position : Nat) (panics : Bool)
  /-- Nothing more is to be delivered, or the time is up. -/
  | endDelivery (position : Nat)
  /-- A future is dropped. -/
  | dropFuture (ticket : Nat)
  /-- The session is dropped. -/
  | close

namespace Operation

def request (operation : Operation) : Request :=
  { origin := .caller operation.caller, call := operation.call }

def owns (operation : Operation) : Bool :=
  match operation.stage with
  | .owning => true
  | _ => false

end Operation

namespace Site

variable {η σ : Type}

/-- Logs what there is to say about the answer to a call. -/
def noteReply : {kind : AnswerKind} → Call kind → Reply kind.Answer → Site η σ → Site η σ
  | _, _, .panicked _, site => site
  | .status, .run _, .returned _, site =>
    if site.session.mode.canRun then site else site.noteRefusal
  | .status, call, .returned status, site => site.noteStatus call.name status
  | .lookup, .getSymbol name, .returned found, site => site.noteLookUp name found
  | _, _, _, site => site

end Site

namespace Scene

variable {η σ : Type}

def session (scene : Scene η σ) : Session σ :=
  scene.site.session

def engineFree (scene : Scene η σ) : Bool :=
  scene.session.held.isNone && !scene.operations.any Operation.owns

/-- Begins with the completion of a unit away from the callers. -/
def start (runner : Runner) (finished : FinishedJob) (scene : Scene η σ) : Scene η σ :=
  { scene with
    site := scene.site.start runner finished
    running :=
      if finished.job.completion.isFuture then scene.running
      else scene.running ++ [{ ticket := finished.ticket, runner }] }

/-- A caller begins a call, unless it is in the middle of another one.  Calls that the session
answers by itself are answered at once. -/
def ask? {kind : AnswerKind} (caller : Nat) (call : Call kind) (scene : Scene η σ) :
    Option (Scene η σ) :=
  if scene.session.isOpen ∧ scene.operations.all (·.caller ≠ caller) then
    some { scene with
      operations := scene.operations ++
        [{ caller, call, stage := call.opening scene.session.mode }] }
  else none

def acquire? (position : Nat) (scene : Scene η σ) : Option (Scene η σ) :=
  match scene.operations[position]? with
  | some ⟨caller, call, .waiting⟩ =>
    if scene.engineFree then
      some { scene with
        site := scene.site.takeEngine call.name
        operations := scene.operations.set position { caller, call, stage := .owning } }
    else none
  | _ => none

def answer? (engine : Engine η σ) (position : Nat) (scene : Scene η σ) : Option (Scene η σ) :=
  match scene.operations[position]? with
  | some ⟨caller, call, .owning⟩ =>
    let (reply, site) := scene.site.perform engine none call
    some { scene with
      site
      operations := scene.operations.set position { caller, call, stage := .answered reply }
      calls := scene.calls ++ [{ origin := .caller caller, call, reply }] }
  | _ => none

def tell? (position : Nat) (scene : Scene η σ) : Option (Scene η σ) :=
  match scene.operations[position]? with
  | some ⟨caller, call, .answered reply⟩ =>
    some { scene with
      site := scene.site.noteReply call reply
      operations := scene.operations.eraseIdx position
      told := scene.told ++ [{ origin := .caller caller, call, reply }] }
  | _ => none

/-- A worker takes up one of the waiting units, if the engine is free. -/
def takeUp? (position : Nat) (scene : Scene η σ) : Option (Scene η σ) :=
  if scene.engineFree then (scene.site.takeUp? position).map ({ scene with site := · }) else none

/-- What the engine answers to the worker that owns it. -/
def compileAnswer (engine : Engine η σ) (job : Job) (scene : Scene η σ) : Answer where
  origin := .unit job.ticket
  call := .compileString job.source
  reply := (scene.site.perform engine (some job.ticket) (.compileString job.source)).1

/-- The worker that owns the engine compiles its unit. -/
def compile? (engine : Engine η σ) (scene : Scene η σ) : Option (Scene η σ) :=
  match scene.session.held, scene.site.compile? engine with
  | some job, some site =>
    some { scene with site, calls := scene.calls ++ [scene.compileAnswer engine job] }
  | _, _ => none

/-- A worker finishes a compiled unit: it goes to the queue, or its completion begins. -/
def finish? (position : Nat) (scene : Scene η σ) : Option (Scene η σ) :=
  (scene.site.takeCompiled? position).map fun (finished, site) =>
    if site.hasQueue then { scene with site := site.enqueue finished }
    else { scene with site }.start .worker finished

/-- A rejection arrives, and its completion begins. -/
def arrive? (position : Nat) (scene : Scene η σ) : Option (Scene η σ) :=
  (scene.site.takeReturning? position).map fun (finished, site) =>
    { scene with site }.start .messenger finished

/-- A completion that is running submits a unit. -/
def resubmit? (position : Nat) (source : String) (completion : Completion) (scene : Scene η σ) :
    Option (Scene η σ) :=
  if scene.session.isOpen then
    scene.running[position]?.map fun activation =>
      { scene with site := scene.site.submit activation.runner source completion }
  else none

/-- A completion ends.  If it gives up, that is logged. -/
def complete? (position : Nat) (panics : Bool) (scene : Scene η σ) : Option (Scene η σ) :=
  scene.running[position]?.map fun _ =>
    { scene with
      site := if panics then scene.site.notePanic else scene.site
      running := scene.running.eraseIdx position }

/-- A caller that has asked for completions begins with the first one of the queue. -/
def deliverNext? (position : Nat) (scene : Scene η σ) : Option (Scene η σ) :=
  match scene.drains[position]?, scene.site.takeQueued? with
  | some { count, running := none }, some (finished, site) =>
    let drain : Drain :=
      if finished.job.completion.isFuture then { count := count + 1 }
      else { count, running := some finished.ticket }
    some { scene with
      site := site.start .caller finished
      drains := scene.drains.set position drain }
  | _, _ => none

/-- A completion that was delivered ends.  If it gives up, so does the caller. -/
def completeDelivery? (position : Nat) (panics : Bool) (scene : Scene η σ) :
    Option (Scene η σ) :=
  match scene.drains[position]? with
  | some { count, running := some _ } =>
    some { scene with
      drains :=
        if panics then scene.drains.eraseIdx position
        else scene.drains.set position { count := count + 1 } }
  | _ => none

/-- A caller finds the queue empty and is told how many completions were delivered to it. -/
def endDelivery? (position : Nat) (scene : Scene η σ) : Option (Scene η σ) :=
  match scene.drains[position]?, scene.session.queue with
  | some { count, running := none }, [] =>
    some { scene with
      site := scene.site.endDelivery count
      drains := scene.drains.eraseIdx position }
  | _, _ => none

/-- Drops the session, which nobody may be using. -/
def close? (scene : Scene η σ) : Option (Scene η σ) :=
  if scene.session.isOpen ∧ scene.operations.isEmpty ∧ scene.drains.isEmpty then
    some { scene with site := scene.site.close }
  else none

/-- The scene after a move, if the move is possible. -/
def move? (engine : Engine η σ) (scene : Scene η σ) : Move → Option (Scene η σ)
  | .ask caller call => scene.ask? caller call
  | .acquire position => scene.acquire? position
  | .answer position => scene.answer? engine position
  | .tell position => scene.tell? position
  | .submit source completion =>
    if scene.session.isOpen then
      some { scene with site := scene.site.submit .caller source completion }
    else none
  | .takeUp position => scene.takeUp? position
  | .compile => scene.compile? engine
  | .finish position => scene.finish? position
  | .arrive position => scene.arrive? position
  | .resubmit position source completion => scene.resubmit? position source completion
  | .complete position panics => scene.complete? position panics
  | .beginDelivery =>
    if scene.session.isOpen then some { scene with drains := scene.drains ++ [{}] } else none
  | .deliverNext position => scene.deliverNext? position
  | .completeDelivery position panics => scene.completeDelivery? position panics
  | .endDelivery position => scene.endDelivery? position
  | .dropFuture ticket =>
    some { scene with site := { scene.site with session := scene.session.dropFuture ticket } }
  | .close => scene.close?

/-- The scene after a schedule, if all its moves are possible. -/
def follow? (engine : Engine η σ) (scene : Scene η σ) (schedule : List Move) :
    Option (Scene η σ) :=
  schedule.foldlM (move? engine) scene

end Scene

end CompileSession
