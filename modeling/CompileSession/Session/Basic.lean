import CompileSession.Host

/-!
# Sessions

A session owns an engine.  Units of asynchronous work pass through it: they wait for a worker, are
held by the worker that owns the engine, have been compiled, and finally lie in the queue or have
had their completion invoked.
-/

namespace CompileSession

/-- What is done when a unit is finished. -/
inductive Completion where
  /-- A future becomes ready. -/
  | future
  /-- A callback submits further units, in order, and gives up at its end if `panics` holds. -/
  | callback (resubmissions : List (String × Completion)) (panics : Bool)

mutual

/-- How many units a completion stands for: its own and all that come from its resubmissions. -/
def Completion.weight : Completion → Nat
  | .future => 1
  | .callback resubmissions _ => 1 + Completion.weights resubmissions

/-- How many units come from some resubmissions. -/
def Completion.weights : List (String × Completion) → Nat
  | [] => 0
  | (_, completion) :: rest => completion.weight + Completion.weights rest

end

/-- Whether somebody holds a future for the unit. -/
def Completion.isFuture : Completion → Bool
  | .future => true
  | .callback _ _ => false

/-- A unit of asynchronous work: a text of its own to compile, and what to do then. -/
structure Job where
  /-- How many units were submitted to the session before. -/
  ticket : Nat
  source : String
  /-- What the engine has answered; nothing as long as it has not. -/
  result : Option Status := none
  completion : Completion

/-- A unit that no worker has to do with any more. -/
structure FinishedJob where
  job : Job
  error : Option DispatchError

namespace FinishedJob

/-- What the completion of a unit is told.  An engine's answer counts only if nothing went wrong. -/
def outcome (finished : FinishedJob) : CompileOutcome where
  result := if finished.error.isNone then finished.job.result else none
  error := finished.error

def ticket (finished : FinishedJob) : Nat :=
  finished.job.ticket

end FinishedJob

/-- A unit after the engine's answer; one that the engine gave up on has no result. -/
def Job.answered (job : Job) : Reply Status → FinishedJob
  | .returned status => { job := { job with result := some status }, error := none }
  | .panicked _ => { job, error := some .workerPanicked }

/-- What a future holds. -/
inductive FutureState where
  | pending
  | ready (outcome : CompileOutcome)
deriving DecidableEq, Repr

/-- A session and its engine's own state `σ`. -/
structure Session (σ : Type) where
  /-- The session's number. -/
  id : Nat
  mode : OutputMode
  delivery : Delivery
  /-- How many workers there are, or why there are none. -/
  pool : Except String Nat
  engine : σ
  /-- Whether the session still exists; units outlive it. -/
  isOpen : Bool := true
  /-- How many units were submitted. -/
  submitted : Nat := 0
  /-- The units that no worker has taken up. -/
  waiting : List Job := []
  /-- The unit whose worker owns the engine. -/
  held : Option Job := none
  /-- The units that workers have compiled but not yet delivered. -/
  compiled : List FinishedJob := []
  /-- The units that were rejected and are on their way on threads of their own. -/
  returning : List FinishedJob := []
  /-- The finished units that wait for somebody to ask for them. -/
  queue : List FinishedJob := []
  /-- The futures that are still held, by ticket. -/
  futures : List (Nat × FutureState) := []

namespace Session

variable {σ : Type}

/-- What a session's future holds; nothing once the future was dropped. -/
def future? (session : Session σ) (ticket : Nat) : Option FutureState :=
  session.futures.lookup ticket

def resolve (session : Session σ) (ticket : Nat) (outcome : CompileOutcome) : Session σ :=
  { session with
    futures := session.futures.map fun entry =>
      if entry.1 = ticket then (ticket, .ready outcome) else entry }

def dropFuture (session : Session σ) (ticket : Nat) : Session σ :=
  { session with futures := session.futures.filter fun entry => entry.1 ≠ ticket }

def describe (session : Session σ) : String :=
  let workers := match session.pool with
    | .ok count => "Ok(" ++ toString count ++ ")"
    | .error reason => "Err(" ++ Text.quoted reason ++ ")"
  "Session \x7b id: " ++ toString session.id ++ ", mode: " ++ session.mode.label ++
    ", dispatcher: Dispatcher \x7b workers: " ++ workers ++ ", delivery: " ++
    session.delivery.label ++ ", queued: " ++ toString session.queue.length ++ " \x7d \x7d"

end Session

/-- A session together with its host. -/
structure Site (η σ : Type) where
  host : Host η
  session : Session σ

namespace Site

variable {η σ : Type}

def record (site : Site η σ) (entry : Entry) : Site η σ :=
  { site with host := site.host.record entry }

def log (site : Site η σ) (level : Log.Level) (message : String)
    (fields : List (String × Log.Value) := []) : Site η σ :=
  { site with host := site.host.log level message fields }

/-- The field that names the session in what it logs. -/
def idField (site : Site η σ) : String × Log.Value :=
  ("session", .number site.session.id)

def idText (site : Site η σ) : String :=
  "session " ++ toString site.session.id

/-- Lets the engine answer a call, which may be made for one of the units. -/
def perform {kind : AnswerKind} (engine : Engine η σ) (ticket : Option Nat) (call : Call kind)
    (site : Site η σ) : Reply kind.Answer × Site η σ :=
  let (reply, state, machine) :=
    engine.perform call site.session.engine { site.host.toMachine with journal := [] }
  let entry := Entry.engineCall site.session.id ticket call reply
  let journal := site.host.journal ++ machine.journal.filter Entry.ofMachine ++ [entry]
  (reply, {
    host := { site.host with toMachine := { machine with journal } }
    session := { site.session with engine := state } })

def takeEngine (operation : String) (site : Site η σ) : Site η σ :=
  site.log .debug "engine call" [site.idField, ("op", .text operation)]

def call {kind : AnswerKind} (engine : Engine η σ) (call : Call kind) (site : Site η σ) :
    Reply kind.Answer × Site η σ :=
  (site.takeEngine call.name).perform engine none call

def noteStatus (operation : String) (status : Status) (site : Site η σ) : Site η σ :=
  if status.isErr then
    site.log .warn "engine reported failure"
      [site.idField, ("op", .text operation), ("status", .number status.code.toInt)]
  else site

def checked (engine : Engine η σ) (call : Call .status) (site : Site η σ) :
    Reply Status × Site η σ :=
  match site.call engine call with
  | (.returned status, site) => (.returned status, site.noteStatus call.name status)
  | (.panicked panic, site) => (.panicked panic, site)

/-- Logs that a symbol does not exist, if it does not. -/
def noteLookUp (name : String) (found : Option SymbolHandle) (site : Site η σ) : Site η σ :=
  if found.isNone then
    site.log .debug "symbol not found" [site.idField, ("name", .text name)]
  else site

/-- Looks a symbol up; that it is not found is logged. -/
def lookUp (engine : Engine η σ) (name : String) (site : Site η σ) :
    Reply (Option SymbolHandle) × Site η σ :=
  match site.call engine (.getSymbol name) with
  | (.returned found, site) => (.returned found, site.noteLookUp name found)
  | (.panicked panic, site) => (.panicked panic, site)

/-- Looks a symbol up, or says that it does not exist. -/
def getSymbol (engine : Engine η σ) (name : String) (site : Site η σ) :
    Reply (Except SessionError SymbolHandle) × Site η σ :=
  match site.lookUp engine name with
  | (.returned (some handle), site) => (.returned (.ok handle), site)
  | (.returned none, site) => (.returned (.error (.symbolNotFound name)), site)
  | (.panicked panic, site) => (.panicked panic, site)

def noteRefusal (site : Site η σ) : Site η σ :=
  site.log .warn "run called on an inspect-only session" [site.idField]

/-- Runs the program; only sessions that are for running reach the engine. -/
def run (engine : Engine η σ) (argc : Int32) (site : Site η σ) : Reply Status × Site η σ :=
  if site.session.mode.canRun then site.call engine (.run argc)
  else (.returned .failed, site.noteRefusal)

def takeDiagnostics (engine : Engine η σ) (site : Site η σ) :
    Reply (List String) × Site η σ :=
  site.call engine .takeDiagnostics

/-- Makes a call on behalf of a caller, who waits for the answer. -/
def operate {kind : AnswerKind} (engine : Engine η σ) (call : Call kind) (site : Site η σ) :
    Reply kind.Answer × Site η σ :=
  match call with
  | .getSymbol name => site.lookUp engine name
  | .run argc => site.run engine argc
  | .takeDiagnostics => site.takeDiagnostics engine
  | .defineSymbol name value => site.call engine (.defineSymbol name value)
  | .undefineSymbol name => site.call engine (.undefineSymbol name)
  | .setOutputType mode => site.checked engine (.setOutputType mode)
  | .setLibPath path => site.checked engine (.setLibPath path)
  | .setOptions options => site.checked engine (.setOptions options)
  | .addIncludePath path => site.checked engine (.addIncludePath path)
  | .addSysincludePath path => site.checked engine (.addSysincludePath path)
  | .addLibrary name => site.checked engine (.addLibrary name)
  | .addLibraryPath path => site.checked engine (.addLibraryPath path)
  | .addFile path => site.checked engine (.addFile path)
  | .compileString source => site.checked engine (.compileString source)
  | .addSymbol name value => site.checked engine (.addSymbol name value)
  | .relocate => site.checked engine .relocate

end Site

end CompileSession
