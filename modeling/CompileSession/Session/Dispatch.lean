import CompileSession.Session.Basic

/-!
# Asynchronous compiles

A unit is submitted, taken up by a worker together with the engine, compiled and finished; or it is
rejected at once.  Finished units go to the session's queue, or their completions are invoked right
away.  Every function here is one step that nothing can come in between; which step comes next is
up to whoever schedules them.
-/

namespace CompileSession.Site

variable {η σ : Type}

/-- Puts a finished unit where completions are asked for. -/
def enqueue (finished : FinishedJob) (site : Site η σ) : Site η σ :=
  { site.record (.queued site.session.id finished.ticket) with
    session := { site.session with queue := site.session.queue ++ [finished] } }

/-- Finishes a unit that never reaches a worker.  Its completion never runs right here. -/
def reject (error : DispatchError) (job : Job) (site : Site η σ) : Site η σ :=
  let site := site.log .debug (site.idText ++ ": rejecting async compile: " ++ error.message)
  let finished : FinishedJob := { job, error := some error }
  match site.session.delivery with
  | .queued => site.enqueue finished
  | .worker =>
    { site with
      session := { site.session with returning := site.session.returning ++ [finished] } }

/-- Leaves a unit to the workers.  What a worker submits is taken up first. -/
def dispatch (runner : Runner) (job : Job) (site : Site η σ) : Site η σ :=
  let site := site.log .debug (site.idText ++ ": dispatching compile (" ++
    toString (Text.encode job.source).length ++ " bytes)")
  let waiting := match runner with
    | .worker => job :: site.session.waiting
    | _ => site.session.waiting ++ [job]
  { site with session := { site.session with waiting } }

/-- Notes a new unit, and its future if it has one. -/
def register (completion : Completion) (site : Site η σ) : Site η σ :=
  let ticket := site.session.submitted
  let futures :=
    if completion.isFuture then site.session.futures ++ [(ticket, .pending)]
    else site.session.futures
  { site.record (.submitted site.session.id ticket completion.isFuture) with
    session := { site.session with submitted := ticket + 1, futures } }

/-- Submits a unit; `runner` is what runs the code that does so. -/
def submit (runner : Runner) (source : String) (completion : Completion) (site : Site η σ) :
    Site η σ :=
  let job : Job := { ticket := site.session.submitted, source, completion }
  let site := site.register completion
  if site.session.mode.canRun then
    match site.session.pool with
    | .ok _ => site.dispatch runner job
    | .error reason => site.reject (.poolUnavailable reason) job
  else site.reject .inspectOnly job

def submitAll (runner : Runner) (units : List (String × Completion)) (site : Site η σ) :
    Site η σ :=
  units.foldl (fun site unit => site.submit runner unit.1 unit.2) site

/-- Begins with the completion of a unit.  A future becomes ready at once. -/
def start (runner : Runner) (finished : FinishedJob) (site : Site η σ) : Site η σ :=
  let site := site.record (.invoked site.session.id finished.ticket finished.outcome runner)
  match finished.job.completion with
  | .future => { site with session := site.session.resolve finished.ticket finished.outcome }
  | .callback _ _ => site

/-- Invokes the completion of a unit.  Once the session is gone a completion cannot submit. -/
def invoke (runner : Runner) (finished : FinishedJob) (site : Site η σ) :
    Reply Unit × Site η σ :=
  let site := site.start runner finished
  match finished.job.completion with
  | .future => (.returned (), site)
  | .callback resubmissions panics =>
    let site := if site.session.isOpen then site.submitAll runner resubmissions else site
    if panics then (.panicked (.completion site.session.id finished.ticket), site)
    else (.returned (), site)

def notePanic (site : Site η σ) : Site η σ :=
  site.log .warn "async compile completion panicked"

/-- Invokes the completion of a unit away from the caller; if it gives up, that is logged. -/
def deliver (runner : Runner) (finished : FinishedJob) (site : Site η σ) : Site η σ :=
  match site.invoke runner finished with
  | (.returned (), site) => site
  | (.panicked _, site) => site.notePanic

/-- A free engine goes to a worker that takes up one of the waiting units. -/
def takeUp? (position : Nat) (site : Site η σ) : Option (Site η σ) :=
  match site.session.held, site.session.waiting[position]? with
  | none, some job =>
    let site := site.takeEngine "compile_async"
    some { site with
      session := { site.session with
        waiting := site.session.waiting.eraseIdx position
        held := some job } }
  | _, _ => none

/-- Logs that the engine gave up on a unit, if it did. -/
def noteCompile (reply : Reply Status) (site : Site η σ) : Site η σ :=
  match reply with
  | .returned _ => site
  | .panicked _ => site.log .warn (site.idText ++ ": engine panicked during async compile")

/-- The worker that owns the engine compiles its unit and gives the engine back. -/
def compile? (engine : Engine η σ) (site : Site η σ) : Option (Site η σ) :=
  site.session.held.map fun job =>
    let (reply, site) := site.perform engine (some job.ticket) (.compileString job.source)
    let site := site.noteCompile reply
    { site with
      session := { site.session with
        held := none
        compiled := site.session.compiled ++ [job.answered reply] } }

/-- Whether finished units are queued.  Units that outlive their session have no queue to go
to. -/
def hasQueue (site : Site η σ) : Bool :=
  site.session.delivery = .queued ∧ site.session.isOpen

/-- One of the compiled units, and the site without it. -/
def takeCompiled? (position : Nat) (site : Site η σ) : Option (FinishedJob × Site η σ) :=
  site.session.compiled[position]?.map fun finished => (finished, { site with
    session := { site.session with compiled := site.session.compiled.eraseIdx position } })

/-- One of the rejections that are on their way, and the site without it. -/
def takeReturning? (position : Nat) (site : Site η σ) : Option (FinishedJob × Site η σ) :=
  site.session.returning[position]?.map fun finished => (finished, { site with
    session := { site.session with returning := site.session.returning.eraseIdx position } })

/-- The first unit of the queue, and the site without it. -/
def takeQueued? (site : Site η σ) : Option (FinishedJob × Site η σ) :=
  match site.session.queue with
  | [] => none
  | finished :: rest =>
    some (finished, { site with session := { site.session with queue := rest } })

/-- A worker finishes a compiled unit: it goes to the queue, or its completion is invoked. -/
def finish? (position : Nat) (site : Site η σ) : Option (Site η σ) :=
  (site.takeCompiled? position).map fun (finished, site) =>
    if site.hasQueue then site.enqueue finished else site.deliver .worker finished

/-- A rejection arrives: its completion is invoked on a thread of its own. -/
def arrive? (position : Nat) (site : Site η σ) : Option (Site η σ) :=
  (site.takeReturning? position).map fun (finished, site) => site.deliver .messenger finished

/-- A caller takes the first unit of the queue and invokes its completion. -/
def deliverNext? (site : Site η σ) : Option (Reply Unit × Site η σ) :=
  site.takeQueued?.map fun (finished, site) => site.invoke .caller finished

/-- Tells a caller how many completions were delivered to it. -/
def endDelivery (count : Nat) (site : Site η σ) : Site η σ :=
  site.record (.delivered site.session.id count)

/-- Lets go of the queue's units without invoking their completions. -/
def abandon (units : List FinishedJob) (site : Site η σ) : Site η σ :=
  units.foldl (fun site finished =>
    { site.record (.abandoned site.session.id finished.ticket) with
      session := site.session.resolve finished.ticket (.rejected .abandoned) }) site

/-- Drops the session.  What lies in its queue is abandoned; all other units go on. -/
def close (site : Site η σ) : Site η σ :=
  let site := site.abandon site.session.queue
  { site with session := { site.session with isOpen := false, queue := [] } }

end CompileSession.Site
