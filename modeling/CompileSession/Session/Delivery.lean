import CompileSession.Session.Dispatch

/-!
# Running what is due

The delivery of completions on the calling thread, and one schedule of the steps that run in the
background: rejections arrive first, then workers finish what is compiled, compile what they hold
and take up what waits, always in order.
-/

namespace CompileSession

/-- How many units some finished units stand for. -/
def FinishedJob.load (units : List FinishedJob) : Nat :=
  Completion.weights (units.map fun finished => (finished.job.source, finished.job.completion))

/-- How many units some waiting units stand for. -/
def Job.load (jobs : List Job) : Nat :=
  Completion.weights (jobs.map fun job => (job.source, job.completion))

namespace Site

variable {η σ : Type}

/-- Invokes the completions in the queue, those that come up meanwhile included, and counts on from
`count`; `budget` bounds how many.  A completion that gives up ends this. -/
def deliverRest : (budget count : Nat) → Site η σ → Reply Nat × Site η σ
  | 0, count, site => (.returned count, site.endDelivery count)
  | budget + 1, count, site =>
    match site.deliverNext? with
    | none => (.returned count, site.endDelivery count)
    | some (.panicked panic, site) => (.panicked panic, site)
    | some (.returned (), site) => deliverRest budget (count + 1) site

/-- Delivers all completions that are due, and counts them. -/
def deliverCompletions (site : Site η σ) : Reply Nat × Site η σ :=
  site.deliverRest (FinishedJob.load site.session.queue) 0

/-- Delivers the first completion, if one is due before the time is up, and then all others. -/
def deliverCompletionsTimeout (site : Site η σ) : Reply Nat × Site η σ :=
  match site.deliverNext? with
  | none => (.returned 0, site.endDelivery 0)
  | some (.panicked panic, site) => (.panicked panic, site)
  | some (.returned (), site) => site.deliverRest (FinishedJob.load site.session.queue) 1

/-- The next step in the background, if there is one. -/
def background? (engine : Engine η σ) (mayCompile : Bool) (site : Site η σ) :
    Option (Site η σ) :=
  (site.arrive? 0)
    |>.orElse (fun _ => site.finish? 0)
    |>.orElse (fun _ => if mayCompile then site.compile? engine else none)
    |>.orElse (fun _ => site.takeUp? 0)

/-- How many steps in the background are due at most. -/
def backgroundLoad (session : Session σ) : Nat :=
  3 * (Job.load session.waiting + Job.load session.held.toList +
    FinishedJob.load session.compiled + FinishedJob.load session.returning)

/-- Steps in the background, at most `budget` of them. -/
def settleWithin (engine : Engine η σ) (mayCompile : Bool) : (budget : Nat) → Site η σ → Site η σ
  | 0, site => site
  | budget + 1, site =>
    match site.background? engine mayCompile with
    | none => site
    | some site => settleWithin engine mayCompile budget site

/-- Runs everything that is due in the background.  Unless `mayCompile` holds, workers stop in
front of their compiles. -/
def settle (engine : Engine η σ) (mayCompile : Bool) (site : Site η σ) : Site η σ :=
  site.settleWithin engine mayCompile (backgroundLoad site.session)

end Site

end CompileSession
