import CompileSession.Proofs.Program.Alike
import CompileSession.Proofs.Session.Execution

/-!
# A text on its way through a session

A program's text is the only unit of its session.  However the worker and the caller that asks for
completions take turns, the engine compiles the text once, and the future tells what it answered.
-/

namespace CompileSession

open Native

/-- Whether a move is one of a worker, of a rejection, or of callers that have completions
delivered. -/
def Move.pumps : Move → Bool
  | .takeUp _ | .compile | .finish _ | .arrive _ | .beginDelivery | .deliverNext _
  | .completeDelivery _ _ | .endDelivery _ => true
  | _ => false

namespace Program

variable {ν : Type} (code : ForeignCode ν)

/-- A site is like another one, and its journal tells of the same native calls. -/
abbrev Resembles (site other : NativeSite ν) : Prop :=
  Alike (exchanges site.host.journal) (exchanges site.host.journal) site other

theorem Alike.resembles {base : List Exchange} {site other : NativeSite ν}
    (alike : Alike base base site other) : Resembles site other := by
  obtain ⟨made, left, right⟩ := alike.exchanges_eq
  exact { alike with
    exchanges_eq := ⟨[], (List.append_nil _).symm, by rw [right, left, List.append_nil]⟩ }

/-- The unit that a text is submitted as. -/
def textJob (source : String) : Job :=
  { ticket := 0, source, completion := .future }

@[simp] theorem textJob_source (source : String) : (textJob source).source = source := rfl

/-- A session with one unit, whose future is in some state. -/
def sessionWith (config : SessionConfig) (id : Nat) (engine : Binding) (state : FutureState) :
    Session Binding where
  id
  mode := config.mode
  delivery := config.delivery
  pool := poolOf config.mode config.workers
  engine
  submitted := 1
  futures := [(0, state)]

/-- How far a text has come that is compiled at `start`, which is `served` afterwards. -/
inductive Phase (config : SessionConfig) (source : String) (status : Status)
    (start served : NativeSite ν) : NativeSite ν → Prop where
  | waiting {host : Host (Shared ν)} {session : Session Binding} (id : Nat) (engine : Binding) :
      session = { sessionWith config id engine .pending with waiting := [textJob source] } →
      Resembles start ⟨host, session⟩ → Phase config source status start served ⟨host, session⟩
  | held {host : Host (Shared ν)} {session : Session Binding} (id : Nat) (engine : Binding) :
      session = { sessionWith config id engine .pending with held := some (textJob source) } →
      Resembles start ⟨host, session⟩ → Phase config source status start served ⟨host, session⟩
  | compiled {host : Host (Shared ν)} {session : Session Binding} (id : Nat) (engine : Binding) :
      session = { sessionWith config id engine .pending with
        compiled := [(textJob source).answered (.returned status)] } →
      Resembles served ⟨host, session⟩ → Phase config source status start served ⟨host, session⟩
  | queued {host : Host (Shared ν)} {session : Session Binding} (id : Nat) (engine : Binding) :
      session = { sessionWith config id engine .pending with
        queue := [(textJob source).answered (.returned status)] } →
      Resembles served ⟨host, session⟩ → Phase config source status start served ⟨host, session⟩
  | ready {host : Host (Shared ν)} {session : Session Binding} (id : Nat) (engine : Binding) :
      session = sessionWith config id engine (.ready (.compiled status)) →
      Resembles served ⟨host, session⟩ → Phase config source status start served ⟨host, session⟩

namespace Phase

variable {config : SessionConfig} {source : String} {status : Status}
  {start served site after : NativeSite ν}

theorem submit (ready : Ready config start) (runs : config.mode = .execute) :
    Phase config source status start served (start.submit .caller source .future) := by
  have resembles := (Alike.refl start).submit .caller source .future
  obtain ⟨id, binding, session_eq⟩ := ready.session_eq
  have carried : (start.submit .caller source .future).session =
      { sessionWith config id binding .pending with waiting := [textJob source] } := by
    obtain ⟨host, session⟩ := start
    cases config
    dsimp only at session_eq runs
    subst session_eq runs
    rfl
  exact .waiting _ _ carried resembles

theorem takeUp? {position : Nat} (phase : Phase config source status start served site)
    (taken : site.takeUp? position = some after) :
    Phase config source status start served after := by
  cases phase with
  | waiting id engine session_eq resembles =>
      subst session_eq
      cases position with
      | zero =>
          cases taken
          exact .held _ _ rfl ((resembles.log ..).withSession rfl rfl)
      | succ position => cases taken
  | _ id engine session_eq =>
      subst session_eq
      cases taken

variable {code : ForeignCode ν}

theorem compile? (phase : Phase config source status start served site)
    (serves : start.perform (Binding.engine code) none (.compileString source) =
      (.returned status, served))
    (compiled : site.compile? (Binding.engine code) = some after) :
    Phase config source status start served after := by
  cases phase with
  | @held host session id engine session_eq resembles =>
      have held : session.held = some (textJob source) := by rw [session_eq]
      obtain ⟨answer, served, later, performed, performedToo, same⟩ :=
        resembles.perform code none (some (textJob source).ticket) (.compileString source)
      cases serves.symm.trans performed
      obtain ⟨another, again, makes, -⟩ :=
        perform_makes code (some (textJob source).ticket) (.compileString source) ⟨host, session⟩
      cases performedToo.symm.trans again
      simp only [Site.compile?, held, Option.map_some, Option.some.injEq, textJob_source,
        performedToo, Site.noteCompile] at compiled
      subst compiled
      refine .compiled id later.session.engine ?_ (same.resembles.withSession rfl rfl)
      rw [makes.session_eq, session_eq]
      rfl
  | _ id engine session_eq =>
      subst session_eq
      cases compiled

theorem finish {position : Nat} {finished : FinishedJob} {rest : NativeSite ν}
    (phase : Phase config source status start served site)
    (taken : site.takeCompiled? position = some (finished, rest)) :
    finished.job.completion = .future ∧
      Phase config source status start served
        (if rest.hasQueue then rest.enqueue finished else rest.start .worker finished) := by
  cases phase with
  | compiled id engine session_eq resembles =>
      have resembles := resembles.takeCompiled? taken
      subst session_eq
      cases position with
      | zero =>
          cases taken
          refine ⟨rfl, ?_⟩
          split
          · exact .queued _ _ rfl (resembles.enqueue _)
          · exact .ready _ _ rfl
              (resembles.start .worker ((textJob source).answered (.returned status)))
      | succ position => cases taken
  | _ id engine session_eq =>
      subst session_eq
      cases taken

theorem deliver {finished : FinishedJob} {rest : NativeSite ν}
    (phase : Phase config source status start served site)
    (taken : site.takeQueued? = some (finished, rest)) :
    finished.job.completion = .future ∧
      Phase config source status start served (rest.start .caller finished) := by
  cases phase with
  | queued id engine session_eq resembles =>
      have resembles := resembles.takeQueued? taken
      subst session_eq
      cases taken
      refine ⟨rfl, .ready _ _ rfl ?_⟩
      exact resembles.start .caller ((textJob source).answered (.returned status))
  | _ id engine session_eq =>
      subst session_eq
      cases taken

theorem record (phase : Phase config source status start served site) (entry : Entry)
    (quiet : Exchange.ofEntry? entry = none) :
    Phase config source status start served (site.record entry) := by
  cases phase with
  | waiting id engine session_eq resembles =>
      exact .waiting id engine session_eq (resembles.record entry quiet)
  | held id engine session_eq resembles =>
      exact .held id engine session_eq (resembles.record entry quiet)
  | compiled id engine session_eq resembles =>
      exact .compiled id engine session_eq (resembles.record entry quiet)
  | queued id engine session_eq resembles =>
      exact .queued id engine session_eq (resembles.record entry quiet)
  | ready id engine session_eq resembles =>
      exact .ready id engine session_eq (resembles.record entry quiet)

theorem returning_eq (phase : Phase config source status start served site) :
    site.session.returning = [] := by
  cases phase <;> simp only [*] <;> rfl

theorem background? {mayCompile : Bool} (phase : Phase config source status start served site)
    (serves : start.perform (Binding.engine code) none (.compileString source) =
      (.returned status, served))
    (moved : site.background? (Binding.engine code) mayCompile = some after) :
    Phase config source status start served after := by
  simp only [Site.background?, Option.orElse_eq_or, Option.or_eq_some_iff] at moved
  obtain ((arrived | ⟨-, left⟩) | ⟨-, compiled⟩) | ⟨-, taken⟩ := moved
  · simp [Site.arrive?, Site.takeReturning?, phase.returning_eq] at arrived
  · simp only [Site.finish?, Option.map_eq_some_iff] at left
    obtain ⟨⟨finished, rest⟩, taken, rfl⟩ := left
    obtain ⟨future, next⟩ := phase.finish taken
    have delivered : rest.deliver .worker finished = rest.start .worker finished := by
      simp only [Site.deliver, Site.invoke, future]
    dsimp only
    rw [delivered]
    exact next
  · split at compiled
    · exact phase.compile? serves compiled
    · cases compiled
  · exact phase.takeUp? taken

theorem settleWithin (mayCompile : Bool) (budget : Nat)
    (phase : Phase config source status start served site)
    (serves : start.perform (Binding.engine code) none (.compileString source) =
      (.returned status, served)) :
    Phase config source status start served
      (site.settleWithin (Binding.engine code) mayCompile budget) := by
  induction budget generalizing site with
  | zero => exact phase
  | succ budget ih =>
      unfold Site.settleWithin
      split
      case h_1 => exact phase
      case h_2 after moved => exact ih (phase.background? serves moved)

/-- A future that is ready tells what the engine answered to the text. -/
theorem of_ready {outcome : CompileOutcome}
    (phase : Phase config source status start served site)
    (told : site.session.future? 0 = some (.ready outcome)) :
    outcome = .compiled status ∧ Resembles served site := by
  cases phase with
  | ready id engine session_eq resembles =>
      subst session_eq
      cases told
      exact ⟨rfl, resembles⟩
  | _ id engine session_eq =>
      subst session_eq
      cases told

end Phase

/-- A text that was submitted to a session that is ready is compiled, however its completion is
delivered. -/
theorem await_ready {config : SessionConfig} {source : String} {status : Status}
    {start served : NativeSite ν} (ready : Ready config start) (runs : config.mode = .execute)
    (serves : start.perform (Binding.engine code) none (.compileString source) =
      (.returned status, served)) :
    ∃ after, await code start.session.submitted (start.submit .caller source .future) =
        (.returned (some (.ready (.compiled status))), after) ∧
      Resembles served after := by
  have first : start.session.submitted = 0 := by
    obtain ⟨id, binding, session_eq⟩ := ready.session_eq
    rw [session_eq]
  have rested := Site.settle_rested (Binding.engine code) (start.submit .caller source .future)
  have phase : Phase config source status start served
      ((start.submit .caller source .future).settle (Binding.engine code) true) :=
    (Phase.submit ready runs).settleWithin true _ serves
  simp only [await, first]
  generalize (start.submit .caller source .future).settle (Binding.engine code) true = settled
    at rested phase
  cases phase with
  | waiting id engine session_eq =>
      subst session_eq
      cases rested.waiting
  | held id engine session_eq =>
      subst session_eq
      cases rested.held
  | compiled id engine session_eq =>
      subst session_eq
      cases rested.compiled
  | @queued host session id engine session_eq resembles =>
      have taken : Site.takeQueued? (⟨host, session⟩ : NativeSite ν) =
          some ((textJob source).answered (.returned status),
            ⟨host, { session with queue := [] }⟩) := by
        subst session_eq
        rfl
      have delivered := (resembles.takeQueued? taken).start .caller
        ((textJob source).answered (.returned status))
      subst session_eq
      exact ⟨_, rfl, delivered.record (.delivered id 1) rfl⟩
  | ready id engine session_eq resembles =>
      have told := resembles.record (.delivered id 0) rfl
      subst session_eq
      exact ⟨_, rfl, told⟩

/-- A scene in which a text is on its way and no completion is running. -/
structure Pumped (config : SessionConfig) (source : String) (status : Status)
    (start served : NativeSite ν) (scene : Scene (Shared ν) Binding) : Prop where
  phase : Phase config source status start served scene.site
  running_eq : scene.running = []
  idle : ∀ drain ∈ scene.drains, drain.running = none

variable {code} {config : SessionConfig} {source : String} {status : Status}
  {start served : NativeSite ν} {scene after : Scene (Shared ν) Binding}

theorem Pumped.move? {move : Move} (pumped : Pumped config source status start served scene)
    (serves : start.perform (Binding.engine code) none (.compileString source) =
      (.returned status, served))
    (pumps : move.pumps = true) (moved : scene.move? (Binding.engine code) move = some after) :
    Pumped config source status start served after := by
  obtain ⟨phase, running_eq, idle⟩ := pumped
  cases Scene.Moves.of_move? moved with
  | takeUp _ taken => exact ⟨phase.takeUp? taken, running_eq, idle⟩
  | compile _ compiled => exact ⟨phase.compile? serves compiled, running_eq, idle⟩
  | enqueue taken queued =>
      obtain ⟨-, next⟩ := phase.finish taken
      rw [if_pos queued] at next
      exact ⟨next, running_eq, idle⟩
  | finish taken direct =>
      obtain ⟨future, next⟩ := phase.finish taken
      rw [if_neg direct] at next
      refine ⟨next, ?_, idle⟩
      simp only [Scene.start, future, Completion.isFuture, if_true, running_eq]
  | arrive taken => simp [Site.takeReturning?, phase.returning_eq] at taken
  | beginDelivery =>
      refine ⟨phase, running_eq, ?_⟩
      intro drain member
      rcases List.mem_append.mp member with earlier | new
      · exact idle drain earlier
      · rw [List.mem_singleton.mp new]
  | deliverNext _ taken =>
      obtain ⟨future, next⟩ := phase.deliver taken
      refine ⟨next, running_eq, ?_⟩
      intro drain member
      rcases List.mem_or_eq_of_mem_set member with other | rfl
      · exact idle drain other
      · simp only [future, Completion.isFuture, if_true]
  | completeDelivery busy | giveUpDelivery busy => cases idle _ (List.mem_of_getElem? busy)
  | endDelivery =>
      exact ⟨phase.record _ rfl, running_eq,
        fun drain member => idle drain (List.mem_of_mem_eraseIdx member)⟩
  | _ => cases pumps

/-- However the worker and the callers take turns, a future that is ready tells what the engine
answered to the text, which it has compiled once. -/
theorem follow?_ready {schedule : List Move} {outcome : CompileOutcome}
    (ready : Ready config start) (runs : config.mode = .execute)
    (serves : start.perform (Binding.engine code) none (.compileString source) =
      (.returned status, served))
    (pumps : ∀ move ∈ schedule, move.pumps = true)
    (followed : (Scene.resting (start.submit .caller source .future) [] []).follow?
      (Binding.engine code) schedule = some scene)
    (told : scene.session.future? 0 = some (.ready outcome)) :
    outcome = .compiled status ∧ Resembles served scene.site := by
  have pumped : (∀ move ∈ schedule, move.pumps = true) →
      Pumped config source status start served scene := by
    apply Scene.follow?_induction (motive := fun schedule scene =>
      (∀ move ∈ schedule, move.pumps = true) → Pumped config source status start served scene)
      _ _ followed
    · intro none
      exact ⟨.submit ready runs, rfl, fun drain member => by cases member⟩
    · intro schedule move scene after before ih moved all
      exact (ih fun move member => all move (List.mem_append_left _ member)).move? serves
        (all move (by simp)) moved
  exact (pumped pumps).phase.of_ready told

end Program

end CompileSession
