import CompileSession.Proofs.Session.Conservation
import CompileSession.Proofs.Session.Load

/-!
# What is executed is a run

The functions that do a whole operation of a caller, deliver completions or run everything that is
due in the background do what some schedule does, from one scene in which no thread is in the middle
of anything to another.  So what holds of all runs holds of them.
-/

namespace CompileSession

variable {η σ : Type} {engine : Engine η σ}

namespace Scene

/-- The scene of a site that no thread is using, with what was done there before. -/
def resting (site : Site η σ) (calls told : List Answer) : Scene η σ :=
  { site, calls, told }

/-- The scene of a site that one caller is using. -/
def within {kind : AnswerKind} (site : Site η σ) (call : Call kind) (stage : Stage kind)
    (calls told : List Answer) : Scene η σ :=
  { site, operations := [{ caller := 0, call, stage }], calls, told }

/-- The scene of a site at which one caller has completions delivered, `count` so far. -/
def draining (site : Site η σ) (count : Nat) (calls told : List Answer) : Scene η σ :=
  { site, drains := [{ count }], calls, told }

/-- Some schedule goes from one scene to another. -/
def Reaches (engine : Engine η σ) (scene after : Scene η σ) : Prop :=
  ∃ schedule, scene.follow? engine schedule = some after

theorem Reaches.refl (scene : Scene η σ) : Reaches engine scene scene :=
  ⟨[], rfl⟩

theorem Reaches.trans {scene middle after : Scene η σ} (first : Reaches engine scene middle)
    (second : Reaches engine middle after) : Reaches engine scene after := by
  obtain ⟨schedule, followed⟩ := first
  obtain ⟨rest, continued⟩ := second
  refine ⟨schedule ++ rest, ?_⟩
  rw [follow?_append, followed]
  exact continued

theorem Reaches.move {scene after : Scene η σ} (move : Move)
    (moved : scene.move? engine move = some after) : Reaches engine scene after :=
  ⟨[move], by simp [follow?, moved]⟩

end Scene

/-- A schedule leads from one site to another, with nothing left over. -/
def Site.Leads (engine : Engine η σ) (site after : Site η σ) : Prop :=
  ∀ calls told, ∃ calls' told',
    Scene.Reaches engine (.resting site calls told) (.resting after calls' told')

namespace Site

theorem Leads.refl (site : Site η σ) : Leads engine site site :=
  fun calls told => ⟨calls, told, .refl _⟩

theorem Leads.trans {site middle after : Site η σ} (first : Leads engine site middle)
    (second : Leads engine middle after) : Leads engine site after := by
  intro calls told
  obtain ⟨calls', told', first⟩ := first calls told
  obtain ⟨calls'', told'', second⟩ := second calls' told'
  exact ⟨calls'', told'', first.trans second⟩

theorem Leads.of_reaches {site after : Site η σ}
    (reaches : ∀ calls told,
      Scene.Reaches engine (.resting site calls told) (.resting after calls told)) :
    Leads engine site after :=
  fun calls told => ⟨calls, told, reaches calls told⟩

section Operations

variable {kind : AnswerKind} (site : Site η σ) (call : Call kind)

theorem operate_of_reaches (reaches : call.refusal? site.session.mode = none) :
    site.operate engine call =
      (((site.takeEngine call.name).perform engine none call).1,
        ((site.takeEngine call.name).perform engine none call).2.noteReply call
          ((site.takeEngine call.name).perform engine none call).1) := by
  cases call
  case run argc =>
    have runs : site.session.mode.canRun = true := by
      by_contra refuses
      simp [Call.refusal?, refuses] at reaches
    simp only [operate, run, runs, if_true, Site.call]
    generalize performed : (site.takeEngine _).perform engine none (Call.run argc) = result
    obtain ⟨reply, after⟩ := result
    have mode : after.session.mode = site.session.mode := by
      have := congrArg (·.2.session.mode) performed
      exact this.symm
    cases reply with
    | returned status => simp [noteReply, mode, runs]
    | panicked panic => rfl
  all_goals
    simp only [operate, checked, lookUp, takeDiagnostics, Site.call]
    generalize (site.takeEngine _).perform engine none _ = result
    obtain ⟨reply, after⟩ := result
    cases reply <;> rfl

theorem operate_of_refused {own : kind.Answer}
    (refused : call.refusal? site.session.mode = some own) :
    site.operate engine call = (.returned own, site.noteReply call (.returned own)) := by
  cases call
  case run argc =>
    cases runs : site.session.mode.canRun with
    | true => simp [Call.refusal?, runs] at refused
    | false =>
        obtain rfl : Status.failed = own := by simpa [Call.refusal?, runs] using refused
        simp [operate, run, noteReply, runs]
  all_goals cases refused

/-- An operation is to ask, to wait for the engine if the call reaches it, and to be told; the
caller is told what the operation returns. -/
theorem operate_reaches (isOpen : site.session.isOpen = true) (free : site.session.held = none)
    (calls told : List Answer) :
    ∃ calls', Scene.Reaches engine (.resting site calls told)
      (.resting (site.operate engine call).2 calls'
        (told ++ [{ origin := .caller 0, call, reply := (site.operate engine call).1 }])) := by
  have asked : (Scene.resting site calls told).move? engine (.ask 0 call) =
      some (.within site call (call.opening site.session.mode) calls told) := by
    simp [Scene.move?, Scene.ask?, Scene.resting, Scene.within, Scene.session, isOpen]
  cases own : call.refusal? site.session.mode with
  | none =>
      have opening : call.opening site.session.mode = .waiting := by simp [Call.opening, own]
      have acquired : (Scene.within site call .waiting calls told).move? engine (.acquire 0) =
          some (.within (site.takeEngine call.name) call .owning calls told) := by
        simp [Scene.move?, Scene.acquire?, Scene.within, Scene.engineFree, Scene.session, free,
          Operation.owns]
      rw [operate_of_reaches site call own]
      rw [opening] at asked
      exact ⟨_, (Scene.Reaches.move _ asked).trans
        ((Scene.Reaches.move _ acquired).trans
          ((Scene.Reaches.move (.answer 0) rfl).trans
            (.move (.tell 0) rfl)))⟩
  | some reply =>
      have opening : call.opening site.session.mode = .answered (.returned reply) := by
        simp [Call.opening, own]
      rw [operate_of_refused site call own]
      rw [opening] at asked
      exact ⟨calls, (Scene.Reaches.move _ asked).trans (.move (.tell 0) rfl)⟩

end Operations

section Completions

variable (site : Site η σ) (runner : Runner)

/-- Where every single submission is a move, so are all of them together. -/
theorem submitAll_reaches (scene : Scene η σ) (units : List (String × Completion))
    (isOpen : site.session.isOpen = true)
    (submits : ∀ (site : Site η σ) (source : String) (completion : Completion),
      site.session.isOpen = true → ∃ move, { scene with site }.move? engine move =
        some { scene with site := site.submit runner source completion }) :
    Scene.Reaches engine { scene with site }
      { scene with site := site.submitAll runner units } := by
  induction units generalizing site with
  | nil => exact .refl _
  | cons unit rest ih =>
      obtain ⟨move, moved⟩ := submits site unit.1 unit.2 isOpen
      exact (Scene.Reaches.move _ moved).trans
        (ih (site.submit runner unit.1 unit.2) ((undisturbed_submit ..).isOpen.trans isOpen))

theorem submitAll_leads (units : List (String × Completion))
    (isOpen : site.session.isOpen = true) :
    Leads engine site (site.submitAll .caller units) := by
  apply Leads.of_reaches
  intro calls told
  apply submitAll_reaches site .caller (.resting site calls told) units isOpen
  intro site source completion isOpen
  exact ⟨.submit source completion, by simp [Scene.move?, Scene.session, isOpen]⟩

/-- The completion that has begun submits its units, and then ends. -/
theorem callback_reaches (ticket : Nat) (resubmissions : List (String × Completion))
    (panics : Bool) (calls told : List Answer) :
    Scene.Reaches engine
      { Scene.resting site calls told with running := [{ ticket, runner }] }
      (.resting
        (let done := if site.session.isOpen then site.submitAll runner resubmissions else site
          if panics then done.notePanic else done) calls told) := by
  let scene : Scene η σ :=
    { Scene.resting site calls told with running := [{ ticket, runner }] }
  have submitted : Scene.Reaches engine scene { scene with
      site := if site.session.isOpen then site.submitAll runner resubmissions else site } := by
    split
    case isTrue isOpen =>
      apply submitAll_reaches site runner scene resubmissions isOpen
      intro site source completion isOpen
      exact ⟨.resubmit 0 source completion, by
        simp [Scene.move?, Scene.resubmit?, Scene.session, isOpen, scene]⟩
    case isFalse => exact .refl _
  refine submitted.trans (.move (.complete 0 panics) ?_)
  cases panics <;> rfl

/-- A completion that begins away from the callers is delivered in the end. -/
theorem deliver_reaches (finished : FinishedJob) (calls told : List Answer) :
    Scene.Reaches engine ((Scene.resting site calls told).start runner finished)
      (.resting (site.deliver runner finished) calls told) := by
  cases way : finished.job.completion with
  | future =>
      have delivered : site.deliver runner finished = site.start runner finished := by
        simp [deliver, invoke, way]
      have started : (Scene.resting site calls told).start runner finished =
          .resting (site.start runner finished) calls told := by
        simp [Scene.start, Scene.resting, Completion.isFuture, way]
      rw [delivered, started]
      exact .refl _
  | callback resubmissions panics =>
      have started : (Scene.resting site calls told).start runner finished =
          { Scene.resting (site.start runner finished) calls told with
            running := [{ ticket := finished.ticket, runner }] } := by
        simp [Scene.start, Scene.resting, Completion.isFuture, way]
      have delivered : site.deliver runner finished =
          (let begun := site.start runner finished
            let done :=
              if begun.session.isOpen then begun.submitAll runner resubmissions else begun
            if panics then done.notePanic else done) := by
        simp only [deliver, invoke, way]
        cases panics <;> rfl
      rw [delivered, started]
      exact callback_reaches _ runner finished.ticket resubmissions panics calls told

end Completions

section Background

variable (site : Site η σ)

theorem arrive?_leads {position : Nat} {site after : Site η σ}
    (arrived : site.arrive? position = some after) : Leads engine site after := by
  obtain ⟨⟨finished, rest⟩, taken, rfl⟩ := Option.map_eq_some_iff.mp arrived
  apply Leads.of_reaches
  intro calls told
  have begun : (Scene.resting site calls told).move? engine (.arrive position) =
      some ((Scene.resting rest calls told).start .messenger finished) := by
    simp [Scene.move?, Scene.arrive?, Scene.resting, taken]
  exact (Scene.Reaches.move _ begun).trans (deliver_reaches rest .messenger finished calls told)

theorem finish?_leads {position : Nat} {site after : Site η σ}
    (left : site.finish? position = some after) : Leads engine site after := by
  obtain ⟨⟨finished, rest⟩, taken, rfl⟩ := Option.map_eq_some_iff.mp left
  apply Leads.of_reaches
  intro calls told
  cases queued : rest.hasQueue with
  | true =>
      apply Scene.Reaches.move (.finish position)
      simp [Scene.move?, Scene.finish?, Scene.resting, taken, queued]
  | false =>
      have begun : (Scene.resting site calls told).move? engine (.finish position) =
          some ((Scene.resting rest calls told).start .worker finished) := by
        simp [Scene.move?, Scene.finish?, Scene.resting, taken, queued]
      simp only [queued, Bool.false_eq_true, if_false]
      exact (Scene.Reaches.move _ begun).trans (deliver_reaches rest .worker finished calls told)

theorem compile?_leads {site after : Site η σ} (compiled : site.compile? engine = some after) :
    Leads engine site after := by
  intro calls told
  obtain ⟨job, held, -⟩ := Option.map_eq_some_iff.mp compiled
  let scene : Scene η σ := .resting site calls told
  refine ⟨calls ++ [scene.compileAnswer engine job], told, .move .compile ?_⟩
  simp [Scene.move?, Scene.compile?, Scene.session, Scene.resting, held, compiled, scene]

theorem takeUp?_leads {position : Nat} {site after : Site η σ}
    (taken : site.takeUp? position = some after) : Leads engine site after := by
  have free : site.session.held = none := by
    simp only [takeUp?] at taken
    split at taken
    case h_1 held _ => exact held
    case h_2 => cases taken
  apply Leads.of_reaches
  intro calls told
  apply Scene.Reaches.move (.takeUp position)
  simp [Scene.move?, Scene.takeUp?, Scene.engineFree, Scene.session, Scene.resting, free, taken]

theorem background?_leads {mayCompile : Bool} {site after : Site η σ}
    (moved : site.background? engine mayCompile = some after) : Leads engine site after := by
  simp only [background?, Option.orElse_eq_or, Option.or_eq_some_iff] at moved
  obtain ((arrived | ⟨-, left⟩) | ⟨-, compiled⟩) | ⟨-, taken⟩ := moved
  · exact arrive?_leads arrived
  · exact finish?_leads left
  · split at compiled
    · exact compile?_leads compiled
    · cases compiled
  · exact takeUp?_leads taken

/-- Whatever is run in the background is what some schedule does. -/
theorem settleWithin_leads (mayCompile : Bool) (budget : Nat) :
    Leads engine site (site.settleWithin engine mayCompile budget) := by
  induction budget generalizing site with
  | zero => exact .refl site
  | succ budget ih =>
      unfold settleWithin
      split
      case h_1 => exact .refl site
      case h_2 after moved => exact (background?_leads moved).trans (ih after)

theorem settle_leads (mayCompile : Bool) : Leads engine site (site.settle engine mayCompile) :=
  settleWithin_leads site mayCompile _

theorem settle_quiet (calls told : List Answer) :
    (Scene.resting (site.settle engine true) calls told).Quiet engine := by
  obtain ⟨waiting, held, compiled, returning⟩ := settle_rested engine site
  intro move background
  cases move with
  | takeUp position =>
      simp [Scene.move?, Scene.takeUp?, takeUp?, Scene.resting, held, waiting]
  | compile => simp [Scene.move?, Scene.compile?, Scene.session, Scene.resting, held]
  | finish position =>
      simp [Scene.move?, Scene.finish?, takeCompiled?, Scene.resting, compiled]
  | arrive position =>
      simp [Scene.move?, Scene.arrive?, takeReturning?, Scene.resting, returning]
  | ask | acquire | answer | tell | submit | resubmit | complete | beginDelivery | deliverNext
  | completeDelivery | endDelivery | dropFuture | close => cases background

end Background

section Delivering

variable (site : Site η σ)

theorem deliverNext?_eq_none {site : Site η σ} (nothing : site.deliverNext? = none) :
    site.session.queue = [] := by
  cases queue : site.session.queue with
  | nil => rfl
  | cons finished rest => simp [deliverNext?, takeQueued?, queue] at nothing

theorem beginDelivery_reaches (isOpen : site.session.isOpen = true) (calls told : List Answer) :
    Scene.Reaches engine (.resting site calls told) (.draining site 0 calls told) := by
  apply Scene.Reaches.move .beginDelivery
  simp [Scene.move?, Scene.session, Scene.resting, Scene.draining, isOpen]

theorem endDelivery_reaches (empty : site.session.queue = []) (count : Nat)
    (calls told : List Answer) :
    Scene.Reaches engine (.draining site count calls told)
      (.resting (site.endDelivery count) calls told) := by
  apply Scene.Reaches.move (.endDelivery 0)
  simp [Scene.move?, Scene.endDelivery?, Scene.session, Scene.resting, Scene.draining, empty]

/-- The completion that begins next is run to its end, or gives up together with the caller. -/
theorem deliverNext?_reaches {site after : Site η σ} {reply : Reply Unit}
    (delivered : site.deliverNext? = some (reply, after)) (count : Nat)
    (calls told : List Answer) :
    Scene.Reaches engine (.draining site count calls told)
      (match reply with
        | .returned () => .draining after (count + 1) calls told
        | .panicked _ => .resting after calls told) := by
  obtain ⟨⟨finished, rest⟩, taken, invoked⟩ := Option.map_eq_some_iff.mp delivered
  dsimp only [invoke] at invoked
  cases way : finished.job.completion with
  | future =>
      rw [way] at invoked
      obtain ⟨rfl, rfl⟩ := Prod.mk.inj invoked
      apply Scene.Reaches.move (.deliverNext 0)
      simp [Scene.move?, Scene.deliverNext?, Scene.draining, taken, Completion.isFuture, way]
  | callback resubmissions panics =>
      rw [way] at invoked
      let running : Site η σ → Scene η σ := fun site =>
        { Scene.resting site calls told with
          drains := [{ count, running := some finished.ticket }] }
      have begun : (Scene.draining site count calls told).move? engine (.deliverNext 0) =
          some (running (rest.start .caller finished)) := by
        simp [Scene.move?, Scene.deliverNext?, Scene.draining, taken, Completion.isFuture, way,
          running, Scene.resting]
      have submitted (begun : Site η σ) : Scene.Reaches engine (running begun)
          (running (if begun.session.isOpen then begun.submitAll .caller resubmissions
            else begun)) := by
        split
        case isTrue isOpen =>
          apply submitAll_reaches begun .caller (running begun) resubmissions isOpen
          intro site source completion isOpen
          exact ⟨.submit source completion, by simp [Scene.move?, Scene.session, isOpen]⟩
        case isFalse => exact .refl _
      refine (Scene.Reaches.move _ begun).trans ((submitted _).trans ?_)
      cases panics with
      | false =>
          obtain ⟨rfl, rfl⟩ := Prod.mk.inj invoked
          exact .move (.completeDelivery 0 false) rfl
      | true =>
          obtain ⟨rfl, rfl⟩ := Prod.mk.inj invoked
          exact .move (.completeDelivery 0 true) rfl

/-- A budget of the queue's load is enough: what a caller has delivered is what some schedule
delivers until the queue is empty or a completion gives up. -/
theorem deliverRest_reaches (budget count : Nat)
    (enough : FinishedJob.load site.session.queue ≤ budget) (calls told : List Answer) :
    Scene.Reaches engine (.draining site count calls told)
      (.resting (site.deliverRest budget count).2 calls told) := by
  induction budget generalizing site count with
  | zero =>
      have few := FinishedJob.length_le_load site.session.queue
      have empty : site.session.queue = [] := List.eq_nil_of_length_eq_zero (by omega)
      exact endDelivery_reaches site empty count calls told
  | succ budget ih =>
      unfold deliverRest
      split
      case h_1 nothing =>
        exact endDelivery_reaches site (deliverNext?_eq_none nothing) count calls told
      case h_2 panic after delivered => exact deliverNext?_reaches delivered count calls told
      case h_3 after delivered =>
        have less := load_deliverNext? delivered
        exact (deliverNext?_reaches delivered count calls told).trans
          (ih after (count + 1) (by omega))

theorem deliverCompletions_leads (isOpen : site.session.isOpen = true) :
    Leads engine site site.deliverCompletions.2 :=
  .of_reaches fun calls told =>
    (beginDelivery_reaches site isOpen calls told).trans
      (deliverRest_reaches site _ 0 (Nat.le_refl _) calls told)

theorem deliverCompletionsTimeout_leads (isOpen : site.session.isOpen = true) :
    Leads engine site site.deliverCompletionsTimeout.2 := by
  apply Leads.of_reaches
  intro calls told
  apply (beginDelivery_reaches site isOpen calls told).trans
  unfold deliverCompletionsTimeout
  split
  case h_1 nothing =>
    exact endDelivery_reaches site (deliverNext?_eq_none nothing) 0 calls told
  case h_2 panic after delivered => exact deliverNext?_reaches delivered 0 calls told
  case h_3 after delivered =>
    exact (deliverNext?_reaches delivered 0 calls told).trans
      (deliverRest_reaches after _ 1 (Nat.le_refl _) calls told)

end Delivering

theorem close_leads (site : Site η σ) (isOpen : site.session.isOpen = true) :
    Leads engine site site.close :=
  .of_reaches fun calls told => .move .close (by
    simp [Scene.move?, Scene.close?, Scene.resting, Scene.session, isOpen])

end Site

end CompileSession
