import CompileSession.Proofs.Session.Ledger
import CompileSession.Session.Creation
import Mathlib.Data.List.Induction

/-!
# Runs from a fresh session

A run follows a schedule from the scene in which a session has just been made and nobody uses it
yet.  What every move keeps holds at the end of every run.
-/

namespace CompileSession

variable {η σ : Type}

/-- Nothing was done with a session yet. -/
structure Site.Fresh (site : Site η σ) : Prop where
  unused : site.session =
    { id := site.session.id
      mode := site.session.mode
      delivery := site.session.delivery
      pool := site.session.pool
      engine := site.session.engine }
  noInvocation : site.host.journal.invocations site.session.id = []
  noAbandonment : site.host.journal.abandonments site.session.id = []

namespace Scene

/-- The scene of a site that no thread is using. -/
def idle (site : Site η σ) : Scene η σ :=
  { site }

theorem follow?_append (engine : Engine η σ) (scene : Scene η σ) (first second : List Move) :
    scene.follow? engine (first ++ second) =
      (scene.follow? engine first).bind (·.follow? engine second) :=
  List.foldlM_append

theorem follow?_concat {engine : Engine η σ} {start finish : Scene η σ} {schedule : List Move}
    {move : Move} :
    start.follow? engine (schedule ++ [move]) = some finish ↔
      ∃ scene, start.follow? engine schedule = some scene ∧
        scene.move? engine move = some finish := by
  simp [follow?, Option.bind_eq_some_iff]

/-- What holds at the start and is kept by every move that a run makes holds at its end. -/
theorem follow?_induction {engine : Engine η σ} {start : Scene η σ}
    {motive : List Move → Scene η σ → Prop} (begins : motive [] start)
    (keeps : ∀ {schedule : List Move} {move : Move} {scene after : Scene η σ},
      start.follow? engine schedule = some scene → motive schedule scene →
        scene.move? engine move = some after → motive (schedule ++ [move]) after)
    {schedule : List Move} {finish : Scene η σ}
    (followed : start.follow? engine schedule = some finish) :
    motive schedule finish := by
  induction schedule using List.reverseRecOn generalizing finish with
  | nil =>
      cases followed
      exact begins
  | append_singleton schedule move ih =>
      obtain ⟨scene, before, moved⟩ := follow?_concat.mp followed
      exact keeps before (ih before) moved

/-- What every step of the ledger keeps holds of the ledger at the end of a run. -/
theorem follow?_ledger {engine : Engine η σ} {start finish : Scene η σ} {schedule : List Move}
    {motive : Ledger → Prop} (begins : motive start.ledger)
    (keeps : ∀ {move : Move} {ledger after : Ledger},
      motive ledger → ledger.Step move after → motive after)
    (followed : start.follow? engine schedule = some finish) :
    motive finish.ledger :=
  follow?_induction (motive := fun _ scene => motive scene.ledger) begins
    (fun _ kept moved => keeps kept (ledger_move? moved)) followed

end Scene

namespace Ledger

/-- The ledger of a session with which nothing was done yet. -/
def blank (setup : Setup) : Ledger where
  setup
  isOpen := true
  submitted := 0
  waiting := []
  held := none
  compiled := []
  returning := []
  queue := []
  invocations := []
  abandonments := []
  compiles := []

end Ledger

theorem Site.Fresh.ledger_idle {site : Site η σ} (fresh : site.Fresh) :
    (Scene.idle site).ledger = Ledger.blank (Scene.idle site).ledger.setup := by
  obtain ⟨unused, noInvocation, noAbandonment⟩ := fresh
  simp only [Scene.ledger, Scene.idle, Site.ledger, Ledger.blank, noInvocation, noAbandonment,
    List.filter_nil]
  rw [unused]

namespace Site.Fresh

variable {site : Site η σ}

theorem of_ledger_eq {after : Site η σ} (fresh : site.Fresh)
    (session : ∃ state, after.session = { site.session with engine := state })
    (ledger : after.ledger [] = site.ledger []) : after.Fresh := by
  obtain ⟨state, session⟩ := session
  refine ⟨?_, ?_, ?_⟩
  · rw [session, fresh.unused]
  · exact (congrArg Ledger.invocations ledger).trans fresh.noInvocation
  · exact (congrArg Ledger.abandonments ledger).trans fresh.noAbandonment

theorem log (fresh : site.Fresh) (level : Log.Level) (message : String)
    (fields : List (String × Log.Value)) : (site.log level message fields).Fresh :=
  fresh.of_ledger_eq ⟨_, rfl⟩ (ledger_log ..)

theorem perform (fresh : site.Fresh) (engine : Engine η σ) {kind : AnswerKind}
    (ticket : Option Nat) (call : Call kind) : (site.perform engine ticket call).2.Fresh :=
  fresh.of_ledger_eq ⟨_, rfl⟩ (ledger_perform ..)

theorem noteRejection (fresh : site.Fresh) (what : String)
    (fields : List (String × Log.Value)) (status : Status) :
    (Session.noteRejection what fields status site).Fresh := by
  unfold Session.noteRejection
  split
  · exact fresh.log ..
  · exact fresh

theorem restrict (fresh : site.Fresh) (engine : Engine η σ) :
    (Session.restrict engine site).2.Fresh := by
  unfold Session.restrict
  split
  · exact fresh
  · have performed := (fresh.log .debug ("host lacks dynamic linking, applying " ++ staticOptions)
      [site.idField]).perform engine none (.setOptions staticOptions)
    dsimp only
    split
    case h_1 status after answered =>
      rw [answered] at performed
      exact performed.noteRejection ..
    case h_2 panic after answered =>
      rw [answered] at performed
      exact performed

end Site.Fresh

/-- A session is fresh when it has been made, if the journal does not know its number yet. -/
theorem Session.create_fresh {engine : Engine η σ} {state : σ} {mode : OutputMode}
    {workers : UInt64} {delivery : Delivery} {host : Host η} {site : Site η σ}
    (noInvocation : host.journal.invocations host.nextSession = [])
    (noAbandonment : host.journal.abandonments host.nextSession = [])
    (created : Session.create engine state mode workers delivery host = (.returned (), site)) :
    site.Fresh := by
  let start : Site η σ :=
    { host := { host with nextSession := host.nextSession + 1 }
      session :=
        { id := host.nextSession, mode, delivery, pool := poolOf mode workers, engine := state } }
  have started : start.Fresh := ⟨rfl, noInvocation, noAbandonment⟩
  have performed := started.perform engine none (.setOutputType mode)
  simp only [Session.create] at created
  split at created
  case h_1 => cases created
  case h_2 status after answered =>
    rw [answered] at performed
    have noted := performed.noteRejection "output mode" [("mode", Log.Value.word mode.text)] status
    have restricted := noted.restrict engine
    split at created
    case h_1 => cases created
    case h_2 final answered =>
      cases created
      rw [answered] at restricted
      exact restricted.log ..

/-- An engine that is content with everything. -/
def Engine.content : Engine Unit Unit where
  perform {kind} _ state machine :=
    let reply : Reply kind.Answer := match kind with
      | .status => .returned .ok
      | .done => .returned ()
      | .lookup => .returned none
      | .messages => .returned []
    (reply, state, machine)

/-- A new session with two workers on an empty machine. -/
def Site.sample (mode : OutputMode) (delivery : Delivery) : Site Unit Unit where
  host := { memory := .zeroed 0, shared := () }
  session := { id := 1, mode, delivery, pool := poolOf mode 2, engine := () }

end CompileSession
