import CompileSession.Proofs.Session.Ledger
import CompileSession.Session.Creation

/-!
# Sites that sessions cannot tell apart

Whatever is done at a session comes down to a few things: something is noted, the engine is asked,
units go from place to place, and futures change.  A relation between sites that these keep, and
that relates only sessions with the same units, is kept by everything that can happen at a session:
what is possible at one site is possible at the other, and ends in the same way.
-/

namespace CompileSession

variable {η σ : Type}

/-- An entry as the session that it is about knows it: without the session's number. -/
def Entry.own? (session : Nat) : Entry → Option Entry
  | .engineCall owner ticket call reply =>
    if owner = session then some (.engineCall 0 ticket call reply) else none
  | .submitted owner ticket isFuture =>
    if owner = session then some (.submitted 0 ticket isFuture) else none
  | .queued owner ticket => if owner = session then some (.queued 0 ticket) else none
  | .invoked owner ticket outcome runner =>
    if owner = session then some (.invoked 0 ticket outcome runner) else none
  | .abandoned owner ticket => if owner = session then some (.abandoned 0 ticket) else none
  | .delivered owner count => if owner = session then some (.delivered 0 count) else none
  | .event _ | .nativeCall _ _ _ => none

/-- An entry that a session makes about itself and nobody else. -/
def Entry.Uniform (entry : Nat → Entry) : Prop :=
  ∀ owner session, (entry owner).own? session = if owner = session then (entry 0).own? 0 else none

/-- Where the units of a session are, and whether it is still there. -/
structure Units where
  isOpen : Bool
  submitted : Nat
  waiting : List Job
  held : Option Job
  compiled : List FinishedJob
  returning : List FinishedJob
  queue : List FinishedJob

def Session.units (session : Session σ) : Units where
  isOpen := session.isOpen
  submitted := session.submitted
  waiting := session.waiting
  held := session.held
  compiled := session.compiled
  returning := session.returning
  queue := session.queue

namespace Site

def setUnits (units : Units) (site : Site η σ) : Site η σ :=
  { site with
    session := { site.session with
      isOpen := units.isOpen
      submitted := units.submitted
      waiting := units.waiting
      held := units.held
      compiled := units.compiled
      returning := units.returning
      queue := units.queue } }

def mapFutures (change : List (Nat × FutureState) → List (Nat × FutureState))
    (site : Site η σ) : Site η σ :=
  { site with session := { site.session with futures := change site.session.futures } }

end Site

/-- A relation between sites that is kept by all that sessions do. -/
structure Congruence (engine : Engine η σ) (Alike : Site η σ → Site η σ → Prop) : Prop where
  session {site other : Site η σ} : Alike site other →
    ∃ id futures, other.session = { site.session with id, futures }
  linking {site other : Site η σ} : Alike site other →
    other.host.dynamicLinking = site.host.dynamicLinking
  record {site other : Site η σ} (entry : Nat → Entry) : Entry.Uniform entry →
    Alike site other →
    Alike (site.record (entry site.session.id)) (other.record (entry other.session.id))
  perform {site other : Site η σ} {kind : AnswerKind} (ticket : Option Nat) (call : Call kind) :
    Alike site other →
    (other.perform engine ticket call).1 = (site.perform engine ticket call).1 ∧
      Alike (site.perform engine ticket call).2 (other.perform engine ticket call).2
  setUnits {site other : Site η σ} (units : Units) : Alike site other →
    Alike (site.setUnits units) (other.setUnits units)
  mapFutures {site other : Site η σ}
    (change : List (Nat × FutureState) → List (Nat × FutureState)) : Alike site other →
    Alike (site.mapFutures change) (other.mapFutures change)

/-- Two calls that ended in the same way, at sites that are alike, both returned or both did not. -/
theorem reply_cases {α : Type} {Alike : Site η σ → Site η σ → Prop}
    {first second : Reply α × Site η σ} (same : second.1 = first.1 ∧ Alike first.2 second.2) :
    (∃ value after final, first = (.returned value, after) ∧ second = (.returned value, final) ∧
      Alike after final) ∨
    ∃ panic after final, first = (.panicked panic, after) ∧ second = (.panicked panic, final) ∧
      Alike after final := by
  obtain ⟨reply, after⟩ := first
  obtain ⟨other, final⟩ := second
  obtain ⟨ended, alike⟩ := same
  cases ended
  cases reply with
  | returned value => exact .inl ⟨value, after, final, rfl, rfl, alike⟩
  | panicked panic => exact .inr ⟨panic, after, final, rfl, rfl, alike⟩

namespace Congruence

variable {engine : Engine η σ} {Alike : Site η σ → Site η σ → Prop} {site other : Site η σ}
  (congruence : Congruence engine Alike) (alike : Alike site other)

include congruence alike

/-- Sessions at sites that are alike agree in all but their numbers and their futures. -/
theorem agree {α : Type} (read : Session σ → α)
    (blind : ∀ session id futures, read { session with id, futures } = read session) :
    read other.session = read site.session := by
  obtain ⟨id, futures, same⟩ := congruence.session alike
  rw [same]
  exact blind ..

theorem units : other.session.units = site.session.units :=
  congruence.agree alike Session.units fun _ _ _ => rfl

theorem mode : other.session.mode = site.session.mode :=
  congruence.agree alike Session.mode fun _ _ _ => rfl

theorem delivery : other.session.delivery = site.session.delivery :=
  congruence.agree alike Session.delivery fun _ _ _ => rfl

theorem pool : other.session.pool = site.session.pool :=
  congruence.agree alike Session.pool fun _ _ _ => rfl

theorem isOpen : other.session.isOpen = site.session.isOpen :=
  congruence.agree alike Session.isOpen fun _ _ _ => rfl

theorem hasQueue : other.hasQueue = site.hasQueue := by
  simp only [Site.hasQueue, congruence.delivery alike, congruence.isOpen alike]

/-- Units go to the same places on both sides. -/
theorem change (update : Units → Units) :
    Alike (site.setUnits (update site.session.units))
      (other.setUnits (update other.session.units)) := by
  rw [congruence.units alike]
  exact congruence.setUnits _ alike

theorem log (level : Log.Level) (message : Nat → String)
    (fields : Nat → List (String × Log.Value)) :
    Alike (site.log level (message site.session.id) (fields site.session.id))
      (other.log level (message other.session.id) (fields other.session.id)) := by
  refine congruence.record (fun id => .event ⟨level, message id, fields id⟩) ?_ alike
  intro owner session
  split <;> rfl

theorem takeEngine (operation : String) :
    Alike (site.takeEngine operation) (other.takeEngine operation) :=
  congruence.log alike .debug (fun _ => "engine call")
    (fun id => [("session", .number id), ("op", .text operation)])

theorem noteStatus (operation : String) (status : Status) :
    Alike (site.noteStatus operation status) (other.noteStatus operation status) := by
  unfold Site.noteStatus
  split
  · exact congruence.log alike .warn (fun _ => "engine reported failure") (fun id =>
      [("session", .number id), ("op", .text operation), ("status", .number status.code.toInt)])
  · exact alike

theorem noteLookUp (name : String) (found : Option SymbolHandle) :
    Alike (site.noteLookUp name found) (other.noteLookUp name found) := by
  unfold Site.noteLookUp
  split
  · exact congruence.log alike .debug (fun _ => "symbol not found") (fun id =>
      [("session", .number id), ("name", .text name)])
  · exact alike

theorem noteReply {kind : AnswerKind} (call : Call kind) (reply : Reply kind.Answer) :
    Alike (site.noteReply call reply) (other.noteReply call reply) := by
  unfold Site.noteReply
  split
  case h_1 => exact alike
  case h_2 =>
    rw [congruence.mode alike]
    split
    · exact alike
    · exact congruence.log alike .warn (fun _ => "run called on an inspect-only session")
        (fun id => [("session", .number id)])
  case h_3 => exact congruence.noteStatus alike ..
  case h_4 => exact congruence.noteLookUp alike ..
  case h_5 => exact alike

theorem noteCompile (reply : Reply Status) :
    Alike (site.noteCompile reply) (other.noteCompile reply) := by
  cases reply with
  | returned => exact alike
  | panicked =>
      exact congruence.log alike .warn
        (fun id => "session " ++ toString id ++ ": engine panicked during async compile")
        (fun _ => [])

theorem notePanic : Alike site.notePanic other.notePanic :=
  congruence.log alike .warn (fun _ => "async compile completion panicked") (fun _ => [])

theorem endDelivery (count : Nat) : Alike (site.endDelivery count) (other.endDelivery count) :=
  congruence.record (fun id => .delivered id count) (fun _ _ => rfl) alike

theorem enqueue (finished : FinishedJob) :
    Alike (site.enqueue finished) (other.enqueue finished) := by
  have recorded := congruence.record (fun id => .queued id finished.ticket) (fun _ _ => rfl) alike
  exact congruence.change recorded fun units => { units with queue := units.queue ++ [finished] }

theorem reject (error : DispatchError) (job : Job) :
    Alike (site.reject error job) (other.reject error job) := by
  have logged := congruence.log alike .debug (fun id => "session " ++ toString id ++
    ": rejecting async compile: " ++ error.message) (fun _ => [])
  have delivery := congruence.delivery alike
  simp only [Site.reject, Site.session_log]
  split
  case h_1 queued =>
    split
    case h_1 => exact congruence.enqueue logged _
    case h_2 worker => cases queued.symm.trans (delivery.symm.trans worker)
  case h_2 worker =>
    split
    case h_1 queued => cases worker.symm.trans (delivery.symm.trans queued)
    case h_2 =>
      exact congruence.change logged fun units =>
        { units with returning := units.returning ++ [{ job, error := some error }] }

theorem dispatch (runner : Runner) (job : Job) :
    Alike (site.dispatch runner job) (other.dispatch runner job) := by
  have logged := congruence.log alike .debug (fun id => "session " ++ toString id ++
    ": dispatching compile (" ++ toString (Text.encode job.source).length ++ " bytes)")
    (fun _ => [])
  cases runner with
  | worker =>
      exact congruence.change logged fun units => { units with waiting := job :: units.waiting }
  | caller | messenger =>
      exact congruence.change logged fun units => { units with waiting := units.waiting ++ [job] }

theorem register (completion : Completion) :
    Alike (site.register completion) (other.register completion) := by
  have submitted : other.session.submitted = site.session.submitted :=
    congrArg Units.submitted (congruence.units alike)
  have recorded := congruence.record
    (fun id => .submitted id site.session.submitted completion.isFuture) (fun _ _ => rfl) alike
  have promised := congruence.mapFutures (fun futures =>
    if completion.isFuture then futures ++ [(site.session.submitted, .pending)] else futures)
    recorded
  have counted := congruence.change promised fun units =>
    { units with submitted := site.session.submitted + 1 }
  simp only [Site.register, submitted]
  exact counted

theorem submit (runner : Runner) (source : String) (completion : Completion) :
    Alike (site.submit runner source completion) (other.submit runner source completion) := by
  have registered := congruence.register alike completion
  have submitted : other.session.submitted = site.session.submitted :=
    congrArg Units.submitted (congruence.units alike)
  simp only [Site.submit, submitted, congruence.mode registered, congruence.pool registered]
  split
  · split
    · exact congruence.dispatch registered ..
    · exact congruence.reject registered ..
  · exact congruence.reject registered ..

theorem start (runner : Runner) (finished : FinishedJob) :
    Alike (site.start runner finished) (other.start runner finished) := by
  have recorded := congruence.record
    (fun id => .invoked id finished.ticket finished.outcome runner) (fun _ _ => rfl) alike
  unfold Site.start
  split
  · exact congruence.mapFutures _ recorded
  · exact recorded

theorem takeUp? {position : Nat} {after : Site η σ}
    (taken : site.takeUp? position = some after) :
    ∃ final, other.takeUp? position = some final ∧ Alike after final := by
  have held : other.session.held = site.session.held :=
    congrArg Units.held (congruence.units alike)
  have waiting : other.session.waiting = site.session.waiting :=
    congrArg Units.waiting (congruence.units alike)
  simp only [Site.takeUp?, held, waiting] at taken ⊢
  split at taken
  case h_1 job free found =>
    cases taken
    exact ⟨_, rfl, congruence.change (congruence.takeEngine alike "compile_async") fun units =>
      { units with waiting := units.waiting.eraseIdx position, held := some job }⟩
  case h_2 => cases taken

theorem compile? {after : Site η σ} (compiled : site.compile? engine = some after) :
    ∃ final, other.compile? engine = some final ∧ Alike after final := by
  have held : other.session.held = site.session.held :=
    congrArg Units.held (congruence.units alike)
  obtain ⟨job, found, rfl⟩ := Option.map_eq_some_iff.mp compiled
  obtain ⟨reply, performed⟩ :=
    congruence.perform (some job.ticket) (.compileString job.source) alike
  have noted := congruence.noteCompile performed
    (site.perform engine (some job.ticket) (.compileString job.source)).1
  refine ⟨_, ?_, congruence.change noted fun units => { units with
    held := none
    compiled := units.compiled ++ [job.answered
      (site.perform engine (some job.ticket) (.compileString job.source)).1] }⟩
  simp only [Site.compile?, held, found, Option.map_some, reply]
  rfl

theorem takeCompiled? {position : Nat} {finished : FinishedJob} {rest : Site η σ}
    (taken : site.takeCompiled? position = some (finished, rest)) :
    ∃ left, other.takeCompiled? position = some (finished, left) ∧ Alike rest left := by
  have compiled : other.session.compiled = site.session.compiled :=
    congrArg Units.compiled (congruence.units alike)
  simp only [Site.takeCompiled?, Option.map_eq_some_iff, Prod.mk.injEq] at taken
  obtain ⟨found, member, rfl, rfl⟩ := taken
  rw [← compiled] at member
  exact ⟨_, Option.map_eq_some_iff.mpr ⟨found, member, rfl⟩, congruence.change alike fun units =>
    { units with compiled := units.compiled.eraseIdx position }⟩

theorem takeReturning? {position : Nat} {finished : FinishedJob} {rest : Site η σ}
    (taken : site.takeReturning? position = some (finished, rest)) :
    ∃ left, other.takeReturning? position = some (finished, left) ∧ Alike rest left := by
  have returning : other.session.returning = site.session.returning :=
    congrArg Units.returning (congruence.units alike)
  simp only [Site.takeReturning?, Option.map_eq_some_iff, Prod.mk.injEq] at taken
  obtain ⟨found, member, rfl, rfl⟩ := taken
  rw [← returning] at member
  exact ⟨_, Option.map_eq_some_iff.mpr ⟨found, member, rfl⟩, congruence.change alike fun units =>
    { units with returning := units.returning.eraseIdx position }⟩

theorem takeQueued? {finished : FinishedJob} {rest : Site η σ}
    (taken : site.takeQueued? = some (finished, rest)) :
    ∃ left, other.takeQueued? = some (finished, left) ∧ Alike rest left := by
  have queue : other.session.queue = site.session.queue :=
    congrArg Units.queue (congruence.units alike)
  simp only [Site.takeQueued?, queue] at taken ⊢
  split at taken
  case h_1 => cases taken
  case h_2 first queue filled =>
    cases taken
    exact ⟨_, rfl, congruence.change alike fun units => { units with queue }⟩

theorem abandon (units : List FinishedJob) : Alike (site.abandon units) (other.abandon units) := by
  induction units generalizing site other with
  | nil => exact alike
  | cons finished units ih =>
      have recorded := congruence.record (fun id => .abandoned id finished.ticket)
        (fun _ _ => rfl) alike
      exact ih (congruence.mapFutures _ recorded)

theorem close : Alike site.close other.close := by
  have queue : other.session.queue = site.session.queue :=
    congrArg Units.queue (congruence.units alike)
  have abandoned := congruence.abandon alike site.session.queue
  simp only [Site.close, queue]
  exact congruence.change abandoned fun units => { units with isOpen := false, queue := [] }

theorem call {kind : AnswerKind} (call : Call kind) :
    (other.call engine call).1 = (site.call engine call).1 ∧
      Alike (site.call engine call).2 (other.call engine call).2 :=
  congruence.perform none call (congruence.takeEngine alike call.name)

theorem checked (call : Call .status) :
    (other.checked engine call).1 = (site.checked engine call).1 ∧
      Alike (site.checked engine call).2 (other.checked engine call).2 := by
  rcases reply_cases (congruence.call alike call) with
    ⟨status, after, final, first, second, kept⟩ | ⟨panic, after, final, first, second, kept⟩
  · simp only [Site.checked, first, second]
    exact ⟨trivial, congruence.noteStatus kept ..⟩
  · simp only [Site.checked, first, second]
    exact ⟨trivial, kept⟩

theorem noteRejection (what : String) (fields : List (String × Log.Value)) (status : Status) :
    Alike (Session.noteRejection what fields status site)
      (Session.noteRejection what fields status other) := by
  unfold Session.noteRejection
  split
  · exact congruence.log alike .warn (fun _ => "engine rejected " ++ what) (fun id =>
      ("session", .number id) :: fields ++ [("status", .number status.code.toInt)])
  · exact alike

theorem restrict :
    (Session.restrict engine other).1 = (Session.restrict engine site).1 ∧
      Alike (Session.restrict engine site).2 (Session.restrict engine other).2 := by
  have logged := congruence.log alike .debug
    (fun _ => "host lacks dynamic linking, applying " ++ staticOptions)
    (fun id => [("session", .number id)])
  unfold Session.restrict
  rw [congruence.linking alike]
  split
  · exact ⟨rfl, alike⟩
  · rcases reply_cases (congruence.perform none (.setOptions staticOptions) logged) with
      ⟨status, after, final, first, second, kept⟩ | ⟨panic, after, final, first, second, kept⟩
    · simp only [Site.idField, first, second]
      exact ⟨trivial, congruence.noteRejection kept ..⟩
    · simp only [Site.idField, first, second]
      exact ⟨trivial, kept⟩

theorem applySettings (calls : List (Call .status)) :
    (Session.applySettings engine calls other).1 = (Session.applySettings engine calls site).1 ∧
      Alike (Session.applySettings engine calls site).2
        (Session.applySettings engine calls other).2 := by
  induction calls generalizing site other with
  | nil => exact ⟨rfl, alike⟩
  | cons call rest ih =>
      rcases reply_cases (congruence.checked alike call) with
        ⟨status, after, final, first, second, kept⟩ | ⟨panic, after, final, first, second, kept⟩
      · simp only [Session.applySettings, first, second]
        split
        · exact ⟨rfl, kept⟩
        · exact ih kept
      · simp only [Session.applySettings, first, second]
        exact ⟨trivial, kept⟩

theorem applyDefinitions (calls : List (Call .done)) :
    (Session.applyDefinitions engine calls other).1 =
        (Session.applyDefinitions engine calls site).1 ∧
      Alike (Session.applyDefinitions engine calls site).2
        (Session.applyDefinitions engine calls other).2 := by
  induction calls generalizing site other with
  | nil => exact ⟨rfl, alike⟩
  | cons call rest ih =>
      rcases reply_cases (congruence.call alike call) with
        ⟨⟨⟩, after, final, first, second, kept⟩ | ⟨panic, after, final, first, second, kept⟩
      · simp only [Session.applyDefinitions, first, second]
        exact ih kept
      · simp only [Session.applyDefinitions, first, second]
        exact ⟨trivial, kept⟩

end Congruence

namespace Session

variable {engine : Engine η σ} {Alike : Site η σ → Site η σ → Prop} {host other : Host η}
  {state : σ}

/-- The site at which a session is made, before its engine is told anything. -/
def unmade (state : σ) (mode : OutputMode) (workers : UInt64) (delivery : Delivery)
    (host : Host η) : Site η σ where
  host := { host with nextSession := host.nextSession + 1 }
  session :=
    { id := host.nextSession, mode, delivery, pool := poolOf mode workers, engine := state }

/-- Sessions are made in the same way at sites that are alike. -/
theorem create_alike (congruence : Congruence engine Alike) (mode : OutputMode)
    (workers : UInt64) (delivery : Delivery)
    (alike : Alike (unmade state mode workers delivery host)
      (unmade state mode workers delivery other)) :
    (create engine state mode workers delivery other).1 =
        (create engine state mode workers delivery host).1 ∧
      Alike (create engine state mode workers delivery host).2
        (create engine state mode workers delivery other).2 := by
  unfold unmade at alike
  rcases reply_cases (congruence.perform none (.setOutputType mode) alike) with
    ⟨status, after, final, first, second, kept⟩ | ⟨panic, after, final, first, second, kept⟩
  · simp only [create, first, second]
    have noted := congruence.noteRejection kept "output mode"
      [("mode", Log.Value.word mode.text)] status
    rcases reply_cases (congruence.restrict noted) with
      ⟨⟨⟩, after, final, first, second, kept⟩ | ⟨panic, after, final, first, second, kept⟩
    · simp only [first, second]
      exact ⟨trivial, congruence.log kept .info (fun _ => "session created") (fun id =>
        [("session", .number id), ("mode", Log.Value.word mode.text),
          ("workers", .number workers.toNat), ("delivery", .word delivery.label)])⟩
    · simp only [first, second]
      exact ⟨trivial, kept⟩
  · simp only [create, first, second]
    exact ⟨trivial, kept⟩

theorem createConfigured_alike (congruence : Congruence engine Alike) (config : SessionConfig)
    (alike : Alike (unmade state config.mode config.workers config.delivery host)
      (unmade state config.mode config.workers config.delivery other)) :
    (createConfigured engine state config other).1 =
        (createConfigured engine state config host).1 ∧
      Alike (createConfigured engine state config host).2
        (createConfigured engine state config other).2 := by
  rcases reply_cases
      (create_alike congruence config.mode config.workers config.delivery alike) with
    ⟨⟨⟩, after, final, first, second, kept⟩ | ⟨panic, after, final, first, second, kept⟩
  · simp only [createConfigured, first, second]
    rcases reply_cases (congruence.applySettings kept config.settings) with
      ⟨result, after, final, first, second, kept⟩ | ⟨panic, after, final, first, second, kept⟩
    · simp only [first, second]
      cases result with
      | error => exact ⟨rfl, kept⟩
      | ok =>
          rcases reply_cases (congruence.applyDefinitions kept config.definitions) with
            ⟨⟨⟩, after, final, first, second, kept⟩ | ⟨panic, after, final, first, second, kept⟩
          · simp only [first, second]
            exact ⟨trivial, kept⟩
          · simp only [first, second]
            exact ⟨trivial, kept⟩
    · simp only [first, second]
      exact ⟨trivial, kept⟩
  · simp only [createConfigured, first, second]
    exact ⟨trivial, kept⟩

end Session

/-- What is possible at one of two sites that are alike is possible at the other. -/
theorem Congruence.move? {engine : Engine η σ} {Alike : Site η σ → Site η σ → Prop}
    (congruence : Congruence engine Alike) {scene after : Scene η σ} {site : Site η σ}
    (alike : Alike scene.site site) {move : Move}
    (moved : scene.move? engine move = some after) :
    ∃ final, Scene.move? engine { scene with site } move = some { after with site := final } ∧
      Alike after.site final := by
  simp only [Scene.move?_eq_some_iff] at moved ⊢
  have isOpen : site.session.isOpen = scene.session.isOpen := congruence.isOpen alike
  have held : site.session.held = scene.session.held :=
    congrArg Units.held (congruence.units alike)
  have free (possible : scene.engineFree = true) : { scene with site }.engineFree = true := by
    simpa only [Scene.engineFree, Scene.session, held] using possible
  cases moved with
  | ask possible others =>
      have mode : site.session.mode = scene.session.mode := congruence.mode alike
      rw [← mode]
      exact ⟨site, .ask (isOpen.trans possible) others, alike⟩
  | acquire found possible =>
      exact ⟨_, .acquire found (free possible), congruence.takeEngine alike _⟩
  | @answer position caller kind call found =>
      obtain ⟨reply, performed⟩ := congruence.perform none call alike
      rw [← reply]
      exact ⟨_, .answer found, performed⟩
  | tell found => exact ⟨_, .tell found, congruence.noteReply alike ..⟩
  | submit possible => exact ⟨_, .submit (isOpen.trans possible), congruence.submit alike ..⟩
  | takeUp possible taken =>
      obtain ⟨second, also, kept⟩ := congruence.takeUp? alike taken
      exact ⟨second, .takeUp (free possible) also, kept⟩
  | @compile job first found compiled =>
      obtain ⟨second, also, kept⟩ := congruence.compile? alike compiled
      obtain ⟨reply, -⟩ :=
        congruence.perform (some job.ticket) (.compileString job.source) alike
      have answer : { scene with site }.compileAnswer engine job =
          scene.compileAnswer engine job :=
        congrArg (Answer.mk { origin := .unit job.ticket, call := .compileString job.source })
          reply
      rw [← answer]
      exact ⟨second, .compile (held.trans found) also, kept⟩
  | @enqueue _ finished first taken queued =>
      obtain ⟨second, also, kept⟩ := congruence.takeCompiled? alike taken
      rw [← congruence.hasQueue kept] at queued
      exact ⟨_, .enqueue also queued, congruence.enqueue kept finished⟩
  | @finish _ finished first taken unqueued =>
      obtain ⟨second, also, kept⟩ := congruence.takeCompiled? alike taken
      rw [← congruence.hasQueue kept] at unqueued
      refine ⟨second.start .worker finished, ?_, congruence.start kept .worker finished⟩
      exact .finish also unqueued
  | @arrive _ finished first taken =>
      obtain ⟨second, also, kept⟩ := congruence.takeReturning? alike taken
      refine ⟨second.start .messenger finished, ?_, congruence.start kept .messenger finished⟩
      exact .arrive also
  | resubmit possible found =>
      exact ⟨_, .resubmit (isOpen.trans possible) found, congruence.submit alike ..⟩
  | complete found => exact ⟨site, .complete found, alike⟩
  | giveUp found => exact ⟨_, .giveUp found, congruence.notePanic alike⟩
  | beginDelivery possible => exact ⟨site, .beginDelivery (isOpen.trans possible), alike⟩
  | @deliverNext _ _ finished first found taken =>
      obtain ⟨second, also, kept⟩ := congruence.takeQueued? alike taken
      exact ⟨_, .deliverNext found also, congruence.start kept .caller finished⟩
  | completeDelivery found => exact ⟨site, .completeDelivery found, alike⟩
  | giveUpDelivery found => exact ⟨site, .giveUpDelivery found, alike⟩
  | endDelivery found empty =>
      have queue : site.session.queue = scene.session.queue :=
        congrArg Units.queue (congruence.units alike)
      exact ⟨_, .endDelivery found (queue.trans empty), congruence.endDelivery alike _⟩
  | dropFuture => exact ⟨_, .dropFuture, congruence.mapFutures _ alike⟩
  | close possible noOperation noDrain =>
      exact ⟨_, .close (isOpen.trans possible) noOperation noDrain, congruence.close alike⟩

end CompileSession
