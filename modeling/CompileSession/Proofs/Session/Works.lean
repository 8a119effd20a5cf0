import CompileSession.Proofs.Session.Moves
import CompileSession.Session.Creation

/-!
# What is done at a site

Whatever happens at a session, and while it is made, comes down to three things: its engine is asked
something, something is noted that has to do neither with engines nor with libraries, or the session
changes but for its number and its engine.  `Scene.move?_happened` says once when the engine is
asked and what is noted about its answers.
-/

namespace CompileSession

variable {η σ : Type}

/-- Whether an entry has to do neither with an engine nor with a library. -/
def Entry.isOwn : Entry → Bool
  | .engineCall _ _ _ _ | .nativeCall _ _ _ => false
  | _ => true

/-- Whether an entry has to do neither with engines, nor with libraries, nor with what engines have
answered. -/
def Entry.isNote : Entry → Bool
  | .event logged => (logged.fields.lookup "status").isNone
  | entry => entry.isOwn

theorem Entry.isOwn_of_isNote {entry : Entry} (note : entry.isNote = true) :
    entry.isOwn = true := by
  cases entry with
  | event logged => rfl
  | _ => exact note

/-- A session goes on without its engine. -/
inductive Site.Notes (site : Site η σ) : Site η σ → Prop where
  | refl : Notes site site
  | record {after : Site η σ} (entry : Entry) :
      Notes site after → entry.isNote = true → Notes site (after.record entry)
  | change {after : Site η σ} (session : Session σ) :
      Notes site after → session.id = after.session.id →
      session.engine = after.session.engine → Notes site { after with session }

namespace Site.Notes

variable {site after : Site η σ} (notes : Notes site after)

include notes

theorem log (level : Log.Level) (message : String) (fields : List (String × Log.Value))
    (plain : fields.lookup "status" = none) : Notes site (after.log level message fields) := by
  apply notes.record
  rw [Entry.isNote, plain]
  rfl

theorem takeEngine (operation : String) : Notes site (after.takeEngine operation) :=
  notes.log _ _ _ rfl

theorem noteLookUp (name : String) (found : Option SymbolHandle) :
    Notes site (after.noteLookUp name found) := by
  unfold Site.noteLookUp
  split
  · exact notes.log _ _ _ rfl
  · exact notes

theorem noteRefusal : Notes site after.noteRefusal :=
  notes.log _ _ _ rfl

theorem notePanic : Notes site after.notePanic :=
  notes.log _ _ _ rfl

theorem noteCompile (reply : Reply Status) : Notes site (after.noteCompile reply) := by
  cases reply with
  | returned => exact notes
  | panicked => exact notes.log _ _ _ rfl

theorem enqueue (finished : FinishedJob) : Notes site (after.enqueue finished) :=
  (notes.record (.queued after.session.id finished.ticket) rfl).change _ rfl rfl

theorem reject (error : DispatchError) (job : Job) : Notes site (after.reject error job) := by
  simp only [Site.reject]
  split
  · exact (notes.log _ _ _ rfl).enqueue _
  · exact (notes.log _ _ _ rfl).change _ rfl rfl

theorem dispatch (runner : Runner) (job : Job) : Notes site (after.dispatch runner job) :=
  (notes.log _ _ _ rfl).change _ rfl rfl

theorem submit (runner : Runner) (source : String) (completion : Completion) :
    Notes site (after.submit runner source completion) := by
  have registered : Notes site (after.register completion) :=
    (notes.record (.submitted after.session.id after.session.submitted completion.isFuture)
      rfl).change _ rfl rfl
  simp only [Site.submit]
  split
  · split
    · exact registered.dispatch ..
    · exact registered.reject ..
  · exact registered.reject ..

theorem start (runner : Runner) (finished : FinishedJob) :
    Notes site (after.start runner finished) := by
  have begun := notes.record
    (.invoked after.session.id finished.ticket finished.outcome runner) rfl
  unfold Site.start
  split
  · exact begun.change _ rfl rfl
  · exact begun

theorem takeUp? {position : Nat} {final : Site η σ}
    (taken : after.takeUp? position = some final) : Notes site final := by
  simp only [Site.takeUp?] at taken
  split at taken
  case h_1 job free found =>
    cases taken
    exact (notes.takeEngine _).change _ rfl rfl
  case h_2 => cases taken

theorem takeCompiled? {position : Nat} {finished : FinishedJob} {rest : Site η σ}
    (taken : after.takeCompiled? position = some (finished, rest)) : Notes site rest := by
  simp only [Site.takeCompiled?, Option.map_eq_some_iff, Prod.mk.injEq] at taken
  obtain ⟨found, -, -, rfl⟩ := taken
  exact notes.change _ rfl rfl

theorem takeReturning? {position : Nat} {finished : FinishedJob} {rest : Site η σ}
    (taken : after.takeReturning? position = some (finished, rest)) : Notes site rest := by
  simp only [Site.takeReturning?, Option.map_eq_some_iff, Prod.mk.injEq] at taken
  obtain ⟨found, -, -, rfl⟩ := taken
  exact notes.change _ rfl rfl

theorem takeQueued? {finished : FinishedJob} {rest : Site η σ}
    (taken : after.takeQueued? = some (finished, rest)) : Notes site rest := by
  simp only [Site.takeQueued?] at taken
  split at taken
  case h_1 => cases taken
  case h_2 =>
    cases taken
    exact notes.change _ rfl rfl

theorem endDelivery (count : Nat) : Notes site (after.endDelivery count) :=
  notes.record (.delivered after.session.id count) rfl

theorem abandon (units : List FinishedJob) : Notes site (after.abandon units) := by
  induction units generalizing after with
  | nil => exact notes
  | cons finished units ih =>
      exact ih ((notes.record (.abandoned after.session.id finished.ticket) rfl).change _ rfl rfl)

theorem close : Notes site after.close :=
  (notes.abandon _).change _ rfl rfl

end Site.Notes

/-- What can be done at a site. -/
inductive Site.Works (engine : Engine η σ) (site : Site η σ) : Site η σ → Prop where
  | refl : Works engine site site
  | record {after : Site η σ} (entry : Entry) :
      Works engine site after → entry.isOwn = true → Works engine site (after.record entry)
  | change {after : Site η σ} (session : Session σ) :
      Works engine site after → session.id = after.session.id →
      session.engine = after.session.engine → Works engine site { after with session }
  | perform {after : Site η σ} {kind : AnswerKind} (ticket : Option Nat) (call : Call kind) :
      Works engine site after → Works engine site (after.perform engine ticket call).2

namespace Site.Works

variable {engine : Engine η σ} {site middle after : Site η σ}

theorem trans (first : Works engine site middle) (second : Works engine middle after) :
    Works engine site after := by
  induction second with
  | refl => exact first
  | record entry _ own ih => exact ih.record entry own
  | change session _ id state ih => exact ih.change session id state
  | perform ticket call _ ih => exact ih.perform ticket call

variable (works : Works engine site after)

include works

/-- What is done at a site is added to the journal. -/
theorem journal_grows : site.host.journal <+: after.host.journal := by
  induction works with
  | refl => exact List.prefix_rfl
  | record entry _ _ ih => exact ih.trans (List.prefix_append ..)
  | change session _ _ _ ih => exact ih
  | perform ticket call _ ih =>
      refine ih.trans ?_
      simp only [Site.perform, List.append_assoc]
      exact List.prefix_append ..

theorem notes {final : Site η σ} (notes : after.Notes final) : Works engine site final := by
  induction notes with
  | refl => exact works
  | record entry _ note ih => exact ih.record entry (Entry.isOwn_of_isNote note)
  | change session _ id state ih => exact ih.change session id state

theorem log (level : Log.Level) (message : String) (fields : List (String × Log.Value)) :
    Works engine site (after.log level message fields) :=
  works.record _ rfl

theorem takeEngine (operation : String) : Works engine site (after.takeEngine operation) :=
  works.log ..

theorem noteStatus (operation : String) (status : Status) :
    Works engine site (after.noteStatus operation status) := by
  unfold Site.noteStatus
  split
  · exact works.log ..
  · exact works

theorem noteReply {kind : AnswerKind} (call : Call kind) (reply : Reply kind.Answer) :
    Works engine site (after.noteReply call reply) := by
  unfold Site.noteReply
  split
  case h_1 => exact works
  case h_2 =>
    split
    · exact works
    · exact works.log ..
  case h_3 => exact works.noteStatus ..
  case h_4 => exact works.notes (Notes.refl.noteLookUp ..)
  case h_5 => exact works

theorem checked (call : Call .status) : Works engine site (after.checked engine call).2 := by
  have called := (works.takeEngine call.name).perform none call
  unfold Site.checked Site.call
  split
  case h_1 status final answered =>
    rw [answered] at called
    exact called.noteStatus ..
  case h_2 panic final answered =>
    rw [answered] at called
    exact called

theorem noteRejection (what : String) (fields : List (String × Log.Value)) (status : Status) :
    Works engine site (Session.noteRejection what fields status after) := by
  unfold Session.noteRejection
  split
  · exact works.log ..
  · exact works

theorem restrict : Works engine site (Session.restrict engine after).2 := by
  unfold Session.restrict
  split
  · exact works
  · have performed := (works.log .debug ("host lacks dynamic linking, applying " ++ staticOptions)
      [after.idField]).perform none (.setOptions staticOptions)
    dsimp only
    split
    case h_1 status final answered =>
      rw [answered] at performed
      exact performed.noteRejection ..
    case h_2 panic final answered =>
      rw [answered] at performed
      exact performed

theorem applySettings (calls : List (Call .status)) :
    Works engine site (Session.applySettings engine calls after).2 := by
  induction calls generalizing after with
  | nil => exact works
  | cons call rest ih =>
      have checked := works.checked call
      unfold Session.applySettings
      split
      case h_1 panic final answered =>
        rw [answered] at checked
        exact checked
      case h_2 status final answered =>
        rw [answered] at checked
        split
        · exact checked
        · exact ih checked

theorem applyDefinitions (calls : List (Call .done)) :
    Works engine site (Session.applyDefinitions engine calls after).2 := by
  induction calls generalizing after with
  | nil => exact works
  | cons call rest ih =>
      have called := (works.takeEngine call.name).perform none call
      unfold Session.applyDefinitions Site.call
      split
      case h_1 panic final answered =>
        rw [answered] at called
        exact called
      case h_2 final answered =>
        rw [answered] at called
        exact ih called

end Site.Works

/-- What holds of all calls that apply some part of a configuration holds of all its settings. -/
theorem SessionConfig.forall_settings {P : Call .status → Prop} (config : SessionConfig)
    (every : ∀ text, P (.setLibPath text) ∧ P (.setOptions text) ∧ P (.addIncludePath text) ∧
      P (.addSysincludePath text) ∧ P (.addLibraryPath text) ∧ P (.addLibrary text)) :
    ∀ call ∈ config.settings, P call := by
  intro call member
  simp only [SessionConfig.settings, List.mem_append, Option.mem_toList, Option.map_eq_some_iff,
    List.mem_map] at member
  rcases member with (((((⟨text, -, rfl⟩ | ⟨text, -, rfl⟩) | ⟨path, -, rfl⟩) | ⟨path, -, rfl⟩) |
    ⟨path, -, rfl⟩) | ⟨name, -, rfl⟩)
  · exact (every _).1
  · exact (every _).2.1
  · exact (every _).2.2.1
  · exact (every _).2.2.2.1
  · exact (every _).2.2.2.2.1
  · exact (every _).2.2.2.2.2

namespace Session

variable (engine : Engine η σ) (state : σ) (config : SessionConfig) (host : Host η)

/-- Making a session starts at a site with a number and an engine of its own. -/
theorem create_works :
    ∃ start : Site η σ, start.session.id = host.nextSession ∧ start.session.engine = state ∧
      start.host = { host with nextSession := host.nextSession + 1 } ∧
      start.Works engine
        (create engine state config.mode config.workers config.delivery host).2 := by
  let start : Site η σ :=
    { host := { host with nextSession := host.nextSession + 1 }
      session :=
        { id := host.nextSession
          mode := config.mode
          delivery := config.delivery
          pool := poolOf config.mode config.workers
          engine := state } }
  refine ⟨start, rfl, rfl, rfl, ?_⟩
  have performed : start.Works engine (start.perform engine none (.setOutputType config.mode)).2 :=
    Site.Works.refl.perform ..
  unfold create
  dsimp only
  split
  case h_1 panic site answered =>
    rw [answered] at performed
    exact performed
  case h_2 status site answered =>
    rw [answered] at performed
    have restricted := (performed.noteRejection "output mode"
      [("mode", Log.Value.word config.mode.text)] status).restrict
    split
    case h_1 panic final done =>
      rw [done] at restricted
      exact restricted
    case h_2 final done =>
      rw [done] at restricted
      exact restricted.log ..

theorem createConfigured_works :
    ∃ start : Site η σ, start.session.id = host.nextSession ∧ start.session.engine = state ∧
      start.host = { host with nextSession := host.nextSession + 1 } ∧
      start.Works engine (createConfigured engine state config host).2 := by
  obtain ⟨start, number, own, same, created⟩ := create_works engine state config host
  refine ⟨start, number, own, same, ?_⟩
  unfold createConfigured
  split
  case h_1 panic site answered =>
    rw [answered] at created
    exact created
  case h_2 site answered =>
    rw [answered] at created
    have settled := created.applySettings config.settings
    split
    case h_1 after done =>
      rw [done] at settled
      have defined := settled.applyDefinitions config.definitions
      split
      case h_1 panic final ended =>
        rw [ended] at defined
        exact defined
      case h_2 final ended =>
        rw [ended] at defined
        exact defined
    case h_2 => exact settled

end Session

namespace Scene

/-- What can have happened between two scenes at the site and to the calls that are under way. -/
inductive Happened (engine : Engine η σ) (scene after : Scene η σ) : Prop where
  | noted : scene.site.Notes after.site → after.operations = scene.operations →
      Happened engine scene after
  | asked {caller : Nat} {kind : AnswerKind} {call : Call kind} :
      after.site = scene.site →
      after.operations =
        scene.operations ++ [{ caller, call, stage := call.opening scene.session.mode }] →
      Happened engine scene after
  | acquired {position caller : Nat} {kind : AnswerKind} {call : Call kind} :
      scene.operations[position]? = some { caller, call, stage := .waiting } →
      scene.site.Notes after.site →
      after.operations = scene.operations.set position { caller, call, stage := .owning } →
      Happened engine scene after
  | answered {position caller : Nat} {kind : AnswerKind} {call : Call kind} :
      scene.operations[position]? = some { caller, call, stage := .owning } →
      after.site = (scene.site.perform engine none call).2 →
      after.operations = scene.operations.set position
        { caller, call, stage := .answered (scene.site.perform engine none call).1 } →
      Happened engine scene after
  | told {position caller : Nat} {kind : AnswerKind} {call : Call kind}
      {reply : Reply kind.Answer} :
      scene.operations[position]? = some { caller, call, stage := .answered reply } →
      after.site = scene.site.noteReply call reply →
      after.operations = scene.operations.eraseIdx position →
      Happened engine scene after
  | compiled {job : Job} :
      (scene.site.perform engine (some job.ticket) (.compileString job.source)).2.Notes
        after.site →
      after.operations = scene.operations → Happened engine scene after

/-- Every move makes one of these things happen. -/
theorem move?_happened {engine : Engine η σ} {scene after : Scene η σ} {move : Move}
    (moved : scene.move? engine move = some after) : Happened engine scene after := by
  have nothing : scene.site.Notes scene.site := .refl
  cases Moves.of_move? moved with
  | ask => exact .asked rfl rfl
  | acquire found => exact .acquired found (nothing.takeEngine _) rfl
  | answer found => exact .answered found rfl rfl
  | tell found => exact .told found rfl rfl
  | compile _ compiled =>
      obtain ⟨unit, -, rfl⟩ := Option.map_eq_some_iff.mp compiled
      exact .compiled ((Site.Notes.refl.noteCompile _).change _ rfl rfl) rfl
  | submit | resubmit => exact .noted (nothing.submit ..) rfl
  | takeUp _ taken => exact .noted (nothing.takeUp? taken) rfl
  | enqueue taken => exact .noted ((nothing.takeCompiled? taken).enqueue _) rfl
  | finish taken => exact .noted ((nothing.takeCompiled? taken).start ..) rfl
  | arrive taken => exact .noted ((nothing.takeReturning? taken).start ..) rfl
  | deliverNext _ taken => exact .noted ((nothing.takeQueued? taken).start ..) rfl
  | giveUp => exact .noted nothing.notePanic rfl
  | complete | beginDelivery | completeDelivery | giveUpDelivery => exact .noted nothing rfl
  | endDelivery => exact .noted (nothing.endDelivery _) rfl
  | dropFuture => exact .noted (nothing.change _ rfl rfl) rfl
  | close => exact .noted nothing.close rfl

/-- Whatever happens at a session is done at its site. -/
theorem move?_works {engine : Engine η σ} {scene after : Scene η σ} {move : Move}
    (moved : scene.move? engine move = some after) : scene.site.Works engine after.site := by
  have nothing : scene.site.Works engine scene.site := .refl
  cases move?_happened moved with
  | noted notes => exact nothing.notes notes
  | asked same =>
      rw [same]
      exact nothing
  | acquired _ notes => exact nothing.notes notes
  | answered _ same =>
      rw [same]
      exact nothing.perform ..
  | told _ same =>
      rw [same]
      exact nothing.noteReply ..
  | compiled notes => exact (nothing.perform ..).notes notes

end Scene

end CompileSession
