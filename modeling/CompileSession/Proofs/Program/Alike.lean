import CompileSession.Proofs.Program.Footprint

/-!
# Sites that are alike

Two sites are alike if their engines are the same and work on the same.  Whatever is done at both
in the same way has the same answers and makes the same native calls, however the sessions deliver
completions and whatever was logged.
-/

namespace CompileSession.Program

open Native

variable {ν : Type}

/-- Two sites with the same engine, and what their journals tell of native calls: the same behind
what each began with. -/
structure Alike (first second : List Exchange) (site other : NativeSite ν) : Prop where
  engine_eq : site.session.engine = other.session.engine
  plant_eq : plant site.host.toMachine = plant other.host.toMachine
  mode_eq : site.session.mode = other.session.mode
  linking_eq : site.host.dynamicLinking = other.host.dynamicLinking
  exchanges_eq : ∃ made, exchanges site.host.journal = first ++ made ∧
    exchanges other.host.journal = second ++ made

/-- Two endings with the same native calls behind what each began with. -/
def Abreast {α β : Type} (first second : List Exchange) (ending : Ending ν α)
    (other : Ending ν β) : Prop :=
  ∃ made, exchanges ending.2.journal = first ++ made ∧ exchanges other.2.journal = second ++ made

namespace Alike

variable {first second third : List Exchange} {site other another : NativeSite ν}

theorem refl (site : NativeSite ν) :
    Alike (exchanges site.host.journal) (exchanges site.host.journal) site site where
  engine_eq := rfl
  plant_eq := rfl
  mode_eq := rfl
  linking_eq := rfl
  exchanges_eq := ⟨[], (List.append_nil _).symm, (List.append_nil _).symm⟩

theorem symm (alike : Alike first second site other) : Alike second first other site where
  engine_eq := alike.engine_eq.symm
  plant_eq := alike.plant_eq.symm
  mode_eq := alike.mode_eq.symm
  linking_eq := alike.linking_eq.symm
  exchanges_eq := by
    obtain ⟨made, left, right⟩ := alike.exchanges_eq
    exact ⟨made, right, left⟩

theorem trans (alike : Alike first second site other) (more : Alike second third other another) :
    Alike first third site another where
  engine_eq := alike.engine_eq.trans more.engine_eq
  plant_eq := alike.plant_eq.trans more.plant_eq
  mode_eq := alike.mode_eq.trans more.mode_eq
  linking_eq := alike.linking_eq.trans more.linking_eq
  exchanges_eq := by
    obtain ⟨made, left, middle⟩ := alike.exchanges_eq
    obtain ⟨same, again, right⟩ := more.exchanges_eq
    obtain rfl : made = same := List.append_cancel_left (middle.symm.trans again)
    exact ⟨made, left, right⟩

theorem record (alike : Alike first second site other) (entry : Entry)
    (quiet : Exchange.ofEntry? entry = none) : Alike first second site (other.record entry) where
  engine_eq := alike.engine_eq
  plant_eq := alike.plant_eq
  mode_eq := alike.mode_eq
  linking_eq := alike.linking_eq
  exchanges_eq := by
    obtain ⟨made, left, right⟩ := alike.exchanges_eq
    refine ⟨made, left, Eq.trans ?_ right⟩
    exact (exchanges_append ..).trans (by simp [exchanges, quiet])

theorem withSession (alike : Alike first second site other) {session : Session Binding}
    (engine_eq : session.engine = other.session.engine)
    (mode_eq : session.mode = other.session.mode) :
    Alike first second site { other with session } where
  engine_eq := alike.engine_eq.trans engine_eq.symm
  plant_eq := alike.plant_eq
  mode_eq := alike.mode_eq.trans mode_eq.symm
  linking_eq := alike.linking_eq
  exchanges_eq := alike.exchanges_eq

theorem log (alike : Alike first second site other) (level : Log.Level) (message : String)
    (fields : List (String × Log.Value)) :
    Alike first second site (other.log level message fields) :=
  alike.record _ rfl

theorem submit (alike : Alike first second site other) (runner : Runner) (source : String)
    (completion : Completion) :
    Alike first second site (other.submit runner source completion) := by
  have registered : Alike first second site (other.register completion) :=
    (alike.record (.submitted _ _ _) rfl).withSession rfl rfl
  have rejected (error : DispatchError) (job : Job) :
      Alike first second site ((other.register completion).reject error job) := by
    unfold Site.reject
    dsimp only
    split
    · exact ((registered.log ..).record (.queued _ _) rfl).withSession rfl rfl
    · exact (registered.log ..).withSession rfl rfl
  unfold Site.submit
  dsimp only
  split
  · split
    · exact (registered.log ..).withSession rfl rfl
    · exact rejected ..
  · exact rejected ..

theorem takeCompiled? (alike : Alike first second site other) {position : Nat}
    {finished : FinishedJob} {rest : NativeSite ν}
    (taken : other.takeCompiled? position = some (finished, rest)) :
    Alike first second site rest := by
  simp only [Site.takeCompiled?, Option.map_eq_some_iff, Prod.mk.injEq] at taken
  obtain ⟨found, -, -, rfl⟩ := taken
  exact alike.withSession rfl rfl

theorem takeQueued? (alike : Alike first second site other) {finished : FinishedJob}
    {rest : NativeSite ν} (taken : other.takeQueued? = some (finished, rest)) :
    Alike first second site rest := by
  simp only [Site.takeQueued?] at taken
  split at taken
  case h_1 => cases taken
  case h_2 =>
    cases taken
    exact alike.withSession rfl rfl

theorem enqueue (alike : Alike first second site other) (finished : FinishedJob) :
    Alike first second site (other.enqueue finished) :=
  (alike.record (.queued _ _) rfl).withSession rfl rfl

theorem start (alike : Alike first second site other) (runner : Runner) (finished : FinishedJob) :
    Alike first second site (other.start runner finished) := by
  have invoked :=
    alike.record (.invoked other.session.id finished.ticket finished.outcome runner) rfl
  unfold Site.start
  dsimp only
  split
  · exact invoked.withSession rfl rfl
  · exact invoked

theorem logBoth (alike : Alike first second site other) (level : Log.Level)
    (message text : String) (fields others : List (String × Log.Value)) :
    Alike first second (site.log level message fields) (other.log level text others) :=
  ((alike.log level text others).symm.log level message fields).symm

theorem noteStatus (alike : Alike first second site other) (operation : String)
    (status : Status) :
    Alike first second (site.noteStatus operation status) (other.noteStatus operation status) := by
  unfold Site.noteStatus
  split
  · exact alike.logBoth ..
  · exact alike

theorem noteRejection (alike : Alike first second site other) (what : String)
    (fields : List (String × Log.Value)) (status : Status) :
    Alike first second (Session.noteRejection what fields status site)
      (Session.noteRejection what fields status other) := by
  unfold Session.noteRejection
  split
  · exact alike.logBoth ..
  · exact alike

variable (code : ForeignCode ν)

theorem perform (alike : Alike first second site other) (ticket another : Option Nat)
    {kind : AnswerKind} (call : Call kind) :
    ∃ answer after later,
      site.perform (Binding.engine code) ticket call = (.returned answer, after) ∧
      other.perform (Binding.engine code) another call = (.returned answer, later) ∧
      Alike first second after later := by
  obtain ⟨after, performed, makes, plant_eq⟩ := perform_makes code ticket call site
  obtain ⟨later, performedToo, makesToo, plantToo⟩ := perform_makes code another call other
  have same : translation code call site = translation code call other := by
    rw [translation, translation, alike.engine_eq, alike.plant_eq]
  rw [← same] at performedToo makesToo plantToo
  refine ⟨_, after, later, performed, performedToo, ?_⟩
  constructor
  case engine_eq => rw [makes.binding_eq, makesToo.binding_eq, alike.engine_eq]
  case plant_eq => rw [plant_eq, plantToo]
  case mode_eq => rw [makes.session_eq, makesToo.session_eq, alike.mode_eq]
  case linking_eq => rw [makes.linking_eq, makesToo.linking_eq, alike.linking_eq]
  case exchanges_eq =>
    obtain ⟨made, left, right⟩ := alike.exchanges_eq
    refine ⟨made ++ (translation code call site).2.1, ?_, ?_⟩
    · rw [makes.exchanges_eq, left, List.append_assoc]
    · rw [makesToo.exchanges_eq, right, List.append_assoc]

theorem call (alike : Alike first second site other) {kind : AnswerKind} (call : Call kind) :
    ∃ answer after later, site.call (Binding.engine code) call = (.returned answer, after) ∧
      other.call (Binding.engine code) call = (.returned answer, later) ∧
      Alike first second after later :=
  (alike.logBoth ..).perform code none none call

theorem checked (alike : Alike first second site other) (call : Call .status) :
    ∃ status after later, site.checked (Binding.engine code) call = (.returned status, after) ∧
      other.checked (Binding.engine code) call = (.returned status, later) ∧
      Alike first second after later := by
  obtain ⟨status, after, later, called, calledToo, same⟩ := alike.call code call
  refine ⟨status, _, _, ?_, ?_, same.noteStatus call.name status⟩
  · simp only [Site.checked, called]
  · simp only [Site.checked, calledToo]

theorem checked_perform (alike : Alike first second site other) (call : Call .status) :
    ∃ status after later,
      site.perform (Binding.engine code) none call = (.returned status, after) ∧
      other.checked (Binding.engine code) call = (.returned status, later) ∧
      Alike first second after later := by
  obtain ⟨status, after, later, performed, performedToo, same⟩ :=
    (alike.log .debug "engine call" [other.idField, ("op", .text call.name)]).perform code none
      none call
  have called : other.call (Binding.engine code) call = (.returned status, later) := performedToo
  refine ⟨status, after, later.noteStatus call.name status, performed, ?_, ?_⟩
  · simp only [Site.checked, called]
  · unfold Site.noteStatus
    split
    · exact same.log ..
    · exact same

theorem applySettings (alike : Alike first second site other) (calls : List (Call .status)) :
    ∃ result after later,
      Session.applySettings (Binding.engine code) calls site = (.returned result, after) ∧
      Session.applySettings (Binding.engine code) calls other = (.returned result, later) ∧
      Alike first second after later := by
  induction calls generalizing site other with
  | nil => exact ⟨.ok (), site, other, rfl, rfl, alike⟩
  | cons call rest ih =>
      obtain ⟨status, after, later, checked, checkedToo, same⟩ := alike.checked code call
      simp only [Session.applySettings, checked, checkedToo]
      split
      · exact ⟨_, after, later, rfl, rfl, same⟩
      · exact ih same

theorem applyDefinitions (alike : Alike first second site other) (calls : List (Call .done)) :
    ∃ after later,
      Session.applyDefinitions (Binding.engine code) calls site = (.returned (), after) ∧
      Session.applyDefinitions (Binding.engine code) calls other = (.returned (), later) ∧
      Alike first second after later := by
  induction calls generalizing site other with
  | nil => exact ⟨site, other, rfl, rfl, alike⟩
  | cons call rest ih =>
      obtain ⟨answer, after, later, called, calledToo, same⟩ := alike.call code call
      simp only [Session.applyDefinitions, called, calledToo]
      exact ih same

theorem restrict (alike : Alike first second site other) :
    ∃ after later, Session.restrict (Binding.engine code) site = (.returned (), after) ∧
      Session.restrict (Binding.engine code) other = (.returned (), later) ∧
      Alike first second after later := by
  unfold Session.restrict
  rw [← alike.linking_eq]
  split
  · exact ⟨site, other, rfl, rfl, alike⟩
  · obtain ⟨status, after, later, performed, performedToo, same⟩ :=
      (alike.logBoth .debug ("host lacks dynamic linking, applying " ++ staticOptions)
        ("host lacks dynamic linking, applying " ++ staticOptions) [site.idField]
        [other.idField]).perform code none none (.setOptions staticOptions)
    simp only [performed, performedToo]
    exact ⟨_, _, rfl, rfl, same.noteRejection ..⟩

/-- How completions are delivered makes no difference to how a session is made. -/
theorem createConfigured (binding : Binding) (config : SessionConfig) (delivery : Delivery)
    (host : Host (Shared ν)) :
    ∃ result after later,
      Session.createConfigured (Binding.engine code) binding config host =
        (.returned result, after) ∧
      Session.createConfigured (Binding.engine code) binding { config with delivery } host =
        (.returned result, later) ∧
      Alike (exchanges host.journal) (exchanges host.journal) after later := by
  have start : Alike (exchanges host.journal) (exchanges host.journal)
      (newSite binding config host) (newSite binding { config with delivery } host) :=
    ⟨rfl, rfl, rfl, rfl, [], (List.append_nil _).symm, (List.append_nil _).symm⟩
  obtain ⟨status, after, later, performed, performedToo, same⟩ :=
    start.perform code none none (.setOutputType config.mode)
  obtain ⟨after, later, restricted, restrictedToo, same⟩ := (same.noteRejection "output mode"
    [("mode", Log.Value.word config.mode.text)] status).restrict code
  have created := same.logBoth .info "session created" "session created"
    [after.idField, ("mode", Log.Value.word config.mode.text),
      ("workers", .number config.workers.toNat), ("delivery", .word config.delivery.label)]
    [later.idField, ("mode", Log.Value.word config.mode.text),
      ("workers", .number config.workers.toNat), ("delivery", .word delivery.label)]
  obtain ⟨result, after, later, applied, appliedToo, same⟩ :=
    created.applySettings code config.settings
  have settings : SessionConfig.settings { config with delivery } = config.settings := rfl
  simp only [newSite] at performed performedToo
  simp only [Session.createConfigured, Session.create, performed, performedToo, restricted,
    restrictedToo, applied, appliedToo, settings]
  cases result with
  | error error => exact ⟨_, after, later, rfl, rfl, same⟩
  | ok =>
      obtain ⟨final, last, defined, definedToo, same⟩ :=
        same.applyDefinitions code config.definitions
      have definitions : SessionConfig.definitions { config with delivery } =
        config.definitions := rfl
      simp only [defined, definedToo, definitions]
      exact ⟨_, final, last, rfl, rfl, same⟩

theorem failWith {α : Type} (alike : Alike first second site other)
    (error mistake : List String → ProgramError) :
    ∃ diagnostics after later,
      Program.failWith (α := α) code error site = (.error (error diagnostics), after) ∧
      Program.failWith (α := α) code mistake other = (.error (mistake diagnostics), later) ∧
      ∃ made, exchanges after.journal = first ++ made ∧
        exchanges later.journal = second ++ made := by
  obtain ⟨diagnostics, after, later, taken, takenToo, same⟩ := alike.call code .takeDiagnostics
  refine ⟨diagnostics, after.host, later.host, ?_, ?_, same.exchanges_eq⟩
  · simp only [Program.failWith, Site.takeDiagnostics, taken, continueWith]
  · simp only [Program.failWith, Site.takeDiagnostics, takenToo, continueWith]

theorem finish (alike : Alike first second site other) :
    (Program.finish code site).1 = (Program.finish code other).1 ∧
      Abreast first second (Program.finish code site) (Program.finish code other) := by
  simp only [Program.finish, Site.run, ← alike.mode_eq]
  split
  · obtain ⟨status, after, later, called, calledToo, same⟩ := alike.call code (.run 0)
    simp only [called, calledToo, continueWith]
    exact ⟨trivial, same.exchanges_eq⟩
  · exact ⟨rfl, (alike.logBoth ..).exchanges_eq⟩

end Alike

end CompileSession.Program
