import CompileSession.Proofs.Native.Library
import CompileSession.Proofs.Native.Translation
import CompileSession.Proofs.Session.Works
import CompileSession.Program

/-!
# What a program's session asks of its library

The operations of a session on a native library make the native calls of their scripts and change
nothing else of the session.  Making a session and configuring it neither relocates nor runs
anything; a session that comes out of it is as good as new.
-/

namespace CompileSession

open Native

/-- Whether a native call relocates what was compiled, or runs it. -/
def Native.Exchange.executes : Exchange → Bool
  | ⟨.relocate _ _, _⟩ | ⟨.main _ _, _⟩ => true
  | _ => false

/-- Native calls none of which relocates or runs anything. -/
def Native.Harmless (made : List Exchange) : Prop :=
  ∀ exchange ∈ made, exchange.executes = false

/-- Whether a call is for relocating or running. -/
def Call.executes {kind : AnswerKind} : Call kind → Bool
  | .relocate | .run _ => true
  | _ => false

/-- The functions of the library with which a session is made and configured. -/
def Native.EntryPoint.forSetup : List EntryPoint :=
  [.new, .setErrorFunc, .setOutputType, .setLibPath, .setOptions, .defineSymbol, .addIncludePath,
    .addSysincludePath, .addLibrary, .addLibraryPath]

/-- A native call is one of those with which a session is made and configured. -/
def Native.Exchange.Configures (exchange : Exchange) : Prop :=
  ∃ point ∈ EntryPoint.forSetup, exchange.call.name = point.name

/-- A call becomes one of those native calls with which a session is made and configured. -/
def Call.Configures {kind : AnswerKind} (call : Call kind) : Prop :=
  ∃ point ∈ EntryPoint.forSetup, call.entryPoint? = some point

namespace Native

theorem Harmless.nil : Harmless [] := by
  simp [Harmless]

theorem Harmless.append {first second : List Exchange} (left : Harmless first)
    (right : Harmless second) : Harmless (first ++ second) := by
  intro exchange member
  rcases List.mem_append.mp member with earlier | later
  · exact left exchange earlier
  · exact right exchange later

theorem Harmless.any_relocates {made : List Exchange} (harmless : Harmless made) :
    made.any Exchange.relocates = false := by
  apply List.any_eq_false.mpr
  intro exchange member
  have quiet := harmless exchange member
  obtain ⟨call, result⟩ := exchange
  cases call <;> simp_all [Exchange.executes, Exchange.relocates]

/-- A call that is for one function of the library calls no other one. -/
theorem name_of_mem_translate {ν : Type} (code : ForeignCode ν) (binding : Binding)
    {kind : AnswerKind} {call : Call kind} {point : EntryPoint}
    (single : call.entryPoint? = some point) (before : Plant ν) :
    ∀ exchange ∈ (binding.translate code call before).2.1, exchange.call.name = point.name := by
  intro exchange member
  by_cases plain : call.Plain
  · obtain ⟨result, native, given, after, -, name, -, -, translated⟩ :=
      binding.translate_of_plain before plain single
    rw [translated] at member
    rw [List.mem_singleton.mp member]
    exact name
  · rw [binding.translate_of_not_plain before plain] at member
    cases member

theorem executes_of_name {exchange : Exchange} {point : EntryPoint}
    (name : exchange.call.name = point.name) (other : point ≠ .relocate) :
    exchange.executes = false := by
  obtain ⟨call, given⟩ := exchange
  cases call with
  | relocate context place =>
      have same : point = .relocate := by
        cases point <;> simp_all [NativeCall.name, EntryPoint.name]
      exact (other same).elim
  | main function argc =>
      cases point <;> simp [NativeCall.name, EntryPoint.name] at name
  | _ => rfl

/-- Only a call that is for it makes the library relocate or run anything. -/
theorem harmless_translate {ν : Type} (code : ForeignCode ν) (binding : Binding)
    {kind : AnswerKind} {call : Call kind} (quiet : call.executes = false) (before : Plant ν) :
    Harmless (binding.translate code call before).2.1 := by
  cases single : call.entryPoint? with
  | none =>
      cases call with
      | run => cases quiet
      | takeDiagnostics => exact .nil
      | _ => cases single
  | some point =>
      have other : point ≠ .relocate := by
        rintro rfl
        cases call with
        | relocate => cases quiet
        | _ => cases single
      intro exchange member
      exact executes_of_name (name_of_mem_translate code binding single before exchange member)
        other

/-- Making and configuring a session neither relocates nor runs anything. -/
theorem harmless_of_configures {made : List Exchange}
    (configuring : ∀ exchange ∈ made, exchange.Configures) : Harmless made := by
  intro exchange member
  obtain ⟨point, setup, name⟩ := configuring exchange member
  refine executes_of_name name ?_
  rintro rfl
  simp [EntryPoint.forSetup] at setup

theorem configures_translate {ν : Type} (code : ForeignCode ν) (binding : Binding)
    {kind : AnswerKind} {call : Call kind} (setting : call.Configures) (before : Plant ν) :
    ∀ exchange ∈ (binding.translate code call before).2.1, exchange.Configures := by
  obtain ⟨point, setup, single⟩ := setting
  intro exchange member
  exact ⟨point, setup, name_of_mem_translate code binding single before exchange member⟩

end Native

namespace Native.Binding

variable {ν : Type} (binding : Binding) (code : ForeignCode ν) (before : Plant ν)

/-- Adding a file whose name holds no zero byte is one native call, and its code is the answer. -/
theorem translate_addFile {path : String} (plain : 0 ∉ Text.encode path) :
    binding.translate code (.addFile path) before =
      let native := NativeCall.addFile binding.context ⟨Text.encode path, plain⟩
      let performed := before.perform code binding.library.image native
      (⟨performed.1⟩, [⟨native, performed.1⟩], performed.2) := by
  simp only [translate, script, Call.script, Script.onText, dif_neg plain]
  rfl

/-- Compiling a text that holds no zero byte is one native call, and its code is the answer. -/
theorem translate_compileString {source : String} (plain : 0 ∉ Text.encode source) :
    binding.translate code (.compileString source) before =
      let native := NativeCall.compileString binding.context ⟨Text.encode source, plain⟩
      let performed := before.perform code binding.library.image native
      (⟨performed.1⟩, [⟨native, performed.1⟩], performed.2) := by
  simp only [translate, script, Call.script, Script.onText, dif_neg plain]
  rfl

end Native.Binding

namespace Program

variable {ν : Type} (code : ForeignCode ν)

/-- What a call amounts to at a site. -/
def translation {kind : AnswerKind} (call : Call kind)
    (site : NativeSite ν) : kind.Answer × List Exchange × Plant ν :=
  site.session.engine.translate code call (plant site.host.toMachine)

/-- A session's engine has made native calls, and nothing else was done with the session. -/
structure Makes (made : List Exchange) (site after : NativeSite ν) : Prop where
  exchanges_eq : exchanges after.host.journal = exchanges site.host.journal ++ made
  binding_eq : after.session.engine = site.session.engine.note made
  session_eq : after.session = { site.session with engine := after.session.engine }
  linking_eq : after.host.dynamicLinking = site.host.dynamicLinking

namespace Makes

variable {site middle after : NativeSite ν} {made more : List Exchange}

theorem refl (site : NativeSite ν) : Makes [] site site where
  exchanges_eq := (List.append_nil _).symm
  binding_eq := site.session.engine.note_nil.symm
  session_eq := rfl
  linking_eq := rfl

theorem trans (first : Makes made site middle) (second : Makes more middle after) :
    Makes (made ++ more) site after where
  exchanges_eq := by rw [second.exchanges_eq, first.exchanges_eq, List.append_assoc]
  binding_eq := by rw [second.binding_eq, first.binding_eq, Binding.note_note]
  session_eq := by
    rw [second.session_eq, first.session_eq]
  linking_eq := second.linking_eq.trans first.linking_eq

theorem log (makes : Makes made site after) (level : Log.Level) (message : String)
    (fields : List (String × Log.Value)) : Makes made site (after.log level message fields) where
  exchanges_eq := (exchanges_log ..).trans makes.exchanges_eq
  binding_eq := makes.binding_eq
  session_eq := makes.session_eq
  linking_eq := makes.linking_eq

end Makes

theorem exchanges_ofMachine (journal : Journal) :
    exchanges (journal.filter Entry.ofMachine) = exchanges journal := by
  have same (entry : Entry) :
      (if entry.ofMachine then Exchange.ofEntry? entry else none) = Exchange.ofEntry? entry := by
    cases entry <;> rfl
  rw [exchanges, List.filterMap_filter]
  exact congrArg (List.filterMap · journal) (funext same)

/-- The engine answers a call as its script says. -/
theorem perform_makes (ticket : Option Nat) {kind : AnswerKind} (call : Call kind)
    (site : NativeSite ν) :
    ∃ after, site.perform (Binding.engine code) ticket call =
        (.returned (translation code call site).1, after) ∧
      Makes (translation code call site).2.1 site after ∧
      plant after.host.toMachine = (translation code call site).2.2 := by
  obtain ⟨answer, exchanges_eq, binding_eq, plant_eq⟩ :=
    follows_answer code call site.session.engine { site.host.toMachine with journal := [] }
  refine ⟨_, Prod.ext (congrArg Reply.returned answer) rfl, ⟨?_, binding_eq, rfl, rfl⟩, plant_eq⟩
  have machine : exchanges (Binding.answer code call site.session.engine
      { site.host.toMachine with journal := [] }).2.2.journal =
        (translation code call site).2.1 := exchanges_eq
  simp only [Site.perform, Binding.engine, exchanges_append, exchanges_ofMachine]
  rw [machine]
  exact List.append_nil _

theorem call_makes {kind : AnswerKind} (call : Call kind) (site : NativeSite ν) :
    ∃ after, site.call (Binding.engine code) call =
        (.returned (translation code call site).1, after) ∧
      Makes (translation code call site).2.1 site after := by
  obtain ⟨after, performed, makes, -⟩ :=
    perform_makes code none call (site.takeEngine call.name)
  exact ⟨after, performed, ((Makes.refl site).log _ _ _).trans makes⟩

theorem checked_makes (call : Call .status) (site : NativeSite ν) :
    ∃ after, site.checked (Binding.engine code) call =
        (.returned (translation code call site).1, after) ∧
      Makes (translation code call site).2.1 site after := by
  obtain ⟨after, called, makes⟩ := call_makes code call site
  rw [Site.checked, called]
  refine ⟨_, rfl, ?_⟩
  unfold Site.noteStatus
  split
  · exact makes.log ..
  · exact makes

theorem run_makes (argc : Int32) {site : NativeSite ν} (runs : site.session.mode.canRun = true) :
    ∃ after, site.run (Binding.engine code) argc =
        (.returned (translation code (.run argc) site).1, after) ∧
      Makes (translation code (.run argc) site).2.1 site after := by
  rw [Site.run, if_pos runs]
  exact call_makes code (.run argc) site

/-- The site of a session that is about to be made. -/
def newSite (binding : Binding) (config : SessionConfig) (host : Host (Shared ν)) :
    NativeSite ν where
  host := { host with nextSession := host.nextSession + 1 }
  session :=
    { id := host.nextSession
      mode := config.mode
      delivery := config.delivery
      pool := poolOf config.mode config.workers
      engine := binding }

/-- Some harmless native calls lead from one site to another. -/
def Prepares (site after : NativeSite ν) : Prop :=
  ∃ made, Harmless made ∧ Makes made site after

namespace Prepares

variable {site after : NativeSite ν}

theorem refl (site : NativeSite ν) : Prepares site site :=
  ⟨[], .nil, .refl site⟩

theorem checked (prepares : Prepares site after) {call : Call .status}
    (quiet : call.executes = false) :
    ∃ status final, after.checked (Binding.engine code) call = (.returned status, final) ∧
      Prepares site final := by
  obtain ⟨made, harmless, makes⟩ := prepares
  obtain ⟨final, checked, more⟩ := checked_makes code call after
  exact ⟨_, final, checked, _, harmless.append (harmless_translate code _ quiet _),
    makes.trans more⟩

end Prepares

/-- Native calls with which sessions are made and configured lead from one site to another. -/
def Configures (site after : NativeSite ν) : Prop :=
  ∃ made, (∀ exchange ∈ made, exchange.Configures) ∧ Makes made site after

namespace Configures

variable {site middle after : NativeSite ν}

theorem refl (site : NativeSite ν) : Configures site site :=
  ⟨[], List.forall_mem_nil _, .refl site⟩

theorem trans (first : Configures site middle) (second : Configures middle after) :
    Configures site after := by
  obtain ⟨made, configuring, makes⟩ := first
  obtain ⟨more, configuringToo, makesMore⟩ := second
  exact ⟨made ++ more, List.forall_mem_append.mpr ⟨configuring, configuringToo⟩,
    makes.trans makesMore⟩

theorem prepares (configures : Configures site after) : Prepares site after := by
  obtain ⟨made, configuring, makes⟩ := configures
  exact ⟨made, harmless_of_configures configuring, makes⟩

theorem log (configures : Configures site after) (level : Log.Level) (message : String)
    (fields : List (String × Log.Value)) : Configures site (after.log level message fields) := by
  obtain ⟨made, configuring, makes⟩ := configures
  exact ⟨made, configuring, makes.log ..⟩

theorem noteRejection (configures : Configures site after) (what : String)
    (fields : List (String × Log.Value)) (status : Status) :
    Configures site (Session.noteRejection what fields status after) := by
  unfold Session.noteRejection
  split
  · exact configures.log ..
  · exact configures

theorem perform (configures : Configures site after) {kind : AnswerKind} {call : Call kind}
    (setting : call.Configures) (ticket : Option Nat) :
    ∃ answer final, after.perform (Binding.engine code) ticket call = (.returned answer, final) ∧
      Configures site final := by
  obtain ⟨final, performed, makes, -⟩ := perform_makes code ticket call after
  exact ⟨_, final, performed, configures.trans ⟨_, configures_translate code _ setting _, makes⟩⟩

theorem checked (configures : Configures site after) {call : Call .status}
    (setting : call.Configures) :
    ∃ status final, after.checked (Binding.engine code) call = (.returned status, final) ∧
      Configures site final := by
  obtain ⟨final, checked, makes⟩ := checked_makes code call after
  exact ⟨_, final, checked, configures.trans ⟨_, configures_translate code _ setting _, makes⟩⟩

theorem restrict (configures : Configures site after) :
    ∃ final, Session.restrict (Binding.engine code) after = (.returned (), final) ∧
      Configures site final := by
  unfold Session.restrict
  split
  case isTrue => exact ⟨after, rfl, configures⟩
  case isFalse =>
    have setting : (Call.setOptions staticOptions).Configures :=
      ⟨.setOptions, by simp [EntryPoint.forSetup], rfl⟩
    obtain ⟨status, final, performed, configured⟩ :=
      (configures.log .debug ("host lacks dynamic linking, applying " ++ staticOptions)
        [after.idField]).perform code setting none
    simp only [performed]
    exact ⟨_, rfl, configured.noteRejection ..⟩

theorem applySettings {calls : List (Call .status)} (settings : ∀ call ∈ calls, call.Configures)
    (configures : Configures site after) :
    ∃ result final, Session.applySettings (Binding.engine code) calls after =
        (.returned result, final) ∧ Configures site final := by
  induction calls generalizing after with
  | nil => exact ⟨.ok (), after, rfl, configures⟩
  | cons call rest ih =>
      obtain ⟨first, others⟩ := List.forall_mem_cons.mp settings
      obtain ⟨status, middle, checked, configured⟩ := configures.checked code first
      rw [Session.applySettings, checked]
      dsimp only
      split
      case isTrue => exact ⟨_, _, rfl, configured⟩
      case isFalse => exact ih others configured

theorem applyDefinitions {calls : List (Call .done)}
    (definitions : ∀ call ∈ calls, call.Configures) (configures : Configures site after) :
    ∃ final, Session.applyDefinitions (Binding.engine code) calls after = (.returned (), final) ∧
      Configures site final := by
  induction calls generalizing after with
  | nil => exact ⟨after, rfl, configures⟩
  | cons call rest ih =>
      obtain ⟨first, others⟩ := List.forall_mem_cons.mp definitions
      obtain ⟨middle, called, makes⟩ := call_makes code call after
      rw [Session.applyDefinitions, called]
      exact ih others (configures.trans ⟨_, configures_translate code _ first _, makes⟩)

end Configures

theorem settings_configure (config : SessionConfig) :
    ∀ call ∈ config.settings, call.Configures := by
  refine config.forall_settings fun text => ⟨⟨_, ?_, rfl⟩, ⟨_, ?_, rfl⟩, ⟨_, ?_, rfl⟩, ⟨_, ?_, rfl⟩,
    ⟨_, ?_, rfl⟩, ⟨_, ?_, rfl⟩⟩
  all_goals simp [EntryPoint.forSetup]

theorem definitions_configure (config : SessionConfig) :
    ∀ call ∈ config.definitions, call.Configures := by
  intro call member
  obtain ⟨entry, -, rfl⟩ := List.mem_map.mp member
  exact ⟨.defineSymbol, by simp [EntryPoint.forSetup], rfl⟩

theorem create_configures (binding : Binding) (config : SessionConfig) (host : Host (Shared ν)) :
    ∃ after, Session.create (Binding.engine code) binding config.mode config.workers
        config.delivery host = (.returned (), after) ∧
      Configures (newSite binding config host) after := by
  have setting : (Call.setOutputType config.mode).Configures :=
    ⟨.setOutputType, by simp [EntryPoint.forSetup], rfl⟩
  obtain ⟨status, middle, performed, configured⟩ :=
    (Configures.refl (newSite binding config host)).perform code setting none
  obtain ⟨final, restricted, ready⟩ := (configured.noteRejection "output mode"
    [("mode", Log.Value.word config.mode.text)] status).restrict code
  simp only [newSite] at performed
  simp only [Session.create, performed, restricted]
  exact ⟨_, rfl, ready.log ..⟩

theorem createConfigured_configures (binding : Binding) (config : SessionConfig)
    (host : Host (Shared ν)) :
    ∃ result after, Session.createConfigured (Binding.engine code) binding config host =
        (.returned result, after) ∧ Configures (newSite binding config host) after := by
  obtain ⟨made, created, opened⟩ := create_configures code binding config host
  obtain ⟨result, settled, applied, configured⟩ :=
    opened.applySettings code (settings_configure config)
  obtain ⟨final, defined, ready⟩ :=
    configured.applyDefinitions code (definitions_configure config)
  simp only [Session.createConfigured, created, applied]
  cases result with
  | error error => exact ⟨.error error, settled, rfl, configured⟩
  | ok => exact ⟨.ok (), final, by simp only [defined], ready⟩

/-- A session is made and configured without relocating or running anything, and nothing was
submitted to it. -/
theorem createConfigured_prepares (binding : Binding) (config : SessionConfig)
    (host : Host (Shared ν)) :
    ∃ result after, Session.createConfigured (Binding.engine code) binding config host =
        (.returned result, after) ∧ Prepares (newSite binding config host) after := by
  obtain ⟨result, after, created, configured⟩ :=
    createConfigured_configures code binding config host
  exact ⟨result, after, created, configured.prepares⟩

theorem exchanges_logs {machine after : Machine (Shared ν)} (logs : Logs machine after) :
    exchanges after.journal = exchanges machine.journal := by
  induction logs with
  | nothing => rfl
  | log level message fields _ ih => exact (exchanges_log ..).trans ih

/-- Looking for a library makes no native calls. -/
theorem exchanges_byDefault (environment : Environment) (machine : Machine (Shared ν)) :
    exchanges (Library.byDefault code environment machine).2.journal =
      exchanges machine.journal := by
  obtain ⟨after, default, logs, same⟩ := Library.byDefault_logs code machine environment
  rw [same, ← exchanges_logs logs]

/-- An engine is brought up by calls that are for it, and nothing has been relocated for it. -/
theorem exchanges_createByDefault (environment : Environment) (machine : Machine (Shared ν)) :
    ∃ made, (∀ exchange ∈ made, exchange.Configures) ∧
      exchanges (Binding.createByDefault code environment machine).2.journal =
        exchanges machine.journal ++ made ∧
      ∀ binding, (Binding.createByDefault code environment machine).1 = .ok binding →
        binding.relocated = false := by
  have found := exchanges_byDefault code environment machine
  have creates (given : Address) : Exchange.Configures ⟨.new, given⟩ :=
    ⟨.new, by simp [EntryPoint.forSetup], rfl⟩
  have registers (context : Address) (sink : Nat) :
      Exchange.Configures ⟨.setErrorFunc context sink, ()⟩ :=
    ⟨.setErrorFunc, by simp [EntryPoint.forSetup], rfl⟩
  unfold Binding.createByDefault
  split
  case h_1 error after located =>
    rw [located] at found
    exact ⟨[], List.forall_mem_nil _, found.trans (List.append_nil _).symm,
      fun binding created => by cases created⟩
  case h_2 library after located =>
    rw [located] at found
    have called := (invoke_eq code library .new after).2.2
    rw [found] at called
    unfold Binding.create
    dsimp only
    split
    case isTrue =>
      exact ⟨_, List.forall_mem_singleton.mpr (creates _), called,
        fun binding created => by cases created⟩
    case isFalse =>
      have registered := (invoke_eq code library
        (.setErrorFunc (invoke code library .new after).1
          (invoke code library .new after).2.shared.sinks.length)
        (changeSinks (· ++ [[]]) (invoke code library .new after).2)).2.2
      have kept : exchanges (changeSinks (· ++ [[]]) (invoke code library .new after).2).journal =
          exchanges (invoke code library .new after).2.journal := rfl
      rw [kept, called, List.append_assoc] at registered
      refine ⟨_, ?_, registered, ?_⟩
      · exact List.forall_mem_cons.mpr ⟨creates _, List.forall_mem_singleton.mpr (registers _ _)⟩
      · intro binding created
        cases created
        rfl

/-- A configured session with which nothing was done yet. -/
structure Ready (config : SessionConfig) (site : NativeSite ν) : Prop where
  session_eq : ∃ id binding, site.session =
    { id
      mode := config.mode
      delivery := config.delivery
      pool := poolOf config.mode config.workers
      engine := binding }
  unrelocated : site.session.engine.relocated = false

theorem Prepares.unrelocated {site after : NativeSite ν} (prepares : Prepares site after)
    (unrelocated : site.session.engine.relocated = false) :
    after.session.engine.relocated = false := by
  obtain ⟨made, harmless, makes⟩ := prepares
  rw [makes.binding_eq]
  simp [Binding.note, unrelocated, harmless.any_relocates]

theorem Prepares.ready {binding : Binding} {config : SessionConfig} {host : Host (Shared ν)}
    {site : NativeSite ν} (prepares : Prepares (newSite binding config host) site)
    (unrelocated : binding.relocated = false) : Ready config site := by
  have kept : site.session.engine.relocated = false := prepares.unrelocated unrelocated
  obtain ⟨made, -, makes⟩ := prepares
  exact ⟨⟨_, _, makes.session_eq⟩, kept⟩

/-- Without an engine or with a configuration that is not taken a program ends there; else it goes
on with a session that is ready.  Up to then only a session is made and configured. -/
theorem withSession_configures (environment : Environment) (config : SessionConfig)
    (host : Host (Shared ν)) :
    ∃ made, (∀ exchange ∈ made, exchange.Configures) ∧
      ((∃ error after, exchanges after.journal = exchanges host.journal ++ made ∧
          ∀ {α : Type} (next : NativeSite ν → Ending ν α),
            withSession code environment config host next = (.error (.session error), after)) ∨
        ∃ site, Ready config site ∧
          exchanges site.host.journal = exchanges host.journal ++ made ∧
          ∀ {α : Type} (next : NativeSite ν → Ending ν α),
            withSession code environment config host next = next site) := by
  obtain ⟨made, configuring, called, unrelocated⟩ :=
    exchanges_createByDefault code environment host.toMachine
  generalize brought : Binding.createByDefault code environment host.toMachine = result at *
  obtain ⟨result, machine⟩ := result
  cases result with
  | error error =>
      refine ⟨made, configuring,
        .inl ⟨.engine error, { host with toMachine := machine }, called, ?_⟩⟩
      intro α next
      simp only [withSession, brought]
  | ok binding =>
      obtain ⟨result, site, configured, configures⟩ := createConfigured_configures code
        binding config { host with toMachine := machine }
      have ready := configures.prepares.ready (unrelocated binding rfl)
      obtain ⟨more, configuringToo, makes⟩ := configures
      have exchanges_eq :
          exchanges site.host.journal = exchanges host.journal ++ (made ++ more) := by
        rw [makes.exchanges_eq, ← List.append_assoc, ← called]
        rfl
      refine ⟨made ++ more, List.forall_mem_append.mpr ⟨configuring, configuringToo⟩, ?_⟩
      cases result with
      | error error =>
          refine .inl ⟨error, site.host, exchanges_eq, ?_⟩
          intro α next
          simp only [withSession, brought, configured, continueWith]
      | ok =>
          refine .inr ⟨site, ready, exchanges_eq, ?_⟩
          intro α next
          simp only [withSession, brought, configured, continueWith]

/-- Nothing is relocated or run before there is a session. -/
theorem withSession_cases {α : Type} (environment : Environment) (config : SessionConfig)
    (host : Host (Shared ν)) :
    ∃ made, Harmless made ∧
      ((∃ error after, exchanges after.journal = exchanges host.journal ++ made ∧
          ∀ next : NativeSite ν → Ending ν α,
            withSession code environment config host next = (.error (.session error), after)) ∨
        ∃ site, Ready config site ∧
          exchanges site.host.journal = exchanges host.journal ++ made ∧
          ∀ next : NativeSite ν → Ending ν α,
            withSession code environment config host next = next site) := by
  obtain ⟨made, configuring, way⟩ := withSession_configures code environment config host
  refine ⟨made, harmless_of_configures configuring, ?_⟩
  rcases way with ⟨error, after, kept, stops⟩ | ⟨site, ready, kept, continues⟩
  · exact .inl ⟨error, after, kept, stops⟩
  · exact .inr ⟨site, ready, kept, continues⟩

end Program

end CompileSession
