import CompileSession.Proofs.Program.Ending
import CompileSession.Proofs.Program.Pumping

/-!
# Running a file and running its text

A program is run from its file, or its text is read and compiled on a worker.  On a library that
takes a file for its text both end alike, and so they do however completions are delivered and
however the threads take turns.
-/

namespace CompileSession.Program

open Native

variable {ν : Type} (code : ForeignCode ν)

/-- Ends as a program that has waited for the outcome of its text's compile. -/
def concludeText (path : Path) (state : Option FutureState) (site : NativeSite ν) :
    Ending ν Int32 :=
  match state with
  | some (.ready outcome) =>
    match outcome.toStatus with
    | .error error => (.error (.dispatch error), site.host)
    | .ok status => conclude code (.compileText path) status site
  | _ => (.error .lost, site.host)

/-- Runs a text like `runText`, but as a schedule says from the submission on. -/
def runTextAlong (schedule : List Move) (surroundings : Surroundings) (path : Path)
    (config : SessionConfig) (host : Host (Shared ν)) : Ending ν Int32 :=
  withSession code surroundings.environment config host fun site =>
    match surroundings.files.readText path with
    | .error error => (.error (.source path error), site.host)
    | .ok source =>
      let ticket := site.session.submitted
      match (Scene.resting (site.submit .caller source .future) [] []).follow?
          (Binding.engine code) schedule with
      | none => (.error .lost, site.host)
      | some scene => concludeText code path (scene.session.future? ticket) scene.site

theorem Alike.conclude {first second : List Exchange} {site other : NativeSite ν}
    (alike : Alike first second site other) (error : List String → ProgramError)
    (status : Status) :
    (Program.conclude code error status site).1 = (Program.conclude code error status other).1 ∧
      Abreast first second (Program.conclude code error status site)
        (Program.conclude code error status other) := by
  unfold Program.conclude
  split
  · obtain ⟨diagnostics, after, later, ended, endedToo, same⟩ :=
      alike.failWith code (α := Int32) error error
    rw [ended, endedToo]
    exact ⟨rfl, same⟩
  · exact alike.finish code

/-- Two programs that ended alike, with the same native calls. -/
def EndedAlike {α : Type} (ending other : Ending ν α) : Prop :=
  ending.1 = other.1 ∧ exchanges ending.2.journal = exchanges other.2.journal

namespace EndedAlike

variable {α : Type} {ending other another : Ending ν α}

theorem refl (ending : Ending ν α) : EndedAlike ending ending :=
  ⟨rfl, rfl⟩

theorem symm (alike : EndedAlike ending other) : EndedAlike other ending :=
  ⟨alike.1.symm, alike.2.symm⟩

theorem trans (alike : EndedAlike ending other) (more : EndedAlike other another) :
    EndedAlike ending another :=
  ⟨alike.1.trans more.1, alike.2.trans more.2⟩

theorem of_abreast {base : List Exchange} (same : ending.1 = other.1)
    (abreast : Abreast base base ending other) : EndedAlike ending other := by
  obtain ⟨made, left, right⟩ := abreast
  exact ⟨same, left.trans right.symm⟩

end EndedAlike

theorem Resembles.conclude {site other : NativeSite ν} (resembles : Resembles site other)
    (error : List String → ProgramError) (status : Status) :
    EndedAlike (Program.conclude code error status site)
      (Program.conclude code error status other) :=
  .of_abreast (Alike.conclude code resembles error status).1
    (Alike.conclude code resembles error status).2

section Ready

variable {config : SessionConfig} {source : String} {status : Status}
  {start served : NativeSite ν}

/-- What a program does with its text ends as it would right after the compile. -/
theorem concludeText_await (ready : Ready config start) (runs : config.mode = .execute)
    (serves : start.perform (Binding.engine code) none (.compileString source) =
      (.returned status, served)) (path : Path) :
    EndedAlike (conclude code (.compileText path) status served)
      (continueWith (await code start.session.submitted (start.submit .caller source .future))
        (concludeText code path)) := by
  obtain ⟨after, awaited, resembles⟩ := await_ready code ready runs serves
  rw [awaited]
  exact Resembles.conclude code resembles (.compileText path) status

/-- A schedule of the threads ends a program in the same way, unless the outcome has not come. -/
theorem concludeText_along (ready : Ready config start) (runs : config.mode = .execute)
    (serves : start.perform (Binding.engine code) none (.compileString source) =
      (.returned status, served)) (path : Path) {schedule : List Move}
    (pumps : ∀ move ∈ schedule, move.pumps = true) {scene : Scene (Shared ν) Binding}
    (followed : (Scene.resting (start.submit .caller source .future) [] []).follow?
      (Binding.engine code) schedule = some scene) :
    (concludeText code path (scene.session.future? start.session.submitted) scene.site).1 =
        .error .lost ∨
      EndedAlike (conclude code (.compileText path) status served)
        (concludeText code path (scene.session.future? start.session.submitted) scene.site) := by
  have first : start.session.submitted = 0 := by
    obtain ⟨id, binding, session_eq⟩ := ready.session_eq
    rw [session_eq]
  rw [first]
  cases told : scene.session.future? 0 with
  | none => exact .inl rfl
  | some state =>
      cases state with
      | pending => exact .inl rfl
      | ready outcome =>
          obtain ⟨rfl, resembles⟩ := follow?_ready ready runs serves pumps followed told
          exact .inr (Resembles.conclude code resembles (.compileText path) status)

end Ready

/-- Two configurations that differ in the delivery of completions alone bring a program to sites
that are alike, or end it alike. -/
theorem withSession_alike {α : Type} (environment : Environment) (config : SessionConfig)
    (delivery : Delivery) (host : Host (Shared ν)) :
    (∃ ending other : Ending ν α, EndedAlike ending other ∧
        ∀ next, withSession code environment config host next = ending ∧
          withSession code environment { config with delivery } host next = other) ∨
      ∃ site other, Ready config site ∧ Ready { config with delivery } other ∧
        Resembles site other ∧
        ∀ next : NativeSite ν → Ending ν α,
          withSession code environment config host next = next site ∧
            withSession code environment { config with delivery } host next = next other := by
  obtain ⟨made, -, -, unrelocated⟩ := exchanges_createByDefault code environment host.toMachine
  generalize brought : Binding.createByDefault code environment host.toMachine = result at *
  obtain ⟨result, machine⟩ := result
  cases result with
  | error error =>
      let ending : Ending ν α :=
        (.error (.session (.engine error)), { host with toMachine := machine })
      refine .inl ⟨ending, ending, .refl ending, fun next => ⟨?_, ?_⟩⟩
      · simp only [withSession, brought, ending]
      · simp only [withSession, brought, ending]
  | ok binding =>
      obtain ⟨result, site, configured, prepares⟩ :=
        createConfigured_prepares code binding config { host with toMachine := machine }
      obtain ⟨second, other, configuredToo, preparesToo⟩ := createConfigured_prepares code binding
        { config with delivery } { host with toMachine := machine }
      obtain ⟨result, after, later, made, madeToo, alike⟩ :=
        Alike.createConfigured code binding config delivery { host with toMachine := machine }
      cases configured.symm.trans made
      cases configuredToo.symm.trans madeToo
      cases result with
      | error error =>
          refine .inl ⟨(.error (.session error), site.host), (.error (.session error), other.host),
            .of_abreast rfl alike.exchanges_eq, fun next => ⟨?_, ?_⟩⟩
          · simp only [withSession, brought, configured, continueWith]
          · simp only [withSession, brought, configuredToo, continueWith]
      | ok =>
          refine .inr ⟨site, other, prepares.ready (unrelocated binding rfl),
            preparesToo.ready (unrelocated binding rfl), alike.resembles, fun next => ⟨?_, ?_⟩⟩
          · simp only [withSession, brought, configured, continueWith]
          · simp only [withSession, brought, configuredToo, continueWith]

section Delivery

variable {surroundings : Surroundings} {path : Path} {config : SessionConfig}
  {host : Host (Shared ν)}

theorem runText_eq :
    runText code surroundings path config host =
      withSession code surroundings.environment config host fun site =>
        match surroundings.files.readText path with
        | .error error => (.error (.source path error), site.host)
        | .ok source =>
          continueWith (await code site.session.submitted (site.submit .caller source .future))
            (concludeText code path) :=
  rfl

/-- A text whose compile has been answered is concluded alike at sites that were alike. -/
theorem conclude_served {source : String} {status answer : Status}
    {site other served again : NativeSite ν} (resembles : Resembles site other)
    (serves : site.perform (Binding.engine code) none (.compileString source) =
      (.returned status, served))
    (servesToo : other.perform (Binding.engine code) none (.compileString source) =
      (.returned answer, again)) :
    EndedAlike (conclude code (.compileText path) status served)
      (conclude code (.compileText path) answer again) := by
  obtain ⟨same, after, later, performed, performedToo, alike⟩ :=
    resembles.perform code none none (.compileString source)
  cases serves.symm.trans performed
  cases servesToo.symm.trans performedToo
  exact Resembles.conclude code alike.resembles _ _

/-- How completions are delivered makes no difference to how a text is run. -/
theorem runText_delivery (runs : config.mode = .execute) (delivery : Delivery) :
    EndedAlike (runText code surroundings path config host)
      (runText code surroundings path { config with delivery } host) := by
  rw [runText_eq, runText_eq]
  rcases withSession_alike code (α := Int32) surroundings.environment config delivery host with
    ⟨ending, other, alike, stops⟩ | ⟨site, other, ready, readyToo, resembles, continues⟩
  · rw [(stops _).1, (stops _).2]
    exact alike
  · rw [(continues _).1, (continues _).2]
    cases surroundings.files.readText path with
    | error error => exact .of_abreast rfl resembles.exchanges_eq
    | ok source =>
        obtain ⟨served, serves, -⟩ := perform_makes code none (.compileString source) site
        obtain ⟨again, servesToo, -⟩ := perform_makes code none (.compileString source) other
        exact (concludeText_await code ready runs serves path).symm.trans
          ((conclude_served code resembles serves servesToo).trans
            (concludeText_await code readyToo runs servesToo path))

/-- Neither does how the threads take turns: a schedule of them that brings the outcome ends a
program as any other does. -/
theorem runTextAlong_alike (runs : config.mode = .execute) (delivery : Delivery)
    {schedule : List Move} (pumps : ∀ move ∈ schedule, move.pumps = true) :
    (runTextAlong code schedule surroundings path { config with delivery } host).1 =
        .error .lost ∨
      EndedAlike (runText code surroundings path config host)
        (runTextAlong code schedule surroundings path { config with delivery } host) := by
  rw [runText_eq, runTextAlong]
  rcases withSession_alike code (α := Int32) surroundings.environment config delivery host with
    ⟨ending, other, alike, stops⟩ | ⟨site, other, ready, readyToo, resembles, continues⟩
  · rw [(stops _).1, (stops _).2]
    exact .inr alike
  · rw [(continues _).1, (continues _).2]
    cases surroundings.files.readText path with
    | error error => exact .inr (.of_abreast rfl resembles.exchanges_eq)
    | ok source =>
        obtain ⟨served, serves, -⟩ := perform_makes code none (.compileString source) site
        obtain ⟨again, servesToo, -⟩ := perform_makes code none (.compileString source) other
        dsimp only
        split
        case h_1 => exact .inl rfl
        case h_2 scene followed =>
          rcases concludeText_along code readyToo runs servesToo path pumps followed with
            lost | alike
          · exact .inl lost
          · exact .inr ((concludeText_await code ready runs serves path).symm.trans
              ((conclude_served code resembles serves servesToo).trans alike))

/-- How completions would be delivered makes no difference to how a file is run. -/
theorem runFile_delivery (environment : Environment) (delivery : Delivery) :
    EndedAlike (runFile code environment path config host)
      (runFile code environment path { config with delivery } host) := by
  rw [runFile, runFile]
  rcases withSession_alike code (α := Int32) environment { config with mode := .execute } delivery
    host with ⟨ending, other, alike, stops⟩ | ⟨site, other, -, -, resembles, continues⟩
  · rw [(stops _).1, (stops _).2]
    exact alike
  · rw [(continues _).1, (continues _).2]
    obtain ⟨status, after, later, checked, checkedToo, alike⟩ :=
      (resembles.logBoth .debug ("running " ++ path.display) ("running " ++ path.display) []
        []).checked code (.addFile path.display)
    simp only [checked, checkedToo, continueWith]
    exact Resembles.conclude code alike.resembles (.compile path status) status

end Delivery

/-- How a program ended that was run from its file, how it ended when its text was run instead, and
the native calls in both cases. -/
inductive RanTwice (name source : CText) : Except ProgramError Int32 →
    Except ProgramError Int32 → List Exchange → List Exchange → Prop where
  /-- There was no session to run anything in. -/
  | stopped {error : ProgramError} {made : List Exchange} : Harmless made →
      RanTwice name source (.error error) (.error error) made made
  /-- It does not compile. -/
  | failed {error mistake : ProgramError} {setup : List Exchange} {context : Address}
      {given : Int32} : Harmless setup → (Status.mk given).isErr = true →
      RanTwice name source (.error error) (.error mistake)
        (setup ++ [⟨.addFile context name, given⟩])
        (setup ++ [⟨.compileString context source, given⟩])
  | ran {setup made : List Exchange} {context : Address} {given : Int32} {status : Status} :
      Harmless setup → (Status.mk given).isOk = true → Ran context 0 false made status →
      RanTwice name source (.ok status.code) (.ok status.code)
        (setup ++ ⟨.addFile context name, given⟩ :: made)
        (setup ++ ⟨.compileString context source, given⟩ :: made)

theorem RanTwice.after {name source : CText} {result answer : Except ProgramError Int32}
    {setup made other : List Exchange} (harmless : Harmless setup)
    (ran : RanTwice name source result answer made other) :
    RanTwice name source result answer (setup ++ made) (setup ++ other) := by
  cases ran with
  | stopped rest => exact .stopped (harmless.append rest)
  | failed rest failed =>
      rw [← List.append_assoc, ← List.append_assoc]
      exact .failed (harmless.append rest) failed
  | ran rest succeeded ran =>
      rw [← List.append_assoc, ← List.append_assoc]
      exact .ran (harmless.append rest) succeeded ran

section Twice

variable {path : Path} {source : String} {config : SessionConfig}

/-- Where a file is taken for its text, adding the one and compiling the other are alike. -/
theorem perform_twice (site : NativeSite ν) (plainName : 0 ∉ Text.encode path.display)
    (plainSource : 0 ∉ Text.encode source)
    (same : ∀ image context state memory,
      code.invoke image (.addFile context ⟨Text.encode path.display, plainName⟩) state memory =
        code.invoke image (.compileString context ⟨Text.encode source, plainSource⟩) state memory) :
    ∃ given filed served,
      site.perform (Binding.engine code) none (.addFile path.display) =
        (.returned ⟨given⟩, filed) ∧
      site.perform (Binding.engine code) none (.compileString source) =
        (.returned ⟨given⟩, served) ∧
      Makes [⟨.addFile site.session.engine.context ⟨Text.encode path.display, plainName⟩, given⟩]
        site filed ∧
      Alike
        (exchanges site.host.journal ++
          [⟨.addFile site.session.engine.context ⟨Text.encode path.display, plainName⟩, given⟩])
        (exchanges site.host.journal ++
          [⟨.compileString site.session.engine.context ⟨Text.encode source, plainSource⟩, given⟩])
        filed served := by
  obtain ⟨filed, added, makes, plant_eq⟩ := perform_makes code none (.addFile path.display) site
  obtain ⟨served, compiled, makesToo, plantToo⟩ :=
    perform_makes code none (.compileString source) site
  have performs : (plant site.host.toMachine).perform code site.session.engine.library.image
        (.addFile site.session.engine.context ⟨Text.encode path.display, plainName⟩) =
      (plant site.host.toMachine).perform code site.session.engine.library.image
        (.compileString site.session.engine.context ⟨Text.encode source, plainSource⟩) := by
    simp only [Plant.perform, same]
  have one : translation code (.addFile path.display) site = _ :=
    site.session.engine.translate_addFile code (plant site.host.toMachine) plainName
  have two : translation code (.compileString source) site = _ :=
    site.session.engine.translate_compileString code (plant site.host.toMachine) plainSource
  dsimp only at one
  rw [performs] at one
  rw [one] at added makes plant_eq
  rw [two] at compiled makesToo plantToo
  refine ⟨_, filed, served, added, compiled, makes, ?_⟩
  constructor
  case engine_eq =>
    rw [makes.binding_eq, makesToo.binding_eq, Binding.note_quiet _ rfl, Binding.note_quiet _ rfl]
  case plant_eq => rw [plant_eq, plantToo]
  case mode_eq => rw [makes.session_eq, makesToo.session_eq]
  case linking_eq => rw [makes.linking_eq, makesToo.linking_eq]
  case exchanges_eq =>
    exact ⟨[], makes.exchanges_eq.trans (List.append_nil _).symm,
      makesToo.exchanges_eq.trans (List.append_nil _).symm⟩

/-- What is concluded at sites that are alike behind the one call in which they differ. -/
theorem Alike.concludeTwice {first second : List Exchange} {filed served : NativeSite ν}
    (alike : Alike first second filed served) (error mistake : List String → ProgramError)
    (status : Status) (runs : filed.session.mode.canRun = true)
    (unrelocated : filed.session.engine.relocated = false)
    (began : exchanges filed.host.journal = first) :
    ∃ made, exchanges (Program.conclude code error status filed).2.journal = first ++ made ∧
      exchanges (Program.conclude code mistake status served).2.journal = second ++ made ∧
      ((status.isErr = true ∧ made = [] ∧
          ∃ left right, (Program.conclude code error status filed).1 = .error left ∧
            (Program.conclude code mistake status served).1 = .error right) ∨
        (status.isOk = true ∧ ∃ answer, Ran filed.session.engine.context 0 false made answer ∧
          (Program.conclude code error status filed).1 = .ok answer.code ∧
          (Program.conclude code mistake status served).1 = .ok answer.code)) := by
  obtain ⟨made, kept, ended⟩ := conclude_makes code error status runs unrelocated
  rw [began] at kept
  refine ⟨made, kept, ?_⟩
  have behind (abreast : Abreast first second (Program.conclude code error status filed)
      (Program.conclude code mistake status served)) :
      exchanges (Program.conclude code mistake status served).2.journal = second ++ made := by
    obtain ⟨more, left, right⟩ := abreast
    rw [right, List.append_cancel_left (kept.symm.trans left)]
  rcases ended with ⟨failed, rfl, left, ended⟩ | ⟨succeeded, answer, ran, ended⟩
  · obtain ⟨diagnostics, after, later, endedOne, endedTwo, same⟩ :=
      alike.failWith code (α := Int32) error mistake
    have one : Program.conclude code error status filed = (.error (error diagnostics), after) := by
      rw [Program.conclude, if_pos failed, endedOne]
    have two : Program.conclude code mistake status served =
        (.error (mistake diagnostics), later) := by
      rw [Program.conclude, if_pos failed, endedTwo]
    refine ⟨behind (by rw [one, two]; exact same),
      .inl ⟨failed, rfl, left, mistake diagnostics, ended, ?_⟩⟩
    rw [two]
  · have failed : ¬ status.isErr = true := by
      rw [Status.isErr_eq_not_isOk, succeeded]
      decide
    have one : Program.conclude code error status filed = Program.finish code filed :=
      if_neg failed
    have two : Program.conclude code mistake status served = Program.finish code served :=
      if_neg failed
    obtain ⟨same, abreast⟩ := alike.finish code
    rw [← one, ← two] at same abreast
    exact ⟨behind abreast, .inr ⟨succeeded, answer, ran, ended, same ▸ ended⟩⟩

/-- In a session that is ready, running a file and running its text end alike. -/
theorem twice_ready {site : NativeSite ν} (ready : Ready config site)
    (runs : config.mode = .execute) (plainName : 0 ∉ Text.encode path.display)
    (plainSource : 0 ∉ Text.encode source)
    (same : ∀ image context state memory,
      code.invoke image (.addFile context ⟨Text.encode path.display, plainName⟩) state memory =
        code.invoke image (.compileString context ⟨Text.encode source, plainSource⟩) state memory) :
    let file := continueWith ((site.log .debug ("running " ++ path.display)).checked
        (Binding.engine code) (.addFile path.display))
      fun status site => conclude code (.compile path status) status site
    let text := continueWith
      (await code site.session.submitted (site.submit .caller source .future))
      (concludeText code path)
    ∃ made other,
      RanTwice ⟨Text.encode path.display, plainName⟩ ⟨Text.encode source, plainSource⟩
        file.1 text.1 made other ∧
      exchanges file.2.journal = exchanges site.host.journal ++ made ∧
      exchanges text.2.journal = exchanges site.host.journal ++ other := by
  obtain ⟨given, filed, served, added, compiled, makes, alike⟩ :=
    perform_twice code site plainName plainSource same
  obtain ⟨status, filed, later, addedToo, checked, resembles⟩ := Alike.checked_perform code
    ((Alike.refl site).log .debug ("running " ++ path.display) []) (.addFile path.display)
  cases added.symm.trans addedToo
  have mode : filed.session.mode.canRun = true := by
    obtain ⟨id, binding, session_eq⟩ := ready.session_eq
    rw [makes.session_eq, session_eq, runs]
    rfl
  have unrelocated : filed.session.engine.relocated = false := by
    rw [makes.binding_eq, Binding.note_quiet _ rfl, ready.unrelocated]
  obtain ⟨made, keptOne, keptTwo, ended⟩ := alike.concludeTwice code (.compile path ⟨given⟩)
    (.compileText path) ⟨given⟩ mode unrelocated makes.exchanges_eq
  obtain ⟨sameOne, exchangesOne⟩ :=
    Resembles.conclude code resembles.resembles (.compile path ⟨given⟩) ⟨given⟩
  obtain ⟨sameTwo, exchangesTwo⟩ := concludeText_await code ready runs compiled path
  intro file text
  have file_eq : file = conclude code (.compile path ⟨given⟩) ⟨given⟩ later := by
    simp only [file, checked, continueWith]
  rw [← file_eq] at sameOne exchangesOne
  rw [List.append_assoc] at keptOne keptTwo
  refine ⟨_, _, ?_, exchangesOne.symm.trans keptOne, exchangesTwo.symm.trans keptTwo⟩
  rw [← sameOne, ← sameTwo]
  rcases ended with ⟨failed, rfl, left, right, endedOne, endedTwo⟩ |
    ⟨succeeded, answer, ran, endedOne, endedTwo⟩
  · rw [endedOne, endedTwo]
    exact .failed .nil failed
  · rw [endedOne, endedTwo]
    rw [makes.binding_eq] at ran
    have told : Ran site.session.engine.context 0 false made answer := ran
    exact .ran .nil succeeded told

/-- On a library that takes a file for its text, running the file and running its text end alike
and make the same native calls but for the one that compiles. -/
theorem runFile_runText {surroundings : Surroundings} (host : Host (Shared ν))
    (runs : config.mode = .execute) (plainName : 0 ∉ Text.encode path.display)
    (found : surroundings.files.readText path = .ok source)
    (plainSource : 0 ∉ Text.encode source)
    (same : ∀ image context state memory,
      code.invoke image (.addFile context ⟨Text.encode path.display, plainName⟩) state memory =
        code.invoke image (.compileString context ⟨Text.encode source, plainSource⟩) state memory) :
    ∃ made other,
      RanTwice ⟨Text.encode path.display, plainName⟩ ⟨Text.encode source, plainSource⟩
        (runFile code surroundings.environment path config host).1
        (runText code surroundings path config host).1 made other ∧
      exchanges (runFile code surroundings.environment path config host).2.journal =
        exchanges host.journal ++ made ∧
      exchanges (runText code surroundings path config host).2.journal =
        exchanges host.journal ++ other := by
  have config_eq : { config with mode := .execute } = config := by
    rw [← runs]
  rw [runFile, runText_eq, config_eq]
  obtain ⟨setup, harmless, way⟩ :=
    withSession_cases code (α := Int32) surroundings.environment config host
  rcases way with ⟨error, after, kept, stops⟩ | ⟨site, ready, kept, continues⟩
  · rw [stops, stops]
    exact ⟨setup, setup, .stopped harmless, kept, kept⟩
  · obtain ⟨made, other, ran, file, text⟩ :=
      twice_ready code ready runs plainName plainSource same
    rw [continues, continues, found]
    refine ⟨setup ++ made, setup ++ other, ran.after harmless, ?_, ?_⟩
    · rw [← List.append_assoc, ← kept]
      exact file
    · rw [← List.append_assoc, ← kept]
      exact text

end Twice

end CompileSession.Program
