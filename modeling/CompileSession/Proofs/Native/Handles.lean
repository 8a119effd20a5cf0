import CompileSession.Native.Process
import CompileSession.Proofs.Inline.Bindings
import CompileSession.Proofs.Program.Footprint
import CompileSession.Proofs.Session.Desk

/-!
# Memory behind handles

A place that foreign code and the allocator leave alone belongs to those who have a handle to it.
Whatever else happens in the process, such a place holds what was stored there last through a handle
or by a binding, or what it held when the handle was obtained.
-/

namespace CompileSession

/-- The copy of a text that a call stores for good, each byte with its place, given where the next
allocation goes. -/
def Call.copied (next : Address) {kind : AnswerKind} : Call kind → List (Address × UInt8)
  | .addSymbol _ (.text text) =>
    if 0 ∈ Text.encode text then [] else Memory.cells next (Text.encode text ++ [0])
  | _ => []

namespace Native

variable {ν : Type}

/-- In calm states foreign code leaves the guarded places as they are, and it stays calm. -/
structure ForeignCode.Spares (code : ForeignCode ν) (calm : ν → Prop) (guarded : Address → Prop) :
    Prop where
  calm_invoke {kind : ResultKind} (image : Nat) (call : NativeCall kind) (state : ν)
    (memory : Memory) : calm state → calm (code.invoke image call state memory).state
  byte_invoke {kind : ResultKind} (image : Nat) (call : NativeCall kind) (state : ν)
    (memory : Memory) (place : Address) : calm state → guarded place →
    (code.invoke image call state memory).memory.byte place = memory.byte place

variable {code : ForeignCode ν} {calm : ν → Prop} {guarded : Address → Prop}

/-- The places of some bytes side by side are guarded. -/
def Guards (guarded : Address → Prop) (address : Address) (count : Nat) : Prop :=
  ∀ offset < count, guarded (address + UInt64.ofNat offset)

/-- From a calm state on, nothing was stored at guarded places but the given bytes. -/
def Plant.Stores (calm : ν → Prop) (guarded : Address → Prop) (stored : List (Address × UInt8))
    (before after : Plant ν) : Prop :=
  calm before.shared.foreign → calm after.shared.foreign ∧
    ∀ place, guarded place → after.memory.byte place = before.memory.latest stored place

namespace Plant.Stores

variable {stored more : List (Address × UInt8)} {before middle after : Plant ν}

theorem refl (plant : Plant ν) : plant.Stores calm guarded [] plant :=
  fun quiet => ⟨quiet, fun _ _ => rfl⟩

theorem trans (first : before.Stores calm guarded stored middle)
    (second : middle.Stores calm guarded more after) :
    before.Stores calm guarded (stored ++ more) after := by
  intro quiet
  obtain ⟨still, early⟩ := first quiet
  obtain ⟨calmer, late⟩ := second still
  refine ⟨calmer, fun place own => ?_⟩
  rw [late place own, Memory.latest_append, ← early place own]
  rfl

/-- Copies that go elsewhere do not count. -/
theorem of_outside {copied : List (Address × UInt8)}
    (state : after.shared.foreign = before.shared.foreign)
    (memory : after.memory.byte = (before.memory.storeAll copied).byte)
    (outside : ∀ cell ∈ copied, ¬ guarded cell.1) : before.Stores calm guarded [] after := by
  intro quiet
  refine ⟨by rwa [state], fun place own => ?_⟩
  rw [memory, Memory.byte_storeAll, Memory.latest_of_apart]
  · rfl
  · rintro cell member rfl
    exact outside cell member own

theorem of_eq (state : after.shared.foreign = before.shared.foreign)
    (memory : after.memory = before.memory) : before.Stores calm guarded [] after := by
  intro quiet
  refine ⟨by rwa [state], fun place _ => ?_⟩
  rw [memory]
  rfl

/-- What is read from guarded places is what was stored there. -/
theorem read (stores : before.Stores calm guarded stored after) (quiet : calm before.shared.foreign)
    {address : Address} {count : Nat} (own : Guards guarded address count) :
    after.memory.read address count = (before.memory.storeAll stored).read address count := by
  apply Memory.read_congr
  intro offset inside
  rw [Memory.byte_storeAll]
  exact (stores quiet).2 _ (own offset inside)

end Plant.Stores

theorem foreign_receive (shared : Shared ν) (report : Report) :
    (shared.receive report).foreign = shared.foreign := by
  unfold Shared.receive
  split <;> rfl

theorem foreign_receiveAll (shared : Shared ν) (reports : List Report) :
    (reports.foldl Shared.receive shared).foreign = shared.foreign := by
  induction reports generalizing shared with
  | nil => rfl
  | cons report rest ih => exact (ih _).trans (foreign_receive shared report)

theorem Plant.perform_stores (spares : code.Spares calm guarded) (image : Nat) {kind : ResultKind}
    (call : NativeCall kind) (plant : Plant ν) :
    plant.Stores calm guarded [] (plant.perform code image call).2 := by
  intro quiet
  refine ⟨?_, fun place own => spares.byte_invoke image call _ _ place quiet own⟩
  simp only [Plant.perform, foreign_receiveAll]
  exact spares.calm_invoke image call _ _ quiet

theorem Script.run_stores (spares : code.Spares calm guarded) (image : Nat) {α : Type}
    (script : Script α) (plant : Plant ν) :
    plant.Stores calm guarded [] (script.run code image plant).2.2 := by
  induction script generalizing plant with
  | done value => exact .refl plant
  | call native next ih => exact (plant.perform_stores spares image native).trans (ih _ _)

theorem Plant.prepare_stores {kind : AnswerKind} (sink : Nat) (call : Call kind) (plant : Plant ν)
    (outside : ∀ cell ∈ call.copied plant.memory.next, ¬ guarded cell.1) :
    plant.Stores calm guarded [] (plant.prepare sink call) := by
  unfold Plant.prepare
  split
  case h_1 text =>
    split
    case isTrue => exact .refl plant
    case isFalse plain =>
      rw [Call.copied, if_neg plain] at outside
      refine .of_outside rfl ?_ outside
      rw [← Memory.write_eq_storeAll]
      rfl
  case h_2 => exact .of_eq rfl rfl
  case h_3 => exact .refl plant

theorem invoke_stores (spares : code.Spares calm guarded) (library : Library) {kind : ResultKind}
    (call : NativeCall kind) (machine : Machine (Shared ν)) :
    (plant machine).Stores calm guarded [] (plant (invoke code library call machine).2) := by
  rw [(invoke_eq code library call machine).2.1]
  exact Plant.perform_stores spares library.image call (plant machine)

theorem Logs.plant_eq {machine after : Machine (Shared ν)} (logs : Logs machine after) :
    plant after = plant machine := by
  induction logs with
  | nothing => rfl
  | log level message fields _ ih => exact ih

theorem byDefault_stores (code : ForeignCode ν) (environment : Environment)
    (machine : Machine (Shared ν)) :
    (plant machine).Stores calm guarded []
      (plant (Library.byDefault code environment machine).2) := by
  obtain ⟨after, default, logs, same⟩ := Library.byDefault_logs code machine environment
  have kept := logs.plant_eq
  rw [same, ← kept]
  exact .of_eq rfl rfl

namespace Binding

theorem create_stores (spares : code.Spares calm guarded) (library : Library)
    (machine : Machine (Shared ν)) :
    (plant machine).Stores calm guarded [] (plant (create code library machine).2) := by
  have asked := invoke_stores spares library .new machine
  unfold create
  dsimp only
  split
  case isTrue => exact asked
  case isFalse =>
    have prepared := asked.trans (.of_eq rfl rfl : (plant _).Stores calm guarded []
      (plant (changeSinks (· ++ [[]]) (invoke code library .new machine).2)))
    exact prepared.trans (invoke_stores spares library _ _)

theorem createByDefault_stores (spares : code.Spares calm guarded) (environment : Environment)
    (machine : Machine (Shared ν)) :
    (plant machine).Stores calm guarded []
      (plant (createByDefault code environment machine).2) := by
  have found : (plant machine).Stores calm guarded [] _ :=
    byDefault_stores code environment machine
  unfold createByDefault
  split
  case h_1 error after located =>
    rw [located] at found
    exact found
  case h_2 library after located =>
    rw [located] at found
    exact found.trans (create_stores spares library after)

end Binding

/-- What native calls work on when an engine serves. -/
def benchPlant (bench : Bench (Shared ν) Binding) : Plant ν where
  shared := bench.shared
  memory := bench.memory

theorem serve_stores (spares : code.Spares calm guarded) (request : Request)
    (bench : Bench (Shared ν) Binding)
    (outside : ∀ cell ∈ request.call.copied bench.memory.next, ¬ guarded cell.1) :
    (benchPlant bench).Stores calm guarded []
      (benchPlant ((Binding.engine code).serve request bench).2) := by
  have follows : benchPlant ((Binding.engine code).serve request bench).2 = _ :=
    (follows_answer code request.call bench.state
      { memory := bench.memory, shared := bench.shared }).plant_eq
  have prepared : (benchPlant bench).Stores calm guarded [] _ :=
    Plant.prepare_stores bench.state.sink request.call (benchPlant bench) outside
  have served := prepared.trans (Script.run_stores spares bench.state.library.image
    (bench.state.script request.call (benchPlant bench)) _)
  rw [follows]
  exact served

theorem serveAll_stores (spares : code.Spares calm guarded) (requests : List Request)
    (bench : Bench (Shared ν) Binding)
    (plain : ∀ request ∈ requests, ∀ next, request.call.copied next = []) :
    (benchPlant bench).Stores calm guarded []
      (benchPlant ((Binding.engine code).serveAll requests bench).2) := by
  induction requests generalizing bench with
  | nil => exact .refl _
  | cons request rest ih =>
      obtain ⟨first, others⟩ := List.forall_mem_cons.mp plain
      have outside : ∀ cell ∈ request.call.copied bench.memory.next, ¬ guarded cell.1 := by
        rw [first]
        exact List.forall_mem_nil _
      exact (serve_stores spares request bench outside).trans (ih _ others)

/-- No call of a configuration copies a text. -/
theorem copied_settings (config : SessionConfig) :
    ∀ call ∈ config.settings, ∀ next, call.copied next = [] :=
  config.forall_settings fun _ =>
    ⟨fun _ => rfl, fun _ => rfl, fun _ => rfl, fun _ => rfl, fun _ => rfl, fun _ => rfl⟩

theorem copied_opening (mode : OutputMode) (dynamicLinking : Bool) :
    ∀ call ∈ Session.opening mode dynamicLinking, ∀ next, call.copied next = [] := by
  cases dynamicLinking <;> simp [Session.opening, Call.copied]

theorem copied_of_done (call : Call .done) (next : Address) : call.copied next = [] := by
  cases call <;> rfl

theorem createConfigured_stores (spares : code.Spares calm guarded) (binding : Binding)
    (config : SessionConfig) (host : Host (Shared ν)) :
    (plant host.toMachine).Stores calm guarded []
      (plant (Session.createConfigured (Binding.engine code) binding config
        host).2.host.toMachine) := by
  obtain ⟨made, asked, configured⟩ :=
    Session.createConfigured_asked (Binding.engine code) binding config host
  have plain : ∀ answer ∈ made, ∀ next, answer.call.copied next = [] :=
    configured.forall_calls (P := fun call => ∀ next, call.copied next = [])
      (copied_opening config.mode host.dynamicLinking) (copied_settings config)
      (fun call _ => copied_of_done call)
  have served := serveAll_stores spares (made.map Answer.toRequest)
    (Session.unopened binding config.mode config.workers config.delivery host).bench
    (List.forall_mem_map.mpr plain)
  rw [asked.served] at served
  exact served

/-- What happens at a session stores nothing at guarded places, unless a text is copied there. -/
theorem move?_stores (spares : code.Spares calm guarded) {scene after : Scene (Shared ν) Binding}
    {move : Move} (moved : scene.move? (Binding.engine code) move = some after)
    (outside : ∀ position operation, move = .answer position →
      scene.operations[position]? = some operation →
      ∀ cell ∈ operation.call.copied scene.site.host.memory.next, ¬ guarded cell.1) :
    (plant scene.site.host.toMachine).Stores calm guarded [] (plant after.site.host.toMachine) := by
  have still (same : after.desk.bench = scene.desk.bench) :
      (plant scene.site.host.toMachine).Stores calm guarded []
        (plant after.site.host.toMachine) := by
    have plants : plant after.site.host.toMachine = plant scene.site.host.toMachine :=
      congrArg benchPlant same
    exact plants ▸ .refl _
  have step := Scene.desk_move? moved
  generalize first : scene.desk = desk at step still
  generalize last : after.desk = final at step still
  cases step with
  | still | ask | acquire | tell | takeUp => exact still rfl
  | answer =>
      -- The desk does not tell which call is answered; the move does.
      cases Scene.Moves.of_move? moved with
      | @answer position caller kind call found =>
          exact serve_stores spares ⟨.caller caller, call⟩ scene.site.bench
            (outside _ _ rfl found)
  | @compile _ job reply bench held served =>
      subst first
      have stores := serve_stores spares ⟨.unit job.ticket, .compileString job.source⟩
        scene.desk.bench (List.forall_mem_nil _)
      rw [served] at stores
      have plants : plant after.site.host.toMachine = benchPlant bench :=
        congrArg (fun desk : Desk (Shared ν) Binding => benchPlant desk.bench) last
      rw [plants]
      exact stores

/-- Of all that is done to bind a generator only the filling of slots stores anything. -/
theorem does_stores (spares : code.Spares calm guarded) {start site : Site (Shared ν) Binding}
    {deeds : List Deed} (does : start.Does (Binding.engine code) deeds site) :
    (plant start.host.toMachine).Stores calm guarded (deeds.flatMap Deed.cells)
      (plant site.host.toMachine) := by
  induction does with
  | nothing => exact .refl _
  | @lookUp deeds site name _ ih =>
      have asked := (Site.lookUp_asked (Binding.engine code) name site).served
      have looked := serve_stores spares ⟨.caller 0, .getSymbol name⟩ site.bench
        (List.forall_mem_nil _)
      have served : benchPlant ((Binding.engine code).serve ⟨.caller 0, .getSymbol name⟩
          site.bench).2 = plant (site.lookUp (Binding.engine code) name).2.host.toMachine :=
        congrArg (fun served => benchPlant served.2) asked
      rw [served] at looked
      rw [List.flatMap_append]
      exact ih.trans looked
  | @fill deeds site slot value _ ih =>
      have filled : (plant site.host.toMachine).Stores calm guarded
          (Deed.fill slot value).cells (plant (site.fill slot value).host.toMachine) :=
        fun quiet => ⟨quiet, fun place _ => by
          rw [← Memory.byte_storeAll]
          exact congrArg (·.byte place) (Site.fill_eq_storeAll slot value site)⟩
      rw [List.flatMap_append, List.flatMap_singleton]
      exact ih.trans filled
  | log level message fields _ ih => exact ih

namespace Process

/-- The bytes that an act stores through a handle, each with its place. -/
def Act.written : Act → List (Address × UInt8)
  | .writeSymbol handle type value => Memory.cells handle.address (type.encode value)
  | _ => []

/-- The copy of a text that is stored for good when something happens. -/
def copied (process : Process ν) : Act → List (Address × UInt8)
  | .move index (.answer position) =>
    match process.casts[index]?.bind fun cast => cast.operations[position]? with
    | some operation => operation.call.copied process.host.memory.next
    | none => []
  | _ => []

/-- A session of the process with its host. -/
def site (process : Process ν) (cast : Cast Binding) : Site (Shared ν) Binding where
  host := process.host
  session := cast.session

/-- The process after something was done at one of its sessions. -/
def leave (process : Process ν) (index : Nat) (cast : Cast Binding)
    (site : Site (Shared ν) Binding) : Process ν :=
  { process with
    host := site.host
    casts := process.casts.set index { cast with session := site.session } }

/-- Things happen one after another, and unbound generators are bound to sessions.  All bytes that
are stored through handles or by a binding are listed, and texts are copied to places that are not
guarded.  A binding that other things interrupt is a sequence of acts. -/
inductive Reaches (code : ForeignCode ν) (guarded : Address → Prop) (start : Process ν) :
    List (Address × UInt8) → Process ν → Prop where
  | start : Reaches code guarded start [] start
  | act {stored : List (Address × UInt8)} {now after : Process ν} (act : Act) :
      Reaches code guarded start stored now → now.act? code act = some after →
      (∀ cell ∈ now.copied act, ¬ guarded cell.1) →
      Reaches code guarded start (stored ++ act.written) after
  | bind {stored : List (Address × UInt8)} {now : Process ν} {index : Nat} {cast : Cast Binding}
      {generator after : Generator} {reply : Reply (Except SessionError Bindings)}
      {site : Site (Shared ν) Binding} {deeds : List Deed} :
      Reaches code guarded start stored now → now.casts[index]? = some cast →
      generator.bound = none →
      generator.bind (Binding.engine code) (now.site cast) = (reply, after, site) →
      (now.site cast).Does (Binding.engine code) deeds site → generator.Binds deeds reply after →
      Reaches code guarded start (stored ++ deeds.flatMap Deed.cells) (now.leave index cast site)

/-- What native calls work on in a process. -/
def plant (process : Process ν) : Plant ν :=
  Native.plant process.host.toMachine

variable {process after start finish : Process ν} {stored copied : List (Address × UInt8)}

theorem keepEngine_plant (created : Except EngineError Binding × Machine (Shared ν))
    (process : Process ν) : (process.keepEngine created).plant = Native.plant created.2 := by
  unfold keepEngine
  split <;> rfl

theorem act?_stores (spares : code.Spares calm guarded) {act : Act}
    (acted : process.act? code act = some after)
    (outside : ∀ cell ∈ process.copied act, ¬ guarded cell.1) :
    process.plant.Stores calm guarded act.written after.plant := by
  cases act with
  | createEngine library =>
      cases acted
      rw [keepEngine_plant]
      exact Binding.create_stores spares library process.host.toMachine
  | createDefaultEngine environment =>
      cases acted
      rw [keepEngine_plant]
      exact Binding.createByDefault_stores spares environment process.host.toMachine
  | createSession position config =>
      simp only [act?, createSession?, Option.map_eq_some_iff] at acted
      obtain ⟨binding, -, rfl⟩ := acted
      have made := createConfigured_stores spares binding config process.host
      split <;> exact made
  | move index move =>
      simp only [act?, move?, Option.bind_eq_some_iff, Option.map_eq_some_iff] at acted
      obtain ⟨cast, found, scene, moved, rfl⟩ := acted
      apply move?_stores spares moved
      rintro position operation rfl listed
      have copies : process.copied (.move index (.answer position)) =
          operation.call.copied process.host.memory.next := by
        have own : cast.operations[position]? = some operation := listed
        simp only [copied, found, Option.bind_some, own]
      rw [copies] at outside
      exact outside
  | callFunction library function argc =>
      cases acted
      exact invoke_stores spares library _ process.host.toMachine
  | writeSymbol handle type value =>
      cases acted
      intro quiet
      refine ⟨quiet, fun place _ => ?_⟩
      rw [← Memory.byte_storeAll]
      exact congrArg (·.byte place) (Memory.write_eq_storeAll ..)

theorem Reaches.stores (spares : code.Spares calm guarded)
    (reaches : start.Reaches code guarded stored finish) :
    start.plant.Stores calm guarded stored finish.plant := by
  induction reaches with
  | start => exact .refl _
  | act act _ acted outside ih => exact ih.trans (act?_stores spares acted outside)
  | bind _ found unbound bound does binds ih => exact ih.trans (does_stores spares does)

/-- Every binding of an unbound generator is accounted for. -/
theorem Reaches.exists_bind (reaches : start.Reaches code guarded stored process) {index : Nat}
    {cast : Cast Binding} (found : process.casts[index]? = some cast) {generator : Generator}
    (unbound : generator.bound = none) :
    ∃ deeds, start.Reaches code guarded (stored ++ List.flatMap Deed.cells deeds)
      (process.leave index cast
        (generator.bind (Binding.engine code) (process.site cast)).2.2) := by
  obtain ⟨deeds, does, binds⟩ :=
    Generator.bind_does (Binding.engine code) (process.site cast) unbound
  exact ⟨deeds, reaches.bind found unbound rfl does binds⟩

theorem host_answer {index position caller : Nat} {cast : Cast Binding} {kind : AnswerKind}
    {call : Call kind} {stage : Stage kind} (found : process.casts[index]? = some cast)
    (asked : cast.operations[position]? = some ⟨caller, call, stage⟩)
    (answered : process.act? code (.move index (.answer position)) = some after) :
    after.host = ((process.site cast).perform (Binding.engine code) none call).2.host := by
  simp only [act?, move?, found, Option.bind_some, Option.map_eq_some_iff] at answered
  obtain ⟨scene, moved, rfl⟩ := answered
  cases Scene.Moves.of_move? moved with
  | answer found =>
      cases Option.some.inj (found.symm.trans asked)
      rfl

/-- A text that was registered lies where the library was told, with a zero byte behind it. -/
theorem text_registered (spares : code.Spares calm guarded) {index position caller : Nat}
    {cast : Cast Binding} {name text : String} {stage : Stage .status}
    (found : process.casts[index]? = some cast)
    (asked : cast.operations[position]? = some ⟨caller, .addSymbol name (.text text), stage⟩)
    (answered : process.act? code (.move index (.answer position)) = some after)
    (nameZero : 0 ∉ Text.encode name) (textZero : 0 ∉ Text.encode text)
    (short : (Text.encode text).length < UInt64.size) (quiet : calm process.host.shared.foreign)
    (own : Guards guarded process.host.memory.next ((Text.encode text).length + 1)) :
    (∃ given, exchanges after.host.journal = exchanges process.host.journal ++
      [⟨.addSymbol cast.session.engine.context ⟨Text.encode name, nameZero⟩
        process.host.memory.next, given⟩]) ∧
      after.host.memory.read process.host.memory.next ((Text.encode text).length + 1) =
        Text.encode text ++ [0] := by
  obtain ⟨site, performed, makes, plants⟩ := Program.perform_makes code none
    (.addSymbol name (.text text)) (process.site cast)
  have host := host_answer found asked answered
  rw [performed] at host
  let engine := cast.session.engine
  obtain ⟨copied, given, last, translated⟩ := engine.translate_addSymbol_text process.plant
    nameZero textZero short
  have call : Program.translation code (.addSymbol name (.text text)) (process.site cast) = _ :=
    translated
  constructor
  · refine ⟨given, ?_⟩
    rw [host, makes.exchanges_eq, call]
    rfl
  · -- The copy was stored before the library was called, which leaves it as it is.
    let prepared := process.plant.prepare engine.sink (.addSymbol name (.text text))
    have state : prepared.shared = process.plant.shared := by
      simp only [prepared, Plant.prepare, if_neg textZero]
    have stores := Script.run_stores spares engine.library.image
      (engine.script (.addSymbol name (.text text)) process.plant) prepared
    have kept := (stores.read (state ▸ quiet) own).trans copied
    have memory : after.host.memory = (Native.plant site.host.toMachine).memory :=
      congrArg (fun host : Host (Shared ν) => host.memory) host
    rw [memory, plants]
    exact kept

/-- Whatever happens from the moment on at which a handle was obtained, the places behind it hold
what was stored there last through a handle or by a binding, or what they held then, and that is
what is read.  So a value can be read as it was written, through any handle to the place, and a
registered text stays as it is, until something is stored there. -/
theorem handles_hold_what_was_stored (spares : code.Spares calm guarded)
    (quiet : calm start.host.shared.foreign)
    (reaches : start.Reaches code guarded stored finish) :
    (∀ place, guarded place →
      finish.host.memory.byte place = start.host.memory.latest stored place) ∧
    (∀ (handle : SymbolHandle) (type : IntegerType), Guards guarded handle.address type.size →
      handle.read type finish.host.memory = type.decode ((List.range type.size).map fun offset =>
        start.host.memory.latest stored (handle.address + UInt64.ofNat offset))) ∧
    (∀ (handle other : SymbolHandle) (type : IntegerType) (value : Int)
      (earlier later : List (Address × UInt8)), other.address = handle.address →
      Guards guarded handle.address type.size → type.size ≤ UInt64.size → type.Holds value →
      stored = earlier ++ Memory.cells handle.address (type.encode value) ++ later →
      Memory.Apart later handle.address type.size → other.read type finish.host.memory = value) ∧
    (∀ (before : Process ν) (index position caller : Nat) (cast : Cast Binding)
      (name text : String) (nameZero : 0 ∉ Text.encode name), 0 ∉ Text.encode text →
      (Text.encode text).length < UInt64.size → calm before.host.shared.foreign →
      Guards guarded before.host.memory.next ((Text.encode text).length + 1) →
      before.casts[index]? = some cast →
      cast.operations[position]? = some ⟨caller, .addSymbol name (.text text), .owning⟩ →
      before.act? code (.move index (.answer position)) = some start →
      Memory.Apart stored before.host.memory.next ((Text.encode text).length + 1) →
      (∃ given, exchanges start.host.journal = exchanges before.host.journal ++
        [⟨.addSymbol cast.session.engine.context ⟨Text.encode name, nameZero⟩
          before.host.memory.next, given⟩]) ∧
        finish.host.memory.read before.host.memory.next ((Text.encode text).length + 1) =
          Text.encode text ++ [0]) := by
  have stores := reaches.stores spares
  refine ⟨(stores quiet).2, ?_, ?_, ?_⟩
  · intro handle type own
    have bytes := stores.read quiet own
    simp only [Memory.read, Memory.byte_storeAll] at bytes
    exact congrArg type.decode bytes
  · rintro handle other type value earlier later same own small holds rfl apart
    have bytes := stores.read quiet own
    rw [← type.length_encode value] at small apart
    have written : (start.host.memory.storeAll (earlier ++
        Memory.cells handle.address (type.encode value) ++ later)).read handle.address
          (type.encode value).length = type.encode value := Memory.read_storeAll small apart
    rw [type.length_encode] at written
    rw [SymbolHandle.read, same]
    exact (congrArg type.decode (bytes.trans written)).trans (type.decode_encode holds)
  · intro before index position caller cast name text nameZero textZero short calmBefore own
      found asked answered apart
    obtain ⟨registered, copied⟩ :=
      text_registered spares found asked answered nameZero textZero short calmBefore own
    refine ⟨registered, ?_⟩
    exact ((stores.read quiet own).trans (Memory.read_storeAll_of_apart apart)).trans copied

/-- A library that counts its calls in memory, at the place zero. -/
def counting : ForeignCode Unit where
  openImage _ _ := .ok 0
  missing? _ _ _ := none
  invoke {kind} _ call _ memory :=
    { result :=
        match kind, call with
        | .address, .getSymbol _ _ => (0x1004 : Address)
        | .address, _ => (64 : Address)
        | .code, _ => (0 : Int32)
        | .nothing, _ => ()
      state := ()
      memory := memory.set 0 (memory.byte 0 + 1)
      reports := [] }

/-- A text is registered; a slot is filled, and two writes overlap in what a symbol names; then a
compiled function is called, and the session is dropped. -/
theorem handles_hold_what_was_stored_sample :
    let first : SymbolHandle := ⟨0x1000, by decide⟩
    let middle : SymbolHandle := ⟨0x1002, by decide⟩
    let before := ((initial () (.zeroed 1) true).follow? counting
      [.createEngine ⟨"libtcc.so", 0⟩, .createSession 0 {},
        .move 0 (.ask 1 (.addSymbol "s" (.text "hi"))), .move 0 (.acquire 0)]).get rfl
    let start := (before.act? counting (.move 0 (.answer 0))).get rfl
    let told := (start.act? counting (.move 0 (.tell 0))).get rfl
    counting.Spares (fun _ => True) (· ≠ 0) ∧ start.Reaches counting (· ≠ 0) [] told ∧
    told.host.memory.read 1 3 = [104, 105, 0] ∧ told.host.memory.byte 0 = 4 ∧
    ∃ deeds finish, start.Reaches counting (· ≠ 0)
        (List.flatMap Deed.cells deeds ++
          Memory.cells first.address (IntegerType.encode ⟨4, false⟩ 0x11223344) ++
          Memory.cells middle.address (IntegerType.encode ⟨2, false⟩ 0xAABB)) finish ∧
      finish.host.memory.read 0x1004 8 = List.replicate 8 0x55 ∧
      first.read ⟨4, false⟩ finish.host.memory = 0xAABB3344 ∧
      middle.read ⟨2, false⟩ finish.host.memory = 0xAABB := by
  intro first middle before start told
  have spares : counting.Spares (fun _ => True) (· ≠ 0) :=
    ⟨fun _ _ _ _ _ => trivial, fun _ _ _ _ _ _ other => if_neg other⟩
  have uncopied {act : Act} {process : Process Unit} (none : process.copied act = []) :
      ∀ cell ∈ process.copied act, ¬ (cell.1 ≠ 0) := by
    rw [none]
    exact List.forall_mem_nil _
  have reached : start.Reaches counting (· ≠ 0) [] told :=
    .act (.move 0 (.tell 0)) .start (Option.some_get _).symm (uncopied rfl)
  obtain ⟨-, -, -, copied⟩ := handles_hold_what_was_stored spares trivial reached
  have copy : ∀ offset < 3, before.host.memory.next + UInt64.ofNat offset ≠ 0 := by decide +kernel
  obtain ⟨-, text⟩ := copied before 0 0 1 (before.casts[0]?.get rfl) "s" "hi" (by decide)
    (by decide) (by decide) trivial copy (Option.some_get _).symm rfl (Option.some_get _).symm
    (fun _ _ => List.forall_mem_nil _)
  have found : told.casts[0]? = some (told.casts[0]?.get rfl) := (Option.some_get _).symm
  let hooked : Generator :=
    { declarations := [{ hostFunctions := [("hook", 0x5555555555555555)] }] }
  obtain ⟨deeds, bound⟩ := reached.exists_bind found (rfl : hooked.bound = none)
  have written := bound.act (.writeSymbol first ⟨4, false⟩ 0x11223344) rfl (uncopied rfl)
  have overwritten := written.act (.writeSymbol middle ⟨2, false⟩ 0xAABB) rfl (uncopied rfl)
  have called := overwritten.act (.callFunction ⟨"libtcc.so", 0⟩ 64 1) rfl (uncopied rfl)
  have closed := called.act (.move 0 .close) rfl (uncopied rfl)
  simp only [Act.written, List.append_nil, List.nil_append] at closed
  obtain ⟨-, -, kept, -⟩ := handles_hold_what_was_stored spares trivial closed
  have behind : ∀ offset < 2, middle.address + UInt64.ofNat offset ≠ 0 := by decide
  have last := kept middle middle ⟨2, false⟩ 0xAABB _ [] rfl behind (by decide) (by decide)
    (List.append_nil _).symm (fun _ _ => List.forall_mem_nil _)
  exact ⟨spares, reached, text, by decide +kernel, deeds, _, closed, by decide +kernel,
    by decide +kernel, last⟩

end Process

end Native

end CompileSession
