import CompileSession.Native.Binding
import CompileSession.Session.Creation
import CompileSession.Session.Schedule

/-!
# Processes

Engines are brought up on libraries and sessions are made of them.  Whatever can happen at a session
can happen at each of them, in any order; in between, compiled functions are called and what symbols
name is overwritten.
-/

namespace CompileSession

/-- A session and what its threads are in the middle of: a scene without its host. -/
structure Cast (σ : Type) where
  session : Session σ
  operations : List Operation := []
  drains : List Drain := []
  running : List Activation := []
  /-- The calls that the engine has answered, in order. -/
  calls : List Answer := []
  /-- What callers were told in the end, in order. -/
  told : List Answer := []

variable {η σ : Type}

def Cast.scene (host : Host η) (cast : Cast σ) : Scene η σ where
  site := { host, session := cast.session }
  operations := cast.operations
  drains := cast.drains
  running := cast.running
  calls := cast.calls
  told := cast.told

def Scene.cast (scene : Scene η σ) : Cast σ where
  session := scene.session
  operations := scene.operations
  drains := scene.drains
  running := scene.running
  calls := scene.calls
  told := scene.told

namespace Native

/-- What a process has made, and its host. -/
structure Process (ν : Type) where
  host : Host (Shared ν)
  /-- The engines that no session has been made of. -/
  engines : List Binding := []
  casts : List (Cast Binding) := []

namespace Process

/-- Something that can happen in a process. -/
inductive Act where
  /-- An engine is brought up on a library. -/
  | createEngine (library : Library)
  /-- An engine is brought up on the default library. -/
  | createDefaultEngine (environment : Environment)
  /-- A session is made of the engine at a position and configured. -/
  | createSession (position : Nat) (config : SessionConfig)
  /-- Something happens at one of the sessions. -/
  | move (index : Nat) (move : Move)
  /-- A compiled function is called. -/
  | callFunction (library : Library) (function : Address) (argc : Int32)
  /-- The integer that a symbol names is overwritten. -/
  | writeSymbol (handle : SymbolHandle) (type : IntegerType) (value : Int)

variable {ν : Type}

/-- A process that has done nothing yet. -/
def initial (foreign : ν) (memory : Memory) (dynamicLinking : Bool) : Process ν where
  host := { memory, shared := { foreign }, dynamicLinking }

def setMachine (machine : Machine (Shared ν)) (process : Process ν) : Process ν :=
  { process with host := { process.host with toMachine := machine } }

/-- Keeps an engine that was brought up, if it was. -/
def keepEngine (created : Except EngineError Binding × Machine (Shared ν)) (process : Process ν) :
    Process ν :=
  let process := process.setMachine created.2
  match created.1 with
  | .ok binding => { process with engines := process.engines ++ [binding] }
  | .error _ => process

/-- Makes a session of an engine.  If it cannot be configured, it is gone, and its engine too. -/
def createSession? (code : ForeignCode ν) (position : Nat) (config : SessionConfig)
    (process : Process ν) : Option (Process ν) :=
  process.engines[position]?.map fun binding =>
    let (result, site) :=
      Session.createConfigured (Binding.engine code) binding config process.host
    let process := { process with
      host := site.host
      engines := process.engines.eraseIdx position }
    match result with
    | .returned (.ok ()) => { process with casts := process.casts ++ [{ session := site.session }] }
    | _ => process

/-- Something happens at one of the sessions, if it can. -/
def move? (code : ForeignCode ν) (index : Nat) (move : Move) (process : Process ν) :
    Option (Process ν) :=
  process.casts[index]?.bind fun cast =>
    ((cast.scene process.host).move? (Binding.engine code) move).map fun scene =>
      { process with host := scene.site.host, casts := process.casts.set index scene.cast }

/-- The process after something has happened, if that is possible. -/
def act? (code : ForeignCode ν) (process : Process ν) : Act → Option (Process ν)
  | .createEngine library =>
    some (process.keepEngine (Binding.create code library process.host.toMachine))
  | .createDefaultEngine environment =>
    some (process.keepEngine
      (Binding.createByDefault code environment process.host.toMachine))
  | .createSession position config => process.createSession? code position config
  | .move index move => process.move? code index move
  | .callFunction library function argc =>
    some (process.setMachine
      (invoke code library (.main function argc) process.host.toMachine).2)
  | .writeSymbol handle type value =>
    some (process.setMachine { process.host.toMachine with
      memory := handle.write type value process.host.memory })

/-- The process after several things have happened one after another. -/
def follow? (code : ForeignCode ν) (process : Process ν) (acts : List Act) :
    Option (Process ν) :=
  acts.foldlM (fun process act => process.act? code act) process

end Process

end Native

end CompileSession
