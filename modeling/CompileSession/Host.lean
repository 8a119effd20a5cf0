import CompileSession.Journal

/-!
# Hosts and engines

Engines work on a machine: memory, whatever they share, and a journal.  A host is the machine
together with what sessions share beside it.  An engine is given by what it does on each call.
-/

namespace CompileSession

/-- What engines work on. -/
structure Machine (η : Type) where
  memory : Memory
  shared : η
  journal : Journal := []

namespace Machine

variable {η : Type}

def record (machine : Machine η) (entry : Entry) : Machine η :=
  { machine with journal := machine.journal ++ [entry] }

def log (machine : Machine η) (level : Log.Level) (message : String)
    (fields : List (String × Log.Value) := []) : Machine η :=
  machine.record (.event { level, message, fields })

end Machine

/-- What the sessions of a process share. -/
structure Host (η : Type) extends Machine η where
  /-- The number of the next session. -/
  nextSession : Nat := 1
  /-- Whether compiled code can use shared libraries on this host. -/
  dynamicLinking : Bool := true

namespace Host

variable {η : Type}

def record (host : Host η) (entry : Entry) : Host η :=
  { host with toMachine := host.toMachine.record entry }

def log (host : Host η) (level : Log.Level) (message : String)
    (fields : List (String × Log.Value) := []) : Host η :=
  { host with toMachine := host.toMachine.log level message fields }

end Host

/-- An engine: what it does with its own state `σ` and the machine on each call.  The journal that
it is given is empty, so that no answer depends on the past but through the states. -/
structure Engine (η σ : Type) where
  perform : {kind : AnswerKind} → Call kind → σ → Machine η → Reply kind.Answer × σ × Machine η

end CompileSession
