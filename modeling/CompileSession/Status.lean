/-!
# Status codes and output modes

A compiler engine answers most calls with a signed code: zero or more is success, less is failure.
Codes are passed on as they are.
-/

namespace CompileSession

/-- A signed code as an engine reports it. -/
structure Status where
  code : Int32
deriving DecidableEq, Repr

namespace Status

def ok : Status := ⟨0⟩

/-- The failure of a call that cannot reach the engine at all. -/
def failed : Status := ⟨-1⟩

def isErr (status : Status) : Bool :=
  status.code < 0

def isOk (status : Status) : Bool :=
  0 ≤ status.code

def le (left right : Status) : Bool :=
  left.code ≤ right.code

def text (status : Status) : String :=
  toString status.code.toInt

theorem isErr_eq_not_isOk (status : Status) : status.isErr = !status.isOk := by
  have zero : Int32.toInt 0 = 0 := rfl
  by_cases negative : status.code.toInt < 0
  · simp [isErr, isOk, Int32.lt_iff_toInt_lt, Int32.le_iff_toInt_le, negative]
  · simp [isErr, isOk, Int32.lt_iff_toInt_lt, Int32.le_iff_toInt_le, negative,
      Int.not_lt.mp negative]

end Status

/-- What a session's compiled code is for; fixed when the session is made. -/
inductive OutputMode where
  /-- Compiled into memory to be looked at; it cannot be run. -/
  | inspect
  /-- Compiled into memory to be run. -/
  | execute
deriving DecidableEq, Repr

namespace OutputMode

/-- The mode of a session that does not say otherwise. -/
def default : OutputMode := .execute

/-- The number that stands for the mode at the compiler's own interface. -/
def raw : OutputMode → Int32
  | .inspect => 0
  | .execute => 1

/-- Whether sessions of this mode run compiled code. -/
def canRun : OutputMode → Bool
  | .inspect => false
  | .execute => true

/-- The mode's name in configuration files and messages. -/
def text : OutputMode → String
  | .inspect => "inspect"
  | .execute => "execute"

/-- The mode's name in a description of a session's state. -/
def label : OutputMode → String
  | .inspect => "Inspect"
  | .execute => "Execute"

end OutputMode

/-- Where the completion of an asynchronous compile runs. -/
inductive Delivery where
  /-- On the pool worker that compiled, right after it has released the engine. -/
  | worker
  /-- On the thread that next asks the session to deliver its completions. -/
  | queued
deriving DecidableEq, Repr

namespace Delivery

/-- The delivery of a session that does not say otherwise. -/
def default : Delivery := .worker

def text : Delivery → String
  | .worker => "worker"
  | .queued => "queued"

/-- The delivery's name in a description of a session's state. -/
def label : Delivery → String
  | .worker => "Worker"
  | .queued => "Queued"

end Delivery

end CompileSession
