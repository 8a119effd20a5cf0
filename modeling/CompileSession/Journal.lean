import CompileSession.Engine.Call
import CompileSession.Engine.Error
import CompileSession.Log
import CompileSession.Native.EntryPoint

/-!
# Journals

A journal tells everything that happened in a process, in order: what was logged, which calls were
made and how they ended, and what became of the units that were submitted.
-/

namespace CompileSession

/-- Why a call came to a sudden end instead of returning. -/
inductive Panic where
  | engine (message : String)
  | completion (session ticket : Nat)
deriving DecidableEq, Repr

/-- How a call ended. -/
inductive Reply (α : Type) where
  | returned (value : α)
  | panicked (panic : Panic)
deriving DecidableEq, Repr

/-- What runs a completion. -/
inductive Runner where
  /-- The thread that asked for the delivery of completions. -/
  | caller
  /-- A worker of the session's pool. -/
  | worker
  /-- A thread that delivers one rejection. -/
  | messenger
deriving DecidableEq, Repr

/-- Something that happened. -/
inductive Entry where
  /-- Something was logged. -/
  | event (event : Log.Event)
  /-- A session called its engine, perhaps to compile one of its units. -/
  | engineCall (session : Nat) (ticket : Option Nat) {kind : AnswerKind} (call : Call kind)
      (reply : Reply kind.Answer)
  /-- A library, or code that it compiled, was called, and reported messages meanwhile. -/
  | nativeCall {kind : Native.ResultKind} (call : Native.NativeCall kind) (result : kind.Result)
      (reports : List Native.Report)
  /-- A unit was submitted; `isFuture` tells whether somebody holds a future for it. -/
  | submitted (session ticket : Nat) (isFuture : Bool)
  /-- A finished unit entered its session's queue. -/
  | queued (session ticket : Nat)
  /-- The completion of a unit was invoked. -/
  | invoked (session ticket : Nat) (outcome : CompileOutcome) (runner : Runner)
  /-- The completion of a unit went away without having been invoked. -/
  | abandoned (session ticket : Nat)
  /-- A caller was told how many completions were delivered to it. -/
  | delivered (session count : Nat)

/-- Whether an entry is about the machine alone.  All others are for sessions to add. -/
def Entry.ofMachine : Entry → Bool
  | .event _ | .nativeCall _ _ _ => true
  | _ => false

/-- What a completion was told when it was invoked, and by whom. -/
structure Invocation where
  ticket : Nat
  outcome : CompileOutcome
  runner : Runner
deriving DecidableEq, Repr

/-- The invocation that an entry tells of, if it is one of a session's units. -/
def Entry.invocation? (session : Nat) : Entry → Option Invocation
  | .invoked owner ticket outcome runner =>
    if owner = session then some ⟨ticket, outcome, runner⟩ else none
  | _ => none

/-- The unit of a session whose completion went away, if an entry tells of one. -/
def Entry.abandonment? (session : Nat) : Entry → Option Nat
  | .abandoned owner ticket => if owner = session then some ticket else none
  | _ => none

abbrev Journal := List Entry

namespace Journal

def events (journal : Journal) : List Log.Event :=
  journal.filterMap fun
    | .event event => some event
    | _ => none

/-- The completions of a session's units that were invoked. -/
def invocations (session : Nat) (journal : Journal) : List Invocation :=
  journal.filterMap (Entry.invocation? session)

/-- The units of a session whose completions went away. -/
def abandonments (session : Nat) (journal : Journal) : List Nat :=
  journal.filterMap (Entry.abandonment? session)

end Journal

end CompileSession
