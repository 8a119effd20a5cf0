import CompileSession.Native.Process

/-!
# Sessions side by side

Several parties make a session each on one host, with an engine of their own.  What they do with
their sessions comes in any order.
-/

namespace CompileSession

variable {η σ : Type}

/-- A party and what became of its session. -/
structure Member (σ : Type) where
  /-- The number that the session was given. -/
  number : Nat
  /-- How the making of the session ended. -/
  made : Reply (Except SessionError Unit)
  /-- The session, if it was made. -/
  cast : Option (Cast σ)

/-- A host and the parties that have come to it. -/
structure Ensemble (η σ : Type) where
  host : Host η
  members : Nat → Option (Member σ) := fun _ => none

namespace Ensemble

/-- Something that a party can do. -/
inductive Act (σ : Type) where
  /-- A party makes a session of an engine. -/
  | create (party : Nat) (state : σ) (mode : OutputMode) (workers : UInt64) (delivery : Delivery)
  /-- A party makes a session of an engine and configures it. -/
  | configure (party : Nat) (state : σ) (config : SessionConfig)
  /-- Something happens at a party's session. -/
  | move (party : Nat) (move : Move)

def Act.party : Act σ → Nat
  | .create party _ _ _ _ | .configure party _ _ | .move party _ => party

def put (party : Nat) (host : Host η) (member : Member σ) (ensemble : Ensemble η σ) :
    Ensemble η σ where
  host
  members other := if other = party then some member else ensemble.members other

/-- A party comes with what the making of its session has ended in.  A session that could not be
made or configured is gone. -/
def enter (party : Nat) (made : Reply (Except SessionError Unit) × Site η σ)
    (ensemble : Ensemble η σ) : Ensemble η σ :=
  ensemble.put party made.2.host {
    number := made.2.session.id
    made := made.1
    cast := match made.1 with
      | .returned (.ok ()) => some { session := made.2.session }
      | _ => none }

/-- A session that was made without a configuration needs none. -/
def plain : Reply Unit × Site η σ → Reply (Except SessionError Unit) × Site η σ
  | (.returned (), site) => (.returned (.ok ()), site)
  | (.panicked panic, site) => (.panicked panic, site)

/-- Something happens at a party's session, if it can. -/
def move? (engine : Engine η σ) (party : Nat) (move : Move) (ensemble : Ensemble η σ) :
    Option (Ensemble η σ) :=
  match ensemble.members party with
  | some { number, made, cast := some cast } =>
    ((cast.scene ensemble.host).move? engine move).map fun scene =>
      ensemble.put party scene.site.host { number, made, cast := some scene.cast }
  | _ => none

/-- The ensemble after a party has done something, if that is possible. -/
def act? (engines : Nat → Engine η σ) (ensemble : Ensemble η σ) :
    Act σ → Option (Ensemble η σ)
  | .create party state mode workers delivery =>
    if (ensemble.members party).isNone then
      some (ensemble.enter party
        (plain (Session.create (engines party) state mode workers delivery ensemble.host)))
    else none
  | .configure party state config =>
    if (ensemble.members party).isNone then
      some (ensemble.enter party
        (Session.createConfigured (engines party) state config ensemble.host))
    else none
  | .move party move => ensemble.move? (engines party) party move

/-- The ensemble after several things have been done one after another. -/
def follow? (engines : Nat → Engine η σ) (ensemble : Ensemble η σ) (acts : List (Act σ)) :
    Option (Ensemble η σ) :=
  acts.foldlM (act? engines) ensemble

end Ensemble

end CompileSession
