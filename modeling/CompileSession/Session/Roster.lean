import CompileSession.Session.Delivery

/-!
# Several sessions on one host

Sessions are numbered in the order in which they were made.  What is done at one session leaves the
others as they are; they share nothing but the host.
-/

namespace CompileSession

/-- The sessions of a process and their host. -/
structure Roster (η σ : Type) where
  host : Host η
  sessions : List (Session σ) := []

namespace Roster

variable {η σ : Type}

def site? (roster : Roster η σ) (index : Nat) : Option (Site η σ) :=
  roster.sessions[index]?.map fun session => { host := roster.host, session }

def put (roster : Roster η σ) (index : Nat) (site : Site η σ) : Roster η σ :=
  { host := site.host, sessions := roster.sessions.set index site.session }

def add (roster : Roster η σ) (site : Site η σ) : Roster η σ :=
  { host := site.host, sessions := roster.sessions ++ [site.session] }

def change (roster : Roster η σ) (index : Nat) (change : Site η σ → Site η σ) : Roster η σ :=
  match roster.site? index with
  | none => roster
  | some site => roster.put index (change site)

/-- Runs everything that is due in the background, session by session; `mayCompile` tells at which
ones workers may compile. -/
def settle (engine : Engine η σ) (mayCompile : Session σ → Bool) (roster : Roster η σ) :
    Roster η σ :=
  (List.range roster.sessions.length).foldl (fun roster index =>
    roster.change index fun site => site.settle engine (mayCompile site.session)) roster

def close (roster : Roster η σ) (index : Nat) : Roster η σ :=
  roster.change index Site.close

end Roster

end CompileSession
