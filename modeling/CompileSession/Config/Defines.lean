/-!
# Macro definitions

Macros and their values in the order in which they are to be defined.  No name occurs twice.
-/

namespace CompileSession

/-- An ordered map from macro names to values. -/
structure Defines where
  entries : List (String × String)
  distinct : (entries.map Prod.fst).Nodup
deriving DecidableEq, Repr

namespace Defines

def empty : Defines where
  entries := []
  distinct := List.nodup_nil

def get? (defines : Defines) (name : String) : Option String :=
  defines.entries.lookup name

def erase (defines : Defines) (name : String) : Defines where
  entries := defines.entries.filter fun entry => entry.1 ≠ name
  distinct := defines.distinct.sublist (List.filter_sublist.map _)

/-- A name that is not there yet gets its value at the end. -/
def append (defines : Defines) (name value : String)
    (fresh : name ∉ defines.entries.map Prod.fst) : Defines where
  entries := defines.entries ++ [(name, value)]
  distinct := by
    simp only [List.map_append, List.map_cons, List.map_nil]
    refine List.nodup_append.mpr ⟨defines.distinct, by simp, ?_⟩
    intro known member other single
    simp only [List.mem_singleton] at single
    subst single
    intro same
    exact fresh (same ▸ member)

theorem not_mem_erase (defines : Defines) (name : String) :
    name ∉ (defines.erase name).entries.map Prod.fst := by
  simp [erase]

/-- Gives a name a value and makes it the last one. -/
def moveLast (defines : Defines) (name value : String) : Defines :=
  (defines.erase name).append name value (defines.not_mem_erase name)

/-- Something else as the value of a name, at its old place. -/
def assign (defines : Defines) (name value : String) : Defines where
  entries := defines.entries.map fun entry => if entry.1 = name then (name, value) else entry
  distinct := by
    have names :
        (defines.entries.map fun entry => if entry.1 = name then (name, value) else entry).map
          Prod.fst = defines.entries.map Prod.fst := by
      rw [List.map_map]
      apply List.map_congr_left
      intro entry _
      by_cases same : entry.1 = name <;> simp [same]
    rw [names]
    exact defines.distinct

/-- Gives a name a value; a name that is there keeps its place. -/
def insert (defines : Defines) (name value : String) : Defines :=
  if known : name ∈ defines.entries.map Prod.fst then defines.assign name value
  else defines.append name value known

/-- The definitions that some pairs make, one after the other. -/
def ofList (pairs : List (String × String)) : Defines :=
  pairs.foldl (fun defines pair => defines.insert pair.1 pair.2) empty

end Defines

/-- A definition as it is asked for on a command line. -/
structure DefineSpec where
  name : String
  value : String
deriving DecidableEq, Repr

/-- Reads `NAME=VALUE`, where the value may hold further equals signs; a name that stands alone
gets the value `1`. -/
def DefineSpec.ofText (text : String) : DefineSpec :=
  let (name, rest) := text.toList.span fun c => c ≠ '='
  match rest with
  | [] => ⟨text, "1"⟩
  | _ :: value => ⟨String.ofList name, String.ofList value⟩

end CompileSession
