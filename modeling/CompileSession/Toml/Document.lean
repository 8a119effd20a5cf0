import CompileSession.Toml.Value

/-!
# TOML documents: putting tables together

A document is a sequence of lines: keys with values, and headers that say to which table the keys
that follow belong.  A table is defined once, by a header or by dotted keys, not by both; a table
that was only passed through on the way to another may still get a header of its own.

A table enters its parent when it is finished, that is at the next header or at the end; so the
order of a table's keys is the order in which they were finished.
-/

namespace CompileSession.Toml

/-- How a table came to be. -/
inductive TableKind where
  /-- By a header, or written in braces. -/
  | header
  /-- It was only passed through on the way to a table further down. -/
  | implied
  /-- By dotted keys. -/
  | dotted
deriving DecidableEq, Repr

/-- What stands under a key while a document is put together. -/
inductive Node where
  | value (value : Value)
  | table (kind : TableKind) (entries : List (String × Node))
  | tables (elements : List (List (String × Node)))

abbrev Nodes := List (String × Node)

namespace Nodes

def get? (nodes : Nodes) (key : String) : Option Node :=
  nodes.lookup key

/-- Something else under a key that is there already. -/
def replace (nodes : Nodes) (key : String) (node : Node) : Nodes :=
  nodes.map fun entry => if entry.1 = key then (key, node) else entry

def erase (nodes : Nodes) (key : String) : Nodes :=
  nodes.filter fun entry => entry.1 ≠ key

/-- Changes the table at the end of a path, whose own kind is given first.  Tables that do not
exist are made on the way: by dotted keys when `byKeys` holds, else implied ones.  Dotted keys may
not reach into a table with a header; nothing reaches into a plain value. -/
def modify {α : Type} (byKeys : Bool) (change : TableKind → Nodes → Option (α × Nodes)) :
    TableKind → List String → Nodes → Option (α × Nodes)
  | kind, [], nodes => change kind nodes
  | _, key :: path, nodes =>
    match nodes.get? key with
    | none => do
      let kind := if byKeys then TableKind.dotted else TableKind.implied
      let (answer, inner) ← modify byKeys change kind path []
      some (answer, nodes ++ [(key, .table kind inner)])
    | some (.value _) => none
    | some (.table kind inner) =>
      if byKeys ∧ kind = .header then none
      else do
        let (answer, inner) ← modify byKeys change kind path inner
        some (answer, nodes.replace key (.table kind inner))
    | some (.tables elements) =>
      match elements.getLast? with
      | none => none
      | some last => do
        let (answer, last) ← modify byKeys change .header path last
        some (answer, nodes.replace key (.tables (elements.dropLast ++ [last])))

/-- Puts a value under a dotted key: the path to it and its own name.  Inside a dotted table keys
must be dotted, outside they must not. -/
def insertValue (nodes : Nodes) (path : List String) (key : String) (value : Value) :
    Option Nodes := do
  let change (kind : TableKind) (inner : Nodes) : Option (Unit × Nodes) :=
    if (kind = .dotted) = (path = []) then none
    else if (inner.get? key).isSome then none
    else some ((), inner ++ [(key, .value value)])
  let (_, nodes) ← modify true change .header path nodes
  some nodes

/-- Takes a table that was only implied out of its parent, to be filled under its own header.  A
table that does not exist yet starts empty; anything else under the key is in the way. -/
def takeTable (nodes : Nodes) (path : List String) (key : String) : Option (Nodes × Nodes) :=
  let change (_ : TableKind) (inner : Nodes) : Option (Nodes × Nodes) :=
    match inner.get? key with
    | none => some ([], inner)
    | some (.table .implied entries) => some (entries, inner.erase key)
    | some _ => none
  modify false change .header path nodes

def putTable (nodes : Nodes) (path : List String) (key : String) (table : Nodes) :
    Option Nodes := do
  let change (_ : TableKind) (inner : Nodes) : Option (Unit × Nodes) :=
    match inner.get? key with
    | none => some ((), inner ++ [(key, .table .header table)])
    | some (.table .header _) => none
    | some (.table _ _) => some ((), inner.replace key (.table .header table))
    | some _ => none
  let (_, nodes) ← modify false change .header path nodes
  some nodes

/-- Puts a finished element into an array of tables. -/
def putElement (nodes : Nodes) (path : List String) (key : String) (element : Nodes) :
    Option Nodes := do
  let change (_ : TableKind) (inner : Nodes) : Option (Unit × Nodes) :=
    match inner.get? key with
    | none => some ((), inner ++ [(key, .tables [element])])
    | some (.tables elements) => some ((), inner.replace key (.tables (elements ++ [element])))
    | some _ => none
  let (_, nodes) ← modify false change .header path nodes
  some nodes

end Nodes

mutual

def Node.toValue : Node → Value
  | .value plain => plain
  | .table _ entries => .table (Node.toEntries entries)
  | .tables elements => .array (Node.toElements elements)

def Node.toEntries : List (String × Node) → Entries
  | [] => []
  | (key, node) :: rest => (key, node.toValue) :: Node.toEntries rest

def Node.toElements : List (List (String × Node)) → List Value
  | [] => []
  | entries :: rest => .table (Node.toEntries entries) :: Node.toElements rest

end

/-- A line of a document. -/
inductive Line where
  /-- A value under a dotted key: the path to it and its own name. -/
  | keyValue (path : List String) (key : String) (value : Value)
  /-- A header: the keys that follow belong to this table. -/
  | table (path : List String) (key : String)
  /-- A header: the keys that follow belong to a new element of this array of tables. -/
  | element (path : List String) (key : String)

/-- The table that keys go into. -/
inductive Target where
  | document
  | table (path : List String) (key : String)
  | element (path : List String) (key : String)

/-- A document on the way: what is finished, and the table that keys go into at the moment. -/
structure Draft where
  /-- The finished tables. -/
  finished : Nodes := []
  /-- The table that is open, if not the document itself. -/
  target : Target := .document
  /-- The keys of the open table. -/
  current : Nodes := []

namespace Draft

/-- The document with the open table put in its place. -/
def close (draft : Draft) : Option Nodes :=
  match draft.target with
  | .document => some draft.current
  | .table path key => draft.finished.putTable path key draft.current
  | .element path key => draft.finished.putElement path key draft.current

def add (draft : Draft) : Line → Option Draft
  | .keyValue path key value => do
    some { draft with current := ← draft.current.insertValue path key value }
  | .table path key => do
    let (entries, rest) ← (← draft.close).takeTable path key
    some { finished := rest, target := .table path key, current := entries }
  | .element path key => do
    some { finished := ← draft.close, target := .element path key, current := [] }

end Draft

/-- The document that some lines make, if they are consistent. -/
def document? (lines : List Line) : Option Entries := do
  let draft ← lines.foldlM Draft.add {}
  some (Node.toEntries (← draft.close))

/-- The table that pairs in braces make, if they are consistent. -/
def inlineTable? (pairs : List (List String × String × Value)) : Option Value := do
  let insert (nodes : Nodes) (pair : List String × String × Value) : Option Nodes :=
    nodes.insertValue pair.1 pair.2.1 pair.2.2
  let nodes ← pairs.foldlM insert []
  some (.table (Node.toEntries nodes))

end CompileSession.Toml
