import CompileSession.Proofs.Toml.Lines

/-!
# Tables are put together as they were written

Plain keys, then one table of plain keys under a header: such a document has the keys and values
of its lines, in their order.
-/

namespace CompileSession.Toml

section Drafts

/-- Lines that give keys without dots their values. -/
def valueLines (entries : Entries) : List Line :=
  entries.map fun entry => .keyValue [] entry.1 entry.2

/-- Values under their keys, as they stand in a table on the way. -/
def plainNodes (entries : Entries) : Nodes :=
  entries.map fun entry => (entry.1, .value entry.2)

theorem keys_plainNodes (entries : Entries) :
    (plainNodes entries).map Prod.fst = entries.map Prod.fst := by
  simp [plainNodes]

theorem Nodes.get?_of_fresh {nodes : Nodes} {key : String} (fresh : key ∉ nodes.map Prod.fst) :
    nodes.get? key = none := by
  apply List.lookup_eq_none_iff.mpr
  intro entry member
  simp only [bne_iff_ne, ne_eq]
  rintro rfl
  exact fresh (List.mem_map_of_mem member)

theorem Nodes.insertValue_of_fresh {nodes : Nodes} {key : String}
    (fresh : key ∉ nodes.map Prod.fst) (value : Value) :
    nodes.insertValue [] key value = some (nodes ++ [(key, .value value)]) := by
  simp [insertValue, modify, get?_of_fresh fresh]

theorem foldlM_valueLines (draft : Draft) (entries : Entries)
    (distinct : (draft.current.map Prod.fst ++ entries.map Prod.fst).Nodup) :
    (valueLines entries).foldlM Draft.add draft =
      some { draft with current := draft.current ++ plainNodes entries } := by
  induction entries generalizing draft with
  | nil => simp [valueLines, plainNodes]
  | cons entry entries ih =>
      have fresh : entry.1 ∉ draft.current.map Prod.fst := fun member =>
        (List.nodup_append.mp distinct).2.2 _ member _ List.mem_cons_self rfl
      have first : draft.add (.keyValue [] entry.1 entry.2) =
          some { draft with current := draft.current ++ [(entry.1, .value entry.2)] } := by
        rw [Draft.add, Nodes.insertValue_of_fresh fresh]
        rfl
      have later := ih { draft with current := draft.current ++ [(entry.1, .value entry.2)] }
        (by simpa using distinct)
      rw [List.append_assoc] at later
      exact (congrArg (· >>= _) first).trans later

theorem toEntries_append (nodes others : Nodes) :
    Node.toEntries (nodes ++ others) = Node.toEntries nodes ++ Node.toEntries others := by
  induction nodes with
  | nil => rfl
  | cons entry nodes ih => exact congrArg ((entry.1, entry.2.toValue) :: ·) ih

theorem toEntries_plainNodes (entries : Entries) :
    Node.toEntries (plainNodes entries) = entries := by
  induction entries with
  | nil => rfl
  | cons entry entries ih => exact congrArg (entry :: ·) ih

/-- Keys with values, and behind them a table under a new key. -/
theorem document?_valueLines {entries inner : Entries} {key : String}
    (distinct : (entries.map Prod.fst).Nodup) (fresh : key ∉ entries.map Prod.fst)
    (within : (inner.map Prod.fst).Nodup) :
    document? (valueLines entries ++ .table [] key :: valueLines inner) =
      some (entries ++ [(key, .table inner)]) := by
  have before := foldlM_valueLines {} entries (by simpa using distinct)
  have new : (plainNodes entries).get? key = none :=
    Nodes.get?_of_fresh (by rwa [keys_plainNodes])
  have opened : Draft.add { current := plainNodes entries } (.table [] key) =
      some { finished := plainNodes entries, target := .table [] key } := by
    simp [Draft.add, Draft.close, Nodes.takeTable, Nodes.modify, new]
  have after := foldlM_valueLines { finished := plainNodes entries, target := .table [] key } inner
    (by simpa using within)
  have closed : (plainNodes entries).putTable [] key (plainNodes inner) =
      some (plainNodes entries ++ [(key, .table .header (plainNodes inner))]) := by
    simp [Nodes.putTable, Nodes.modify, new]
  simp only [List.nil_append] at before after
  have whole : (valueLines entries ++ .table [] key :: valueLines inner).foldlM Draft.add {} =
      some { finished := plainNodes entries, target := .table [] key,
             current := plainNodes inner } := by
    rw [List.foldlM_append, before]
    exact (congrArg (· >>= _) opened).trans after
  rw [document?, whole]
  change (do
    some (Node.toEntries (← (plainNodes entries).putTable [] key (plainNodes inner)))) = _
  rw [closed]
  change some (Node.toEntries _) = _
  rw [toEntries_append, toEntries_plainNodes, Node.toEntries, Node.toValue, Node.toEntries,
    toEntries_plainNodes]

end Drafts

section Texts

/-- The key and the value that a written pair stands for. -/
def WrittenPair.entry (pair : WrittenPair) : String × Value :=
  (pair.key, pair.value)

@[simp] theorem WrittenPair.entry_string (key text : String) :
    (WrittenPair.string key text).entry = (key, .string text) := rfl

@[simp] theorem WrittenPair.entry_array (key : String) (texts : List String) :
    (WrittenPair.array key texts).entry = (key, .array (texts.map .string)) := rfl

@[simp] theorem WrittenPair.entry_number (key : String) {n : Nat} (fits : n < Nat.pow 2 63) :
    (WrittenPair.number key n fits).entry = (key, .integer n) := rfl

/-- No text that starts with a pair or a header starts with a mark. -/
theorem dropByteOrderMark_written (pairs : List WrittenPair) (key : String) (rest : List Char) :
    dropByteOrderMark (pairs.flatMap WrittenPair.text ++ (writeHeader key ++ rest)) =
      pairs.flatMap WrittenPair.text ++ (writeHeader key ++ rest) := by
  cases pairs with
  | nil => rfl
  | cons pair pairs =>
      obtain ⟨first, more, spelled, starts⟩ := writePair_cons pair.key pair.written
      rw [dropByteOrderMark]
      intro others same
      simp only [List.flatMap_cons, WrittenPair.text, spelled, List.cons_append] at same
      exact ne_of_startsKey starts rfl (List.cons.inj same).1

/-- What was written is read. -/
theorem parse?_written {pairs inner : List WrittenPair} {key : String}
    (distinct : (pairs.map WrittenPair.key).Nodup) (fresh : key ∉ pairs.map WrittenPair.key)
    (within : (inner.map WrittenPair.key).Nodup) :
    parse? (String.ofList
        (pairs.flatMap WrittenPair.text ++ (writeHeader key ++ inner.flatMap WrittenPair.text))) =
      some (pairs.map WrittenPair.entry ++ [(key, .table (inner.map WrittenPair.entry))]) := by
  have keys (pairs : List WrittenPair) :
      (pairs.map WrittenPair.entry).map Prod.fst = pairs.map WrittenPair.key := by
    simp [WrittenPair.entry]
  have lines (pairs : List WrittenPair) :
      pairs.map WrittenPair.line = valueLines (pairs.map WrittenPair.entry) := by
    simp [valueLines, WrittenPair.line, WrittenPair.entry]
  have inside : readLines (inner.flatMap WrittenPair.text) =
      some (valueLines (inner.map WrittenPair.entry)) := by
    have read := readLines_pairs inner []
    rwa [List.append_nil, readLines_nil, Option.map_some, List.append_nil, lines] at read
  rw [parse?, String.toList_ofList, dropByteOrderMark_written, readLines_pairs, readLines_header,
    inside, lines]
  exact document?_valueLines (by rwa [keys]) (by rwa [keys]) (by rwa [keys])

end Texts

end CompileSession.Toml
