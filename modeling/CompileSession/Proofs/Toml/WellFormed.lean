import CompileSession.Toml.Parser

/-!
# Documents are well-formed

In a table that was read no key stands twice, nor in any table inside it, and every integer has 64
bits.  Tables are put together node by node; each change of a node keeps this, wherever in the
document it takes place.
-/

namespace CompileSession.Toml

/-- No key stands twice, and what stands under the keys is good. -/
structure Keyed {α : Type} (good : α → Prop) (entries : List (String × α)) : Prop where
  distinct : (entries.map Prod.fst).Nodup
  each : ∀ entry ∈ entries, good entry.2

inductive Value.WellFormed : Value → Prop where
  | string (text : String) : WellFormed (.string text)
  | integer (number : Int64) : WellFormed (.integer number.toInt)
  | float (value : Binary64) : WellFormed (.float value)
  | boolean (value : Bool) : WellFormed (.boolean value)
  | datetime (text : String) : WellFormed (.datetime text)
  | array {items : List Value} : (∀ item ∈ items, WellFormed item) → WellFormed (.array items)
  | table {entries : Entries} : (entries.map Prod.fst).Nodup →
      (∀ entry ∈ entries, WellFormed entry.2) → WellFormed (.table entries)

inductive Node.WellFormed : Node → Prop where
  | value {value : Value} : value.WellFormed → WellFormed (.value value)
  | table {kind : TableKind} {entries : Nodes} : (entries.map Prod.fst).Nodup →
      (∀ entry ∈ entries, WellFormed entry.2) → WellFormed (.table kind entries)
  | tables {elements : List Nodes} : (∀ element ∈ elements, (element.map Prod.fst).Nodup) →
      (∀ element ∈ elements, ∀ entry ∈ element, WellFormed entry.2) → WellFormed (.tables elements)

section Keyed

variable {α : Type} {good : α → Prop} {entries : List (String × α)}

theorem Keyed.nil : Keyed good [] :=
  ⟨List.nodup_nil, List.forall_mem_nil _⟩

theorem Keyed.of_lookup {key : String} {value : α} (keyed : Keyed good entries)
    (found : entries.lookup key = some value) : good value := by
  obtain ⟨before, after, rfl, -⟩ := List.lookup_eq_some_iff.mp found
  exact keyed.each (key, value) (by simp)

theorem Keyed.concat {key : String} {value : α} (keyed : Keyed good entries)
    (fresh : entries.lookup key = none) (new : good value) :
    Keyed good (entries ++ [(key, value)]) where
  distinct := by
    rw [List.map_append, List.nodup_append]
    refine ⟨keyed.distinct, by simp, ?_⟩
    intro known member other single same
    obtain ⟨entry, inside, rfl⟩ := List.mem_map.mp member
    have unknown := List.lookup_eq_none_iff.mp fresh entry inside
    rw [List.map_singleton, List.mem_singleton] at single
    exact absurd (same.trans single).symm (by simpa using unknown)
  each := by
    intro entry member
    rcases List.mem_append.mp member with old | single
    · exact keyed.each entry old
    · obtain rfl := List.mem_singleton.mp single
      exact new

theorem Keyed.filter (keyed : Keyed good entries) (p : String × α → Bool) :
    Keyed good (entries.filter p) where
  distinct := keyed.distinct.sublist (List.filter_sublist.map _)
  each entry member := keyed.each entry (List.mem_filter.mp member |>.1)

theorem Keyed.replace {key : String} {value : α} (keyed : Keyed good entries) (new : good value) :
    Keyed good (entries.map fun entry => if entry.1 = key then (key, value) else entry) where
  distinct := by
    have names : (entries.map fun entry => if entry.1 = key then (key, value) else entry).map
        Prod.fst = entries.map Prod.fst := by
      rw [List.map_map]
      apply List.map_congr_left
      intro entry _
      by_cases same : entry.1 = key <;> simp [same]
    rw [names]
    exact keyed.distinct
  each := by
    intro entry member
    obtain ⟨old, inside, rfl⟩ := List.mem_map.mp member
    split
    · exact new
    · exact keyed.each old inside

end Keyed

section Nodes

theorem Node.wellFormed_table {kind : TableKind} {entries : Nodes} :
    (Node.table kind entries).WellFormed ↔ Keyed Node.WellFormed entries := by
  constructor
  · rintro (_ | ⟨distinct, each⟩)
    exact ⟨distinct, each⟩
  · exact fun keyed => .table keyed.distinct keyed.each

theorem Node.wellFormed_tables {elements : List Nodes} :
    (Node.tables elements).WellFormed ↔ ∀ element ∈ elements, Keyed Node.WellFormed element := by
  constructor
  · rintro (_ | _ | ⟨distinct, each⟩)
    exact fun element member => ⟨distinct element member, each element member⟩
  · intro keyed
    exact .tables (fun element member => (keyed element member).distinct)
      fun element member => (keyed element member).each

/-- Changing the table at the end of a path keeps nodes well-formed if the change does. -/
theorem Nodes.modify_wellFormed {α : Type} (good : α → Prop) {byKeys : Bool}
    {change : TableKind → Nodes → Option (α × Nodes)}
    (changes : ∀ {kind nodes answer after}, change kind nodes = some (answer, after) →
      Keyed Node.WellFormed nodes → good answer ∧ Keyed Node.WellFormed after)
    {kind : TableKind} {path : List String} {nodes after : Nodes} {answer : α}
    (modified : modify byKeys change kind path nodes = some (answer, after))
    (keyed : Keyed Node.WellFormed nodes) : good answer ∧ Keyed Node.WellFormed after := by
  induction path generalizing kind nodes answer after with
  | nil => exact changes modified keyed
  | cons key path ih =>
      rw [modify] at modified
      split at modified
      case h_1 missing =>
        obtain ⟨⟨inner, made⟩, deeper, same⟩ := Option.bind_eq_some_iff.mp modified
        cases same
        obtain ⟨answered, keyed'⟩ := ih deeper .nil
        exact ⟨answered, keyed.concat missing (Node.wellFormed_table.mpr keyed')⟩
      case h_2 => cases modified
      case h_3 kind' entries found =>
        split at modified
        · cases modified
        · obtain ⟨⟨inner, made⟩, deeper, same⟩ := Option.bind_eq_some_iff.mp modified
          cases same
          obtain ⟨answered, keyed'⟩ := ih deeper (Node.wellFormed_table.mp (keyed.of_lookup found))
          exact ⟨answered, keyed.replace (Node.wellFormed_table.mpr keyed')⟩
      case h_4 elements found =>
        split at modified
        · cases modified
        case h_2 last isLast =>
          obtain ⟨⟨inner, made⟩, deeper, same⟩ := Option.bind_eq_some_iff.mp modified
          cases same
          have inside := Node.wellFormed_tables.mp (keyed.of_lookup found)
          obtain ⟨answered, keyed'⟩ := ih deeper (inside _ (List.mem_of_getLast? isLast))
          refine ⟨answered, keyed.replace (Node.wellFormed_tables.mpr ?_)⟩
          intro element member
          rcases List.mem_append.mp member with old | single
          · exact inside element (List.dropLast_subset _ old)
          · obtain rfl := List.mem_singleton.mp single
            exact keyed'

theorem Nodes.insertValue_wellFormed {nodes after : Nodes} {path : List String} {key : String}
    {value : Value} (inserted : nodes.insertValue path key value = some after)
    (keyed : Keyed Node.WellFormed nodes) (new : value.WellFormed) :
    Keyed Node.WellFormed after := by
  obtain ⟨⟨_, made⟩, modified, same⟩ := Option.bind_eq_some_iff.mp inserted
  cases same
  refine (modify_wellFormed (fun _ => True) ?_ modified keyed).2
  intro kind inner answer after changed keyed
  split at changed
  · cases changed
  · split at changed
    · cases changed
    case isFalse fresh =>
      cases changed
      rw [Option.not_isSome_iff_eq_none] at fresh
      exact ⟨trivial, keyed.concat fresh (.value new)⟩

theorem Nodes.takeTable_wellFormed {nodes entries after : Nodes} {path : List String}
    {key : String} (taken : nodes.takeTable path key = some (entries, after))
    (keyed : Keyed Node.WellFormed nodes) :
    Keyed Node.WellFormed entries ∧ Keyed Node.WellFormed after := by
  refine modify_wellFormed (Keyed Node.WellFormed) ?_ taken keyed
  intro kind inner answer after changed keyed
  split at changed
  · cases changed
    exact ⟨.nil, keyed⟩
  case h_2 found =>
    cases changed
    exact ⟨Node.wellFormed_table.mp (keyed.of_lookup found), keyed.filter _⟩
  · cases changed

theorem Nodes.putTable_wellFormed {nodes table after : Nodes} {path : List String} {key : String}
    (put : nodes.putTable path key table = some after) (keyed : Keyed Node.WellFormed nodes)
    (new : Keyed Node.WellFormed table) : Keyed Node.WellFormed after := by
  obtain ⟨⟨_, made⟩, modified, same⟩ := Option.bind_eq_some_iff.mp put
  cases same
  refine (modify_wellFormed (fun _ => True) ?_ modified keyed).2
  intro kind inner answer after changed keyed
  split at changed
  case h_1 missing =>
    cases changed
    exact ⟨trivial, keyed.concat missing (Node.wellFormed_table.mpr new)⟩
  · cases changed
  · cases changed
    exact ⟨trivial, keyed.replace (Node.wellFormed_table.mpr new)⟩
  · cases changed

theorem Nodes.putElement_wellFormed {nodes element after : Nodes} {path : List String}
    {key : String} (put : nodes.putElement path key element = some after)
    (keyed : Keyed Node.WellFormed nodes) (new : Keyed Node.WellFormed element) :
    Keyed Node.WellFormed after := by
  obtain ⟨⟨_, made⟩, modified, same⟩ := Option.bind_eq_some_iff.mp put
  cases same
  refine (modify_wellFormed (fun _ => True) ?_ modified keyed).2
  intro kind inner answer after changed keyed
  split at changed
  case h_1 missing =>
    cases changed
    refine ⟨trivial, keyed.concat missing (Node.wellFormed_tables.mpr ?_)⟩
    intro one member
    obtain rfl := List.mem_singleton.mp member
    exact new
  case h_2 elements found =>
    cases changed
    refine ⟨trivial, keyed.replace (Node.wellFormed_tables.mpr ?_)⟩
    intro one member
    rcases List.mem_append.mp member with old | single
    · exact Node.wellFormed_tables.mp (keyed.of_lookup found) one old
    · obtain rfl := List.mem_singleton.mp single
      exact new
  · cases changed

theorem keys_toEntries (nodes : Nodes) :
    (Node.toEntries nodes).map Prod.fst = nodes.map Prod.fst := by
  induction nodes with
  | nil => rfl
  | cons entry nodes ih => exact congrArg (entry.1 :: ·) ih

mutual

theorem Node.toValue_wellFormed : ∀ {node : Node}, node.WellFormed → node.toValue.WellFormed
  | .value _, .value wellFormed => wellFormed
  | .table _ entries, .table distinct each =>
      .table ((keys_toEntries entries).symm ▸ distinct) (Node.toEntries_wellFormed each)
  | .tables _, .tables distinct each => .array (Node.toElements_wellFormed distinct each)

theorem Node.toEntries_wellFormed : ∀ {nodes : Nodes}, (∀ entry ∈ nodes, entry.2.WellFormed) →
    ∀ entry ∈ Node.toEntries nodes, entry.2.WellFormed
  | [], _ => List.forall_mem_nil _
  | (_, _) :: _, each => List.forall_mem_cons.mpr
      ⟨Node.toValue_wellFormed (List.forall_mem_cons.mp each).1,
        Node.toEntries_wellFormed (List.forall_mem_cons.mp each).2⟩

theorem Node.toElements_wellFormed : ∀ {elements : List Nodes},
    (∀ element ∈ elements, (element.map Prod.fst).Nodup) →
    (∀ element ∈ elements, ∀ entry ∈ element, entry.2.WellFormed) →
    ∀ value ∈ Node.toElements elements, value.WellFormed
  | [], _, _ => List.forall_mem_nil _
  | first :: _, distinct, each => List.forall_mem_cons.mpr
      ⟨.table ((keys_toEntries first).symm ▸ (List.forall_mem_cons.mp distinct).1)
          (Node.toEntries_wellFormed (List.forall_mem_cons.mp each).1),
        Node.toElements_wellFormed (List.forall_mem_cons.mp distinct).2
          (List.forall_mem_cons.mp each).2⟩

end

end Nodes

section Values

/-- Steps that may fail are taken for one item after the other: what each step keeps, all keep. -/
theorem foldlM_keeps {α β : Type} {step : β → α → Option β} {kept : β → Prop} {good : α → Prop}
    {items : List α} {first last : β} (taken : items.foldlM step first = some last)
    (start : kept first) (each : ∀ item ∈ items, good item)
    (steps : ∀ {before item after}, kept before → good item → step before item = some after →
      kept after) : kept last := by
  induction items generalizing first with
  | nil =>
      cases taken
      exact start
  | cons item items ih =>
      obtain ⟨now, later⟩ := List.forall_mem_cons.mp each
      rw [List.foldlM_cons] at taken
      obtain ⟨next, stepped, others⟩ := Option.bind_eq_some_iff.mp taken
      exact ih others (steps start now stepped) later

/-- What a reader gives is well-formed. -/
def GivesWellFormed (readItem : Reader Value) : Prop :=
  ∀ {input rest value}, readItem input = some (value, rest) → value.WellFormed

theorem fitInteger?_wellFormed {number : Int} {value : Value}
    (fits : fitInteger? number = some value) : value.WellFormed := by
  rw [fitInteger?] at fits
  split at fits
  case isTrue bounds =>
    cases fits
    rw [← Int64.toInt_ofInt_of_le bounds.1 bounds.2]
    exact .integer _
  case isFalse => cases fits

theorem integer?_wellFormed {word : List Char} {value : Value} (read : integer? word = some value) :
    value.WellFormed := by
  unfold integer? at read
  split at read
  all_goals
    obtain ⟨digits, -, fits⟩ := Option.bind_eq_some_iff.mp read
    exact fitInteger?_wellFormed fits

theorem datetime?_wellFormed {word : List Char} {value : Value}
    (read : datetime? word = some value) : value.WellFormed := by
  unfold datetime? at read
  split at read
  · cases read
    exact .datetime _
  · split at read
    · obtain ⟨⟨time, rest⟩, -, read⟩ := Option.bind_eq_some_iff.mp read
      obtain ⟨offset, -, read⟩ := Option.bind_eq_some_iff.mp read
      cases read
      exact .datetime _
    · cases read
  · split at read
    · cases read
      exact .datetime _
    · cases read

theorem float?_wellFormed {word : List Char} {value : Value} (read : float? word = some value) :
    value.WellFormed := by
  unfold float? at read
  generalize splitSign word = signed at read
  obtain ⟨negative, word⟩ := signed
  dsimp only at read
  split at read
  · cases read
    exact .float _
  split at read
  · cases read
    exact .float _
  obtain ⟨whole, -, read⟩ := Option.bind_eq_some_iff.mp read
  split at read
  all_goals
    obtain ⟨fraction, -, read⟩ := Option.bind_eq_some_iff.mp read
    split at read
    all_goals
      obtain ⟨exponent, -, read⟩ := Option.bind_eq_some_iff.mp read
      split at read
      · cases read
      split at read
      · cases read
      cases read
      exact .float _

theorem readWord_wellFormed : GivesWellFormed readWord := by
  intro input rest value read
  rw [readWord] at read
  generalize splitWord input = split at read
  obtain ⟨word, behind⟩ := split
  obtain ⟨value, found, same⟩ := Option.map_eq_some_iff.mp read
  cases same
  split at found
  · cases found
    exact .boolean _
  split at found
  · cases found
    exact .boolean _
  simp only [Option.orElse_eq_or, Option.or_eq_some_iff] at found
  rcases found with whole | ⟨-, date | ⟨-, number⟩⟩
  · exact integer?_wellFormed whole
  · exact datetime?_wellFormed date
  · exact float?_wellFormed number

variable {readItem : Reader Value}

theorem readItems_wellFormed (gives : GivesWellFormed readItem) {input rest : List Char}
    {items : List Value} (read : readItems readItem input = some (items, rest)) :
    ∀ item ∈ items, item.WellFormed := by
  fun_induction readItems readItem input generalizing items rest with
  | case1 => cases read
  | case2 =>
      cases read
      exact List.forall_mem_nil _
  | case3 => cases read
  | case4 _ _ _ _ _ _ first =>
      cases read
      exact List.forall_mem_singleton.mpr (gives first)
  | case5 _ _ _ _ _ _ first _ _ _ ih =>
      obtain ⟨⟨more, behind⟩, others, same⟩ := Option.map_eq_some_iff.mp read
      cases same
      exact List.forall_mem_cons.mpr ⟨gives first, ih others⟩
  | case6 => cases read
  | case7 => cases read

theorem readPair_wellFormed (gives : GivesWellFormed readItem) {input rest : List Char}
    {pair : List String × String × Value} (read : readPair readItem input = some (pair, rest)) :
    pair.2.2.WellFormed := by
  obtain ⟨⟨⟨path, key⟩, behind⟩, -, read⟩ := Option.bind_eq_some_iff.mp read
  obtain ⟨equals, -, read⟩ := Option.bind_eq_some_iff.mp read
  obtain ⟨⟨value, remaining⟩, given, same⟩ := Option.bind_eq_some_iff.mp read
  cases same
  exact gives given

theorem readPairs_wellFormed (gives : GivesWellFormed readItem) {input rest : List Char}
    {pairs : List (List String × String × Value)}
    (read : readPairs readItem input = some (pairs, rest)) :
    ∀ pair ∈ pairs, pair.2.2.WellFormed := by
  fun_induction readPairs readItem input generalizing pairs rest with
  | case1 => cases read
  | case2 _ _ _ first =>
      cases read
      exact List.forall_mem_singleton.mpr (readPair_wellFormed gives first)
  | case3 _ _ _ first _ _ _ ih =>
      obtain ⟨⟨more, behind⟩, others, same⟩ := Option.map_eq_some_iff.mp read
      cases same
      exact List.forall_mem_cons.mpr ⟨readPair_wellFormed gives first, ih others⟩
  | case4 => cases read
  | case5 => cases read

theorem toEntries_keyed {nodes : Nodes} (keyed : Keyed Node.WellFormed nodes) :
    Keyed Value.WellFormed (Node.toEntries nodes) :=
  ⟨(keys_toEntries nodes).symm ▸ keyed.distinct, Node.toEntries_wellFormed keyed.each⟩

theorem inlineTable?_wellFormed {pairs : List (List String × String × Value)} {value : Value}
    (wellFormed : ∀ pair ∈ pairs, pair.2.2.WellFormed) (made : inlineTable? pairs = some value) :
    value.WellFormed := by
  obtain ⟨nodes, inserted, same⟩ := Option.bind_eq_some_iff.mp made
  cases same
  have keyed : Keyed Node.WellFormed nodes :=
    foldlM_keeps inserted .nil wellFormed fun keyed new inserted =>
      Nodes.insertValue_wellFormed inserted keyed new
  have entries := toEntries_keyed keyed
  exact .table entries.distinct entries.each

theorem readInlineTable_wellFormed (gives : GivesWellFormed readItem) :
    GivesWellFormed (readInlineTable readItem) := by
  intro input rest value read
  unfold readInlineTable at read
  split at read
  · cases read
    exact .table List.nodup_nil (List.forall_mem_nil _)
  · obtain ⟨⟨pairs, behind⟩, given, read⟩ := Option.bind_eq_some_iff.mp read
    obtain ⟨table, made, same⟩ := Option.bind_eq_some_iff.mp read
    cases same
    exact inlineTable?_wellFormed (readPairs_wellFormed gives given) made

theorem readValue_wellFormed (depth : Nat) : GivesWellFormed (readValue depth) := by
  induction depth with
  | zero =>
      intro input rest value read
      cases read
  | succ depth ih =>
      intro input rest value read
      unfold readValue at read
      split at read
      · split at read
        · cases read
        · obtain ⟨⟨items, behind⟩, given, same⟩ := Option.map_eq_some_iff.mp read
          cases same
          exact .array (readItems_wellFormed ih given)
      · split at read
        · cases read
        · exact readInlineTable_wellFormed ih read
      · split at read
        · obtain ⟨⟨text, behind⟩, -, same⟩ := Option.map_eq_some_iff.mp read
          cases same
          exact .string _
        · exact readWord_wellFormed read
      · cases read

end Values

section Documents

/-- The value that a line gives to a key, if it does, is well-formed. -/
def Line.WellFormed : Line → Prop
  | .keyValue _ _ value => value.WellFormed
  | .table _ _ => True
  | .element _ _ => True

theorem readLine_wellFormed {input rest : List Char} {line : Line}
    (read : readLine input = some (line, rest)) : line.WellFormed := by
  unfold readLine at read
  split at read
  · obtain ⟨⟨⟨path, key⟩, behind⟩, -, read⟩ := Option.bind_eq_some_iff.mp read
    simp only [Option.bind_eq_bind, Option.bind_eq_some_iff] at read
    obtain ⟨_, -, _, -, _, -, same⟩ := read
    cases same
    trivial
  · obtain ⟨⟨⟨path, key⟩, behind⟩, -, read⟩ := Option.bind_eq_some_iff.mp read
    simp only [Option.bind_eq_bind, Option.bind_eq_some_iff] at read
    obtain ⟨_, -, _, -, same⟩ := read
    cases same
    trivial
  · obtain ⟨⟨⟨path, key, value⟩, behind⟩, given, read⟩ := Option.bind_eq_some_iff.mp read
    obtain ⟨_, -, same⟩ := Option.bind_eq_some_iff.mp read
    cases same
    exact readPair_wellFormed (readValue_wellFormed depthLimit) given

theorem readLines_wellFormed {input : List Char} {lines : List Line}
    (read : readLines input = some lines) : ∀ line ∈ lines, line.WellFormed := by
  fun_induction readLines input generalizing lines with
  | case1 => cases read
  | case2 =>
      cases read
      exact List.forall_mem_nil _
  | case3 => cases read
  | case4 _ _ _ _ _ _ first _ ih =>
      obtain ⟨more, others, same⟩ := Option.map_eq_some_iff.mp read
      cases same
      exact List.forall_mem_cons.mpr ⟨readLine_wellFormed first, ih others⟩
  | case5 => cases read

/-- What is finished of a document and the table that is open. -/
structure Draft.WellFormed (draft : Draft) : Prop where
  finished : Keyed Node.WellFormed draft.finished
  current : Keyed Node.WellFormed draft.current

variable {draft after : Draft}

theorem Draft.close_wellFormed {nodes : Nodes} (wellFormed : draft.WellFormed)
    (closed : draft.close = some nodes) : Keyed Node.WellFormed nodes := by
  unfold close at closed
  split at closed
  · cases closed
    exact wellFormed.current
  · exact Nodes.putTable_wellFormed closed wellFormed.finished wellFormed.current
  · exact Nodes.putElement_wellFormed closed wellFormed.finished wellFormed.current

theorem Draft.add_wellFormed {line : Line} (wellFormed : draft.WellFormed)
    (added : draft.add line = some after) (new : line.WellFormed) : after.WellFormed := by
  cases line with
  | keyValue path key value =>
      obtain ⟨current, inserted, same⟩ := Option.bind_eq_some_iff.mp added
      cases same
      exact ⟨wellFormed.finished, Nodes.insertValue_wellFormed inserted wellFormed.current new⟩
  | table path key =>
      obtain ⟨nodes, closed, added⟩ := Option.bind_eq_some_iff.mp added
      obtain ⟨⟨entries, rest⟩, taken, same⟩ := Option.bind_eq_some_iff.mp added
      cases same
      obtain ⟨current, finished⟩ :=
        Nodes.takeTable_wellFormed taken (close_wellFormed wellFormed closed)
      exact ⟨finished, current⟩
  | element path key =>
      obtain ⟨nodes, closed, same⟩ := Option.bind_eq_some_iff.mp added
      cases same
      exact ⟨close_wellFormed wellFormed closed, .nil⟩

theorem document?_wellFormed {lines : List Line} {entries : Entries}
    (wellFormed : ∀ line ∈ lines, line.WellFormed) (made : document? lines = some entries) :
    Keyed Value.WellFormed entries := by
  obtain ⟨draft, drafted, made⟩ := Option.bind_eq_some_iff.mp made
  obtain ⟨nodes, closed, same⟩ := Option.bind_eq_some_iff.mp made
  cases same
  have start : Draft.WellFormed {} := ⟨.nil, .nil⟩
  have ready : draft.WellFormed :=
    foldlM_keeps drafted start wellFormed fun kept new added => Draft.add_wellFormed kept added new
  exact toEntries_keyed (Draft.close_wellFormed ready closed)

/-- In a document that was read no key stands twice. -/
theorem parse?_wellFormed {text : String} {entries : Entries} (read : parse? text = some entries) :
    Keyed Value.WellFormed entries := by
  obtain ⟨lines, given, made⟩ := Option.bind_eq_some_iff.mp read
  exact document?_wellFormed (readLines_wellFormed given) made

end Documents

end CompileSession.Toml
