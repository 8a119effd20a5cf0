import CompileSession.Files

/-!
# Files that are found again

A file that was written is read with the content that was written, and the directory of a file
that is there need not be created.
-/

namespace CompileSession.FileTree

section Following

variable {tree changed : FileTree} {place finish : Place} {name : List UInt8}
  {names more : List (List UInt8)}

theorem follow_append (tree : FileTree) (place : Place) (names more : List (List UInt8)) :
    tree.follow place (names ++ more) =
      (tree.follow place names >>= fun between => tree.follow between more) := by
  induction names generalizing place with
  | nil => rfl
  | cons name names ih =>
      simp only [List.cons_append, follow]
      split
      case h_1 => rfl
      case h_2 => rfl
      case h_3 =>
        split
        · exact ih _
        split
        · exact ih _
        split
        · rfl
        split
        · rfl
        · exact ih _

/-- Names are looked up in directories only. -/
theorem directory_of_follow_cons (followed : tree.follow place (name :: names) = .ok finish) :
    tree.node? place = some .directory := by
  rw [follow] at followed
  split at followed
  case h_1 => cases followed
  case h_2 => cases followed
  case h_3 there => exact there

theorem directory_of_follow (followed : tree.follow place names = .ok finish)
    (ends : tree.node? finish = some .directory) : tree.node? place = some .directory := by
  cases names with
  | nil =>
      cases followed
      exact ends
  | cons => exact directory_of_follow_cons followed

/-- The way to a directory stays as long as directories stay. -/
theorem follow_of_directories
    (kept : ∀ place, tree.node? place = some .directory → changed.node? place = some .directory)
    (followed : tree.follow place names = .ok finish)
    (ends : tree.node? finish = some .directory) : changed.follow place names = .ok finish := by
  induction names generalizing place with
  | nil => exact followed
  | cons name names ih =>
      have here := directory_of_follow_cons followed
      simp only [follow, here] at followed
      simp only [follow, kept _ here]
      by_cases single : name = Path.dot
      · simp only [if_pos single] at followed ⊢
        exact ih followed
      by_cases double : name = Path.dotDot
      · simp only [if_neg single, if_pos double] at followed ⊢
        exact ih followed
      by_cases long : longestName < name.length
      · simp only [if_neg single, if_neg double, if_pos long] at followed
        cases followed
      simp only [if_neg single, if_neg double, if_neg long] at followed ⊢
      split at followed
      · cases followed
      · have next := kept _ (directory_of_follow followed ends)
        rw [next]
        exact ih followed

end Following

section Writing

variable {tree changed : FileTree} {path : Path} {content : List UInt8}

theorem node?_put {place : Place} (below : place ≠ []) (tree : FileTree) (node : FileNode)
    (other : Place) :
    (tree.put place node).node? other = if other = place then some node else tree.node? other := by
  by_cases root : other = []
  · rw [node?, if_pos root, if_neg (root ▸ below.symm), node?, if_pos root]
  by_cases same : other = place
  · simp [node?, put, same, below]
  · have others : (tree.entries.filter fun entry => entry.1 ≠ place).find?
        (fun entry => entry.1 = other) = tree.entries.find? fun entry => entry.1 = other := by
      rw [List.find?_filter]
      congr 1
      funext entry
      by_cases found : entry.1 = other <;> simp [found, same]
    simp only [node?, put, if_neg root, if_neg same, List.find?_cons, Ne.symm same, decide_false,
      others]

section LastStep

variable {before : List (List UInt8)} {last : List UInt8} {directory : Place}
  (accepted : accept path = .ok ()) (spelled : names path = before ++ [last])

include accepted spelled

theorem lastStep_spelled (tree : FileTree) :
    tree.lastStep path =
      (tree.follow (tree.origin path) before >>= fun directory =>
        match tree.node? directory with
        | some .directory =>
          if last = Path.dot then .ok (directory, none)
          else if last = Path.dotDot then .ok (directory.dropLast, none)
          else .ok (directory, some last)
        | _ => .error .notDirectory) := by
  have reversed : (names path).reverse = last :: before.reverse := by
    rw [spelled, List.reverse_append, List.reverse_singleton, List.singleton_append]
  simp only [lastStep, accepted, reversed, List.reverse_reverse]
  rfl

end LastStep

/-- What it takes to have a last step that is a name. -/
theorem lastStep_cases {directory : Place} {name : List UInt8}
    (stepped : tree.lastStep path = .ok (directory, some name)) :
    ∃ before, accept path = .ok () ∧ names path = before ++ [name] ∧
      tree.follow (tree.origin path) before = .ok directory ∧
      tree.node? directory = some .directory ∧ name ≠ Path.dot ∧ name ≠ Path.dotDot := by
  cases accepted : accept path with
  | error =>
      simp only [lastStep, accepted] at stepped
      cases stepped
  | ok =>
      cases reversed : (names path).reverse with
      | nil =>
          simp only [lastStep, accepted, reversed] at stepped
          cases stepped
      | cons last before =>
          have spelled : names path = before.reverse ++ [last] := by
            simpa using congrArg List.reverse reversed
          rw [lastStep_spelled accepted spelled tree] at stepped
          cases followed : tree.follow (tree.origin path) before.reverse with
          | error =>
              rw [followed] at stepped
              cases stepped
          | ok found =>
              rw [followed] at stepped
              dsimp only [bind, Except.bind] at stepped
              split at stepped
              case h_1 there =>
                split at stepped
                · cases stepped
                split at stepped
                · cases stepped
                case isFalse single double =>
                  cases stepped
                  exact ⟨_, rfl, spelled, followed, there, single, double⟩
              case h_2 => cases stepped

theorem write_cases (written : tree.write path content = .ok changed) :
    ∃ directory name, tree.lastStep path = .ok (directory, some name) ∧
      namesDirectory path = false ∧ name.length ≤ longestName ∧
      tree.node? (directory ++ [name]) ≠ some .directory ∧
      changed = tree.put (directory ++ [name]) (.file content) := by
  cases stepped : tree.lastStep path with
  | error =>
      simp only [write, stepped] at written
      cases written
  | ok step =>
      obtain ⟨directory, _ | name⟩ := step
      · simp only [write, stepped] at written
        cases written
      · simp only [write, stepped, bind, Except.bind] at written
        split at written
        · cases written
        split at written
        · cases written
        split at written
        · cases written
        case isFalse plain short free =>
          cases written
          exact ⟨directory, name, rfl, by simpa using plain, Nat.not_lt.mp short, free, rfl⟩

theorem readBytes_write (written : tree.write path content = .ok changed) :
    changed.readBytes path = .ok content := by
  obtain ⟨directory, last, stepped, plain, short, file, rfl⟩ := write_cases written
  obtain ⟨before, accepted, spelled, followed, there, single, double⟩ := lastStep_cases stepped
  have below : directory ++ [last] ≠ [] := by simp
  have kept (place : Place) (was : tree.node? place = some .directory) :
      (tree.put (directory ++ [last]) (.file content)).node? place = some .directory := by
    rw [node?_put below, if_neg, was]
    rintro rfl
    exact file was
  have found : (tree.put (directory ++ [last]) (.file content)).node? (directory ++ [last]) =
      some (.file content) := by
    rw [node?_put below, if_pos rfl]
  have final : (tree.put (directory ++ [last]) (.file content)).follow directory [last] =
      .ok (directory ++ [last]) := by
    simp [follow, kept directory there, single, double, Nat.not_lt.mpr short, found]
  have way : (tree.put (directory ++ [last]) (.file content)).follow
      ((tree.put (directory ++ [last]) (.file content)).origin path) (names path) =
        .ok (directory ++ [last]) := by
    rw [spelled, follow_append]
    exact (congrArg (· >>= _) (follow_of_directories kept followed there)).trans final
  simp [readBytes, locate, accepted, way, found, plain, bind, Except.bind]

end Writing

section Existing

variable {tree : FileTree} {path : Path} {finish : Place} (accepted : accept path = .ok ())
  (followed : tree.follow (tree.origin path) (names path) = .ok finish)

include accepted followed

theorem createDirectory_of_follow : tree.createDirectory path = .error .exists := by
  rcases List.eq_nil_or_concat (names path) with none | ⟨before, last, spelled⟩
  · simp [createDirectory, lastStep, accepted, none, bind, Except.bind]
  rw [List.concat_eq_append] at spelled
  rw [spelled, follow_append] at followed
  cases first : tree.follow (tree.origin path) before with
  | error =>
      rw [first] at followed
      cases followed
  | ok between =>
      rw [first] at followed
      have inside : tree.node? between = some .directory := directory_of_follow_cons followed
      have stepped := lastStep_spelled accepted spelled tree
      rw [first] at stepped
      simp only [bind, Except.bind, inside] at stepped followed
      by_cases single : last = Path.dot
      · rw [if_pos single] at stepped
        simp only [createDirectory, stepped, bind, Except.bind]
      by_cases double : last = Path.dotDot
      · rw [if_neg single, if_pos double] at stepped
        simp only [createDirectory, stepped, bind, Except.bind]
      simp only [follow, inside, if_neg single, if_neg double] at followed
      simp only [if_neg single, if_neg double] at stepped
      split at followed
      · cases followed
      split at followed
      · cases followed
      case isFalse short missing =>
        have known : (tree.node? (between ++ [last])).isSome = true := by
          simpa [Option.isSome_iff_ne_none] using missing
        simp only [createDirectory, stepped, bind, Except.bind, if_neg short, if_pos known]

/-- A directory that is there is left as it is. -/
theorem createDirectories_of_follow (there : tree.node? finish = some .directory) (levels : Nat) :
    tree.createDirectories levels path = (.ok (), tree) := by
  have exist := createDirectory_of_follow accepted followed
  have directory : tree.isDirectory path = true := by
    simp [isDirectory, locate, accepted, followed, there, bind, Except.bind]
  unfold createDirectories
  simp [exist, directory]

end Existing

section Parents

variable {path directory : Path}

theorem pieces_cons_of_ne {start : Nat} {byte : UInt8} {rest : List UInt8}
    {first : Path.Component} {more : List Path.Component} (other : byte ≠ Path.slash)
    (later : Path.pieces (start + 1) rest = first :: more) :
    Path.pieces start (byte :: rest) = ⟨byte :: first.name, first.stop⟩ :: more := by
  simp only [Path.pieces, if_neg other, later]

/-- Where a piece that is not the last one ends, a slash follows, and what is before it has the
pieces up to this one. -/
theorem pieces_cut {start : Nat} {bytes : List UInt8} {before after : List Path.Component}
    {piece : Path.Component} (cut : Path.pieces start bytes = before ++ piece :: after)
    (more : after ≠ []) :
    ∃ front back, bytes = front ++ Path.slash :: back ∧
      Path.pieces start front = before ++ [piece] ∧ piece.stop = start + front.length := by
  induction bytes generalizing start before piece with
  | nil =>
      cases before with
      | nil => exact absurd (List.cons.inj cut).2.symm more
      | cons => simp [Path.pieces] at cut
  | cons byte rest ih =>
      by_cases slash : byte = Path.slash
      · subst slash
        simp only [Path.pieces, if_pos] at cut
        cases before with
        | nil =>
            obtain ⟨rfl, -⟩ := List.cons.inj cut
            exact ⟨[], rest, rfl, rfl, rfl⟩
        | cons first before =>
            obtain ⟨rfl, tail⟩ := List.cons.inj cut
            obtain ⟨front, back, rfl, pieces, stop⟩ := ih tail
            refine ⟨Path.slash :: front, back, rfl, ?_, ?_⟩
            · simp [Path.pieces, pieces]
            · rw [stop, List.length_cons]
              omega
      cases later : Path.pieces (start + 1) rest with
      | nil =>
          simp only [Path.pieces, if_neg slash, later] at cut
          cases before with
          | nil => exact absurd (List.cons.inj cut).2.symm more
          | cons => simp at cut
      | cons next others =>
          rw [pieces_cons_of_ne slash later] at cut
          cases before with
          | nil =>
              obtain ⟨rfl, rfl⟩ := List.cons.inj cut
              obtain ⟨front, back, rfl, pieces, stop⟩ := @ih _ [] _ later
              refine ⟨byte :: front, back, rfl, pieces_cons_of_ne slash pieces, ?_⟩
              rw [stop, List.length_cons]
              omega
          | cons first before =>
              obtain ⟨rfl, rfl⟩ := List.cons.inj cut
              obtain ⟨front, back, rfl, pieces, stop⟩ := @ih _ (next :: before) _ later
              refine ⟨byte :: front, back, rfl, pieces_cons_of_ne slash pieces, ?_⟩
              rw [stop, List.length_cons]
              omega

theorem name_ne_nil {path : Path} {piece : Path.Component} (member : piece ∈ path.components) :
    piece.name ≠ [] := by
  have counts := (List.mem_filter.mp member).2
  simp only [Bool.and_eq_true, decide_eq_true_eq] at counts
  exact counts.1

theorem name_mem_names {path : Path} {piece : Path.Component} (member : piece ∈ path.components) :
    piece.name ∈ names path :=
  List.mem_filter.mpr ⟨List.mem_map_of_mem (List.mem_filter.mp member).1,
    decide_eq_true (name_ne_nil member)⟩

/-- A parent is an initial part of a path; some names come behind it. -/
theorem parent?_spec {path directory : Path} (parent : path.parent? = some directory)
    (below : directory.bytes ≠ []) :
    directory.isAbsolute = path.isAbsolute ∧
      (∃ back, path.bytes = directory.bytes ++ back) ∧
      ∃ more, more ≠ [] ∧ names path = names directory ++ more := by
  unfold Path.parent? at parent
  split at parent
  case h_1 => cases parent
  case h_2 single components =>
    obtain rfl := Option.some.inj parent
    have absolute : path.isAbsolute = true := by
      cases relative : path.isAbsolute with
      | true => rfl
      | false => simp [relative] at below
    have member : single ∈ path.components := by
      rw [← List.mem_reverse, components]
      exact List.mem_cons_self
    obtain ⟨rest, bytes⟩ : ∃ rest, path.bytes = Path.slash :: rest := by
      simpa [Path.isAbsolute, List.head?_eq_some_iff] using absolute
    simp only [absolute, if_true]
    exact ⟨rfl, ⟨rest, bytes⟩, names path, List.ne_nil_of_mem (name_mem_names member), rfl⟩
  case h_3 last piece others components =>
    obtain rfl := Option.some.inj parent
    have listed : path.components = others.reverse ++ [piece, last] := by
      simpa using congrArg List.reverse components
    obtain ⟨earlier, later, pieces, -, tail⟩ := List.filter_eq_append_iff.mp listed
    obtain ⟨skipped, after, rfl, -, -, final⟩ := List.filter_eq_cons_iff.mp tail
    have member : last ∈ after := by
      have kept : last ∈ [last] := List.mem_cons_self
      rw [← final] at kept
      exact (List.mem_filter.mp kept).1
    rw [← List.append_assoc] at pieces
    obtain ⟨front, back, bytes, before, stop⟩ := pieces_cut pieces (List.ne_nil_of_mem member)
    have taken : path.bytes.take piece.stop = front := by
      rw [bytes, stop, Nat.zero_add, List.take_left]
    rw [taken] at below ⊢
    refine ⟨?_, ⟨_, bytes⟩, (after.map Path.Component.name).filter (· ≠ []), ?_, ?_⟩
    · cases front with
      | nil => exact absurd rfl below
      | cons => simp [Path.isAbsolute, bytes]
    · have named : last.name ≠ [] := name_ne_nil (by rw [listed]; simp)
      exact List.ne_nil_of_mem
        (List.mem_filter.mpr ⟨List.mem_map_of_mem member, decide_eq_true named⟩)
    · have named : piece.name ≠ [] := name_ne_nil (by rw [listed]; simp)
      simp only [names, pieces, before, List.map_append, List.filter_append]
      simp [named]

theorem accept_front {path front : Path} {back : List UInt8} (accepted : accept path = .ok ())
    (bytes : path.bytes = front.bytes ++ back) (below : front.bytes ≠ []) :
    accept front = .ok () := by
  simp only [accept] at accepted ⊢
  split at accepted
  · cases accepted
  split at accepted
  · cases accepted
  split at accepted
  · cases accepted
  case isFalse zero _ short =>
    rw [bytes, List.length_append] at short
    rw [bytes] at zero
    have clean : ¬ front.bytes.contains 0 = true := by
      simp only [List.contains_eq_mem, decide_eq_true_eq] at zero ⊢
      exact fun member => zero (List.mem_append_left _ member)
    rw [if_neg clean, if_neg below, if_neg (by omega)]

theorem follow_of_readBytes {tree : FileTree} {path : Path} {content : List UInt8}
    (read : tree.readBytes path = .ok content) :
    accept path = .ok () ∧
      ∃ finish, tree.follow (tree.origin path) (names path) = .ok finish := by
  cases accepted : accept path with
  | error =>
      simp only [readBytes, locate, accepted] at read
      cases read
  | ok =>
      cases followed : tree.follow (tree.origin path) (names path) with
      | error =>
          simp only [readBytes, locate, accepted, followed] at read
          cases read
      | ok finish => exact ⟨rfl, finish, rfl⟩

/-- The directory of a file that is there need not be created. -/
theorem createDirectories_parent {tree : FileTree} {path directory : Path} {content : List UInt8}
    (read : tree.readBytes path = .ok content) (parent : path.parent? = some directory)
    (levels : Nat) : tree.createDirectories levels directory = (.ok (), tree) := by
  by_cases below : directory.bytes = []
  · unfold createDirectories
    rw [if_pos below]
  obtain ⟨absolute, ⟨back, bytes⟩, more, behind, spelled⟩ := parent?_spec parent below
  obtain ⟨accepted, finish, followed⟩ := follow_of_readBytes read
  have origin : tree.origin directory = tree.origin path := by
    rw [FileTree.origin, absolute]
    rfl
  rw [spelled, follow_append] at followed
  cases first : tree.follow (tree.origin path) (names directory) with
  | error =>
      rw [first] at followed
      cases followed
  | ok between =>
      rw [first] at followed
      cases more with
      | nil => exact absurd rfl behind
      | cons name more =>
          exact createDirectories_of_follow (accept_front accepted bytes below)
            (origin.symm ▸ first) (directory_of_follow_cons followed) levels

end Parents

end CompileSession.FileTree
