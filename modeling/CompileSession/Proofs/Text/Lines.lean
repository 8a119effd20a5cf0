import CompileSession.Text.Column
import Mathlib.Algebra.Group.Nat.Defs

/-!
# Texts and their lines

Joining undoes splitting for every text.  Splitting undoes joining line by line: where texts that
have several lines themselves are put together, the lines of each one come out behind those of the
one before.  Numbers are read back from their digits, whatever the column that they fill.
-/

namespace CompileSession.Text

section Characters

variable {separator c : Char} {chars left right : List Char}

theorem splitChars_cons_of_ne (other : c ≠ separator) :
    splitChars separator (c :: chars) = (splitChars separator chars).modifyHead (c :: ·) := by
  rw [splitChars, if_neg other]
  cases pieces : splitChars separator chars with
  | nil => exact absurd pieces (splitChars_ne_nil separator chars)
  | cons piece pieces => rfl

theorem splitChars_append :
    splitChars separator (left ++ separator :: right) =
      splitChars separator left ++ splitChars separator right := by
  induction left with
  | nil => simp [splitChars]
  | cons c left ih =>
      by_cases same : c = separator
      · subst same
        rw [List.cons_append, splitChars, if_pos rfl, ih, splitChars, if_pos rfl, List.cons_append]
      · rw [List.cons_append, splitChars_cons_of_ne same, ih, splitChars_cons_of_ne same]
        cases pieces : splitChars separator left with
        | nil => exact absurd pieces (splitChars_ne_nil separator left)
        | cons piece pieces => rfl

theorem splitChars_of_not_mem (plain : separator ∉ chars) :
    splitChars separator chars = [chars] := by
  induction chars with
  | nil => rfl
  | cons c chars ih =>
      have other : c ≠ separator := by
        rintro rfl
        exact plain List.mem_cons_self
      rw [splitChars_cons_of_ne other, ih (mt (List.mem_cons_of_mem c) plain)]
      rfl

end Characters

section Lines

theorem splitLines_ne_nil (text : String) : splitLines text ≠ [] :=
  mt List.map_eq_nil_iff.mp (splitChars_ne_nil '\n' text.toList)

/-- A text without a line break has one line. -/
theorem splitLines_of_not_mem {line : String} (plain : '\n' ∉ line.toList) :
    splitLines line = [line] := by
  rw [splitLines, splitChars_of_not_mem plain, List.map_singleton, String.ofList_toList]

theorem splitLines_append (first second : String) :
    splitLines (first ++ "\n" ++ second) = splitLines first ++ splitLines second := by
  have chars : (first ++ "\n" ++ second).toList = first.toList ++ '\n' :: second.toList := by
    simp
  rw [splitLines, chars, splitChars_append, List.map_append]
  rfl

theorem joinLines_cons {text : String} {texts : List String} (more : texts ≠ []) :
    joinLines (text :: texts) = text ++ "\n" ++ joinLines texts := by
  cases texts with
  | nil => exact absurd rfl more
  | cons next rest => rfl

/-- The lines of texts that are put together: no text at all is one empty line. -/
def joinedLines (texts : List String) : List String :=
  if texts = [] then [""] else texts.flatMap splitLines

theorem splitLines_joinLines (texts : List String) :
    splitLines (joinLines texts) = joinedLines texts := by
  induction texts with
  | nil => rfl
  | cons text texts ih =>
      cases texts with
      | nil => exact (List.append_nil _).symm
      | cons next rest =>
          rw [joinLines_cons (List.cons_ne_nil next rest), splitLines_append, ih]
          rfl

/-- Lines are found again in the text that they make. -/
theorem splitLines_joinLines_of_plain {lines : List String} (nonempty : lines ≠ [])
    (plain : ∀ line ∈ lines, '\n' ∉ line.toList) : splitLines (joinLines lines) = lines := by
  rw [splitLines_joinLines, joinedLines, if_neg nonempty]
  clear nonempty
  induction lines with
  | nil => rfl
  | cons line lines ih =>
      obtain ⟨first, others⟩ := List.forall_mem_cons.mp plain
      rw [List.flatMap_cons, splitLines_of_not_mem first, ih others]
      rfl

theorem joinLines_splitChars (chars : List Char) :
    joinLines ((splitChars '\n' chars).map String.ofList) = String.ofList chars := by
  induction chars with
  | nil => rfl
  | cons c chars ih =>
      have more : (splitChars '\n' chars).map String.ofList ≠ [] := by
        simpa using splitChars_ne_nil '\n' chars
      by_cases same : c = '\n'
      · subst same
        rw [splitChars, if_pos rfl, List.map_cons, joinLines_cons more, ih]
        apply String.toList_inj.mp
        simp
      · rw [splitChars_cons_of_ne same]
        cases pieces : splitChars '\n' chars with
        | nil => exact absurd pieces (splitChars_ne_nil '\n' chars)
        | cons piece pieces' =>
            rw [pieces] at ih
            apply String.toList_inj.mp
            have whole := congrArg String.toList ih
            cases pieces' with
            | nil => simpa [joinLines, joinWith] using whole
            | cons next rest => simpa [joinLines, joinWith] using whole

theorem joinLines_splitLines (text : String) : joinLines (splitLines text) = text := by
  rw [splitLines, joinLines_splitChars, String.ofList_toList]

theorem not_mem_of_mem_splitChars {separator : Char} {chars piece : List Char}
    (member : piece ∈ splitChars separator chars) : separator ∉ piece := by
  induction chars generalizing piece with
  | nil =>
      obtain rfl := List.mem_singleton.mp member
      exact List.not_mem_nil
  | cons c chars ih =>
      by_cases same : c = separator
      · rw [splitChars, if_pos same] at member
        rcases List.mem_cons.mp member with rfl | later
        · exact List.not_mem_nil
        · exact ih later
      · rw [splitChars_cons_of_ne same] at member
        cases pieces : splitChars separator chars with
        | nil => exact absurd pieces (splitChars_ne_nil separator chars)
        | cons first rest =>
            rw [pieces] at member ih
            rcases List.mem_cons.mp member with rfl | later
            · exact List.not_mem_cons_of_ne_of_not_mem (Ne.symm same) (ih List.mem_cons_self)
            · exact ih (List.mem_cons_of_mem _ later)

/-- A line holds no line break. -/
theorem not_mem_of_mem_splitLines {text line : String} (member : line ∈ splitLines text) :
    '\n' ∉ line.toList := by
  obtain ⟨piece, inside, rfl⟩ := List.mem_map.mp member
  rw [String.toList_ofList]
  exact not_mem_of_mem_splitChars inside

/-- Lines that are written one by one, each with a line break, end in front of an empty line. -/
theorem splitLines_join {lines : List String} (plain : ∀ line ∈ lines, '\n' ∉ line.toList) :
    splitLines (String.join (lines.map (· ++ "\n"))) = lines ++ [""] := by
  induction lines with
  | nil => rfl
  | cons line lines ih =>
      obtain ⟨first, others⟩ := List.forall_mem_cons.mp plain
      rw [List.map_cons, String.join_cons, splitLines_append, splitLines_of_not_mem first,
        ih others]
      rfl

end Lines

section Digits

theorem length_toDigits_le {base first last : Nat} (large : 1 < base) (le : first ≤ last) :
    (Nat.toDigits base first).length ≤ (Nat.toDigits base last).length := by
  have positive : 0 < (Nat.toDigits base last).length := Nat.length_toDigits_pos
  have bound : last < base ^ (Nat.toDigits base last).length :=
    (Nat.length_toDigits_le_iff large positive).mp (Nat.le_refl _)
  exact (Nat.length_toDigits_le_iff large positive).mpr (Nat.lt_of_le_of_lt le bound)

/-- A number has so many digits that it could not be written with one fewer. -/
theorem length_toDigits_spec {n : Nat} (positive : 0 < n) :
    10 ^ ((Nat.toDigits 10 n).length - 1) ≤ n ∧ n < 10 ^ (Nat.toDigits 10 n).length := by
  have some : 0 < (Nat.toDigits 10 n).length := Nat.length_toDigits_pos
  refine ⟨?_, (Nat.length_toDigits_le_iff (by decide) some).mp (Nat.le_refl _)⟩
  by_cases single : (Nat.toDigits 10 n).length = 1
  · rw [single]
    exact positive
  · have fewer := Nat.length_toDigits_le_iff (n := n) (k := (Nat.toDigits 10 n).length - 1)
      (by decide : 1 < 10) (by omega)
    exact Nat.le_of_not_lt (mt fewer.mpr (by omega))

theorem length_fillLeft (fill : Char) (width : Nat) (chars : List Char) :
    (fillLeft fill width chars).length = max width chars.length := by
  rw [fillLeft, List.length_append, List.length_replicate]
  omega

/-- The value of a digit in base sixteen, lower case. -/
def hexDigit? (c : Char) : Option Nat :=
  if '0' ≤ c ∧ c ≤ '9' then some (c.toNat - 48)
  else if 'a' ≤ c ∧ c ≤ 'f' then some (c.toNat - 87)
  else none

/-- The number that characters spell in base sixteen, if all of them are digits, lower case. -/
def readHex? (chars : List Char) : Option Nat :=
  chars.foldlM (fun number c => (hexDigit? c).map (number * 16 + ·)) 0

theorem hexDigit?_digitChar {n : Nat} (small : n < 16) : hexDigit? n.digitChar = some n := by
  have all : ∀ n < 16, hexDigit? n.digitChar = some n := by decide
  exact all n small

theorem readHex?_concat (chars : List Char) (c : Char) :
    readHex? (chars ++ [c]) =
      (readHex? chars).bind fun number => (hexDigit? c).map (number * 16 + ·) := by
  simp [readHex?, List.foldlM_append]

theorem readHex?_toDigits (n : Nat) : readHex? (Nat.toDigits 16 n) = some n := by
  induction n using Nat.strongRecOn with
  | ind n ih =>
      by_cases small : n < 16
      · have last := hexDigit?_digitChar small
        rw [Nat.toDigits_of_lt_base small]
        simp [readHex?, last]
      · have last := hexDigit?_digitChar (Nat.mod_lt n (by decide : 0 < 16))
        rw [Nat.toDigits_of_base_le (by decide) (by omega), readHex?_concat, ih _ (by omega)]
        simp only [Option.bind_some, last, Option.map_some, Option.some.injEq]
        omega

/-- Only digits spell a number. -/
theorem isSome_hexDigit?_of_readHex? {chars : List Char} {n : Nat}
    (spelled : readHex? chars = some n) : ∀ c ∈ chars, (hexDigit? c).isSome = true := by
  unfold readHex? at spelled
  generalize 0 = before at spelled
  induction chars generalizing before with
  | nil => exact List.forall_mem_nil _
  | cons c chars ih =>
      rw [List.foldlM_cons] at spelled
      obtain ⟨after, first, others⟩ := Option.bind_eq_some_iff.mp spelled
      obtain ⟨digit, value, -⟩ := Option.map_eq_some_iff.mp first
      refine List.forall_mem_cons.mpr ⟨?_, ih after others⟩
      rw [value, Option.isSome_some]

/-- Zeros in front make no difference. -/
theorem readHex?_fillLeft (width : Nat) (chars : List Char) :
    readHex? (fillLeft '0' width chars) = readHex? chars := by
  rw [fillLeft]
  induction width - chars.length with
  | zero => rfl
  | succ count ih =>
      rw [List.replicate_succ, List.cons_append]
      exact ih

end Digits

end CompileSession.Text
