import CompileSession.Toml.Number
import Mathlib.Data.List.TakeDrop

/-!
# Numbers are read as they were written

A number's decimal digits are a word of their own, have no zero in front and add up to the number.
-/

namespace CompileSession.Toml

/-- A word ends where its characters end. -/
theorem span_append {p : Char → Bool} {word rest : List Char} (all : ∀ c ∈ word, p c = true)
    (stops : ∀ c ∈ rest.head?, p c = false) : (word ++ rest).span p = (word, rest) := by
  rw [List.span_eq_takeWhile_dropWhile, List.takeWhile_append_of_pos all,
    List.dropWhile_append_of_pos all]
  cases rest with
  | nil => simp
  | cons c rest =>
      have stop : p c = false := stops c rfl
      simp [stop]

theorem isDigit_iff (c : Char) : isDigit c = true ↔ 48 ≤ c.toNat ∧ c.toNat ≤ 57 := by
  simp only [isDigit, Bool.and_eq_true, decide_eq_true_eq]
  exact Iff.rfl

theorem isDigit_of_mem_toDigits {n : Nat} {c : Char} (member : c ∈ Nat.toDigits 10 n) :
    isDigit c = true := by
  have digit := Nat.isDigit_of_mem_toDigits (by decide) (by decide) member
  simp only [Char.isDigit, Bool.and_eq_true, decide_eq_true_eq] at digit
  exact (isDigit_iff c).mpr digit

theorem digitValue?_of_isDigit {c : Char} (digit : isDigit c = true) :
    digitValue? 10 c = some (c.toNat - 48) := by
  have bounds := (isDigit_iff c).mp digit
  simp only [digitValue?, if_pos digit]
  rw [if_pos (by omega)]

/-- Digits without underscores are read one by one. -/
theorem digits?_of_isDigit {word : List Char} (all : ∀ c ∈ word, isDigit c = true)
    (nonempty : word ≠ []) : digits? 10 word = some (word.map fun c => c.toNat - 48) := by
  induction word with
  | nil => exact absurd rfl nonempty
  | cons c rest ih =>
      obtain ⟨first, others⟩ := List.forall_mem_cons.mp all
      cases rest with
      | nil => rw [digits?, digitValue?_of_isDigit first]; rfl
      | cons d rest =>
          have underscore : d ≠ '_' := by
            rintro rfl
            cases others _ List.mem_cons_self
          rw [digits?, digitValue?_of_isDigit first, ih others (by simp)]
          · rfl
          · exact nofun
          · intro more same
            exact underscore (List.cons.inj same).1

theorem numberOf_toDigits (n : Nat) :
    numberOf 10 ((Nat.toDigits 10 n).map fun c => c.toNat - 48) = n := by
  have value : Nat.ofDigitChars 10 (Nat.toDigits 10 n) 0 = n := Nat.ofDigitChars_ten_toDigits
  rw [Nat.ofDigitChars_eq_foldl] at value
  rw [numberOf, List.foldl_map]
  have same : (fun number c => number * 10 + (Char.toNat c - 48)) =
      fun number c => 10 * number + (Char.toNat c - '0'.toNat) := by
    funext number c
    rw [Nat.mul_comm]
    rfl
  rw [same]
  exact value

/-- Only zero itself starts with a zero. -/
theorem head?_toDigits {n : Nat} (positive : 0 < n) : (Nat.toDigits 10 n).head? ≠ some '0' := by
  induction n using Nat.strongRecOn with
  | ind n ih =>
      by_cases small : n < 10
      · rw [Nat.toDigits_of_lt_base small]
        simp only [List.head?_cons, ne_eq, Option.some.injEq, Nat.digitChar_eq_zero]
        omega
      · rw [Nat.toDigits_of_base_le (by decide) (by omega), List.head?_append]
        have front := ih (n / 10) (by omega) (by omega)
        cases digits : Nat.toDigits 10 (n / 10) with
        | nil => exact absurd digits Nat.toDigits_ne_nil
        | cons c rest =>
            rw [digits] at front
            exact front

theorem decimalDigits?_toDigits (n : Nat) :
    decimalDigits? (Nat.toDigits 10 n) =
      some ((Nat.toDigits 10 n).map fun c => c.toNat - 48) := by
  have digits := digits?_of_isDigit (fun _ => isDigit_of_mem_toDigits (n := n)) Nat.toDigits_ne_nil
  simp only [decimalDigits?, digits, bind, Option.bind]
  rw [if_neg]
  rintro ⟨zero, long⟩
  by_cases positive : 0 < n
  · obtain ⟨c, first, same⟩ := List.head?_map ▸ zero |> Option.map_eq_some_iff.mp
    have bounds := (isDigit_iff c).mp (isDigit_of_mem_toDigits (List.mem_of_mem_head? first))
    have none : c = '0' := Char.toNat_inj.mp (by simp; omega)
    exact head?_toDigits positive (none ▸ first)
  · obtain rfl : n = 0 := by omega
    exact long rfl

/-- Digits are not a sign and start no number in another base. -/
theorem integer?_of_isDigit {word : List Char} (all : ∀ c ∈ word, isDigit c = true) :
    integer? word =
      (decimalDigits? word).bind fun digits => fitInteger? (numberOf 10 digits : Nat) := by
  have splits : splitSign word = (false, word) := by
    unfold splitSign
    split
    · cases all _ List.mem_cons_self
    · cases all _ List.mem_cons_self
    · rfl
  unfold integer?
  split
  · cases all _ (List.mem_cons_of_mem _ List.mem_cons_self)
  · cases all _ (List.mem_cons_of_mem _ List.mem_cons_self)
  · cases all _ (List.mem_cons_of_mem _ List.mem_cons_self)
  · rw [splits]
    rfl

theorem integer?_toDigits {n : Nat} (fits : n < Nat.pow 2 63) :
    integer? (Nat.toDigits 10 n) = some (.integer n) := by
  have all (c : Char) := isDigit_of_mem_toDigits (n := n) (c := c)
  rw [integer?_of_isDigit all, decimalDigits?_toDigits, Option.bind_some, numberOf_toDigits]
  rw [fitInteger?, if_pos]
  constructor
  · omega
  · exact_mod_cast fits

/-- A number that fits into an integer is read back. -/
theorem readWord_toDigits {n : Nat} (fits : n < Nat.pow 2 63) {rest : List Char}
    (stops : ∀ c ∈ rest.head?, isWordChar c = false ∧ c ≠ ' ') :
    readWord (Nat.toDigits 10 n ++ rest) = some (.integer n, rest) := by
  have all (c : Char) := isDigit_of_mem_toDigits (n := n) (c := c)
  have word : (Nat.toDigits 10 n ++ rest).span isWordChar = (Nat.toDigits 10 n, rest) := by
    apply span_append
    · intro c member
      simp [isWordChar, all c member]
    · exact fun c first => (stops c first).1
  have splits : splitWord (Nat.toDigits 10 n ++ rest) = (Nat.toDigits 10 n, rest) := by
    simp only [splitWord, word]
    split
    · exact absurd rfl (stops ' ' rfl).2
    · rfl
  have plain (letter : Char) (other : isDigit letter = false) (more : List Char) :
      Nat.toDigits 10 n ≠ letter :: more := by
    intro same
    have digit := all letter (same ▸ List.mem_cons_self)
    rw [other] at digit
    cases digit
  simp only [readWord, splits, if_neg (plain 't' rfl _), if_neg (plain 'f' rfl _),
    integer?_toDigits fits]
  rfl

end CompileSession.Toml
