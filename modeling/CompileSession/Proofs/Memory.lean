import CompileSession.Memory

/-!
# Reading what was written

Addresses wrap around, so bytes that are written side by side stay apart as long as there are no
more of them than addresses.  However much is stored, every place holds what was stored there last.
-/

namespace CompileSession.Memory

variable (memory : Memory)

private theorem next_add_ofNat (address : Address) (offset : Nat) :
    address + 1 + UInt64.ofNat offset = address + UInt64.ofNat (offset + 1) := by
  rw [UInt64.ofNat_add, UInt64.add_comm (UInt64.ofNat offset), ← UInt64.add_assoc]
  rfl

theorem byte_write_of_ne {bytes : List UInt8} {address place : Address}
    (apart : ∀ offset < bytes.length, address + UInt64.ofNat offset ≠ place) :
    (memory.write address bytes).byte place = memory.byte place := by
  induction bytes generalizing memory address with
  | nil => rfl
  | cons value rest ih =>
      rw [write, ih]
      · have first := apart 0 (Nat.zero_lt_succ _)
        have here : place ≠ address := by simpa using first.symm
        exact if_neg here
      · intro offset inside
        have later := apart (offset + 1) (Nat.succ_lt_succ inside)
        rw [next_add_ofNat]
        exact later

theorem byte_write {bytes : List UInt8} (short : bytes.length ≤ UInt64.size) {address : Address}
    {offset : Nat} (inside : offset < bytes.length) :
    (memory.write address bytes).byte (address + UInt64.ofNat offset) = bytes[offset] := by
  induction bytes generalizing memory address offset with
  | nil => cases inside
  | cons value rest ih =>
      cases offset with
      | zero =>
          rw [write, byte_write_of_ne]
          · simp [set]
          · intro offset later same
            rw [next_add_ofNat] at same
            have few : offset + 1 < UInt64.size := by
              rw [List.length_cons] at short
              exact Nat.lt_of_lt_of_le (Nat.succ_lt_succ later) short
            have wrapped := congrArg UInt64.toNat same
            rw [UInt64.toNat_add, UInt64.toNat_add, UInt64.toNat_ofNat_of_lt' few] at wrapped
            have size : UInt64.size = 18446744073709551616 := rfl
            simp at wrapped
            omega
      | succ offset =>
          rw [write, ← next_add_ofNat,
            ih _ (Nat.le_of_succ_le short) (Nat.lt_of_succ_lt_succ inside)]
          rfl

/-- What was written can be read back. -/
theorem read_write {bytes : List UInt8} (short : bytes.length ≤ UInt64.size) (address : Address) :
    (memory.write address bytes).read address bytes.length = bytes := by
  apply List.ext_getElem
  · simp [read]
  · intro offset _ inside
    simp only [read, List.getElem_map, List.getElem_range]
    exact byte_write memory short inside

/-- An allocation holds the bytes that it was made for. -/
theorem read_allocate {bytes : List UInt8} (short : bytes.length ≤ UInt64.size) (spare : Nat) :
    (memory.allocate bytes spare).2.read (memory.allocate bytes spare).1 bytes.length = bytes :=
  read_write memory short memory.next

/-- Bytes side by side from an address on, each with its place. -/
def cells (address : Address) : List UInt8 → List (Address × UInt8)
  | [] => []
  | value :: rest => (address, value) :: cells (address + 1) rest

/-- Stores bytes one after another, each at its place. -/
def storeAll (memory : Memory) (stored : List (Address × UInt8)) : Memory :=
  stored.foldl (fun memory cell => memory.set cell.1 cell.2) memory

theorem write_eq_storeAll (address : Address) (bytes : List UInt8) :
    memory.write address bytes = memory.storeAll (cells address bytes) := by
  induction bytes generalizing memory address with
  | nil => rfl
  | cons value rest ih => exact ih _ _

theorem storeAll_append (first second : List (Address × UInt8)) :
    memory.storeAll (first ++ second) = (memory.storeAll first).storeAll second :=
  List.foldl_append

/-- What was stored last at a place, or what the memory held there before. -/
def latest (memory : Memory) (stored : List (Address × UInt8)) (place : Address) : UInt8 :=
  (stored.reverse.lookup place).getD (memory.byte place)

theorem byte_storeAll (stored : List (Address × UInt8)) (place : Address) :
    (memory.storeAll stored).byte place = memory.latest stored place := by
  induction stored generalizing memory with
  | nil => rfl
  | cons cell rest ih =>
      obtain ⟨here, value⟩ := cell
      have first : (memory.storeAll ((here, value) :: rest)).byte place =
          ((memory.set here value).storeAll rest).byte place := rfl
      rw [first, ih, latest, latest, List.reverse_cons, List.lookup_append]
      cases rest.reverse.lookup place with
      | some later => rfl
      | none =>
          by_cases same : place = here
          · simp [set, same]
          · have other : (place == here) = false := beq_eq_false_iff_ne.mpr same
            simp [set, List.lookup_cons, same, other]

theorem latest_append (first second : List (Address × UInt8)) (place : Address) :
    memory.latest (first ++ second) place =
      (second.reverse.lookup place).getD (memory.latest first place) := by
  rw [latest, List.reverse_append, List.lookup_append, Option.getD_or]
  rfl

theorem latest_of_apart {stored : List (Address × UInt8)} {place : Address}
    (apart : ∀ cell ∈ stored, cell.1 ≠ place) : memory.latest stored place = memory.byte place := by
  have absent : stored.reverse.lookup place = none := by
    simp only [List.lookup_eq_none_iff, List.mem_reverse, bne_iff_ne]
    exact fun cell member => (apart cell member).symm
  rw [latest, absent]
  rfl

variable {memory}

theorem read_congr {other : Memory} {address : Address} {count : Nat}
    (same : ∀ offset < count, memory.byte (address + UInt64.ofNat offset) =
      other.byte (address + UInt64.ofNat offset)) :
    memory.read address count = other.read address count := by
  apply List.map_congr_left
  intro offset inside
  exact same offset (List.mem_range.mp inside)

/-- Nothing was stored at the places of some bytes side by side. -/
def Apart (stored : List (Address × UInt8)) (address : Address) (count : Nat) : Prop :=
  ∀ offset < count, ∀ cell ∈ stored, cell.1 ≠ address + UInt64.ofNat offset

theorem read_storeAll_of_apart {stored : List (Address × UInt8)} {address : Address} {count : Nat}
    (apart : Apart stored address count) :
    (memory.storeAll stored).read address count = memory.read address count := by
  apply read_congr
  intro offset inside
  rw [byte_storeAll, latest_of_apart memory (apart offset inside)]

/-- Bytes that were stored side by side can be read back until something is stored there again. -/
theorem read_storeAll {earlier later : List (Address × UInt8)} {address : Address}
    {bytes : List UInt8} (short : bytes.length ≤ UInt64.size)
    (apart : Apart later address bytes.length) :
    (memory.storeAll (earlier ++ cells address bytes ++ later)).read address bytes.length =
      bytes := by
  rw [storeAll_append, read_storeAll_of_apart apart, storeAll_append, ← write_eq_storeAll]
  exact read_write _ short address

end CompileSession.Memory

namespace CompileSession

theorem length_bytesOfNat (count n : Nat) : (bytesOfNat count n).length = count := by
  induction count generalizing n with
  | zero => rfl
  | succ count ih => exact congrArg Nat.succ (ih _)

theorem natOfBytes_bytesOfNat (count n : Nat) :
    natOfBytes (bytesOfNat count n) = n % Nat.pow 256 count := by
  induction count generalizing n with
  | zero => exact (Nat.mod_one n).symm
  | succ count ih =>
      have low : (UInt8.ofNat n).toNat = n % 256 := rfl
      have next : Nat.pow 256 (count + 1) = 256 * Nat.pow 256 count := Nat.pow_succ'
      rw [bytesOfNat, natOfBytes, ih, low, next, Nat.mod_mul]

theorem bytesOfNat_mod (count n : Nat) :
    bytesOfNat count (n % Nat.pow 256 count) = bytesOfNat count n := by
  induction count generalizing n with
  | zero => rfl
  | succ count ih =>
      have next : Nat.pow 256 (count + 1) = 256 * Nat.pow 256 count := Nat.pow_succ'
      have low : UInt8.ofNat (n % (256 * Nat.pow 256 count)) = UInt8.ofNat n := by
        apply UInt8.toNat_inj.mp
        rw [UInt8.toNat_ofNat', UInt8.toNat_ofNat']
        exact Nat.mod_mul_right_mod ..
      rw [bytesOfNat, bytesOfNat, next, low, Nat.mod_mul_right_div_self, ih]

namespace IntegerType

variable (type : IntegerType)

/-- Whether a number is a value of the type. -/
def Holds (value : Int) : Prop :=
  if type.signed then -type.modulus ≤ value * 2 ∧ value * 2 < type.modulus
  else 0 ≤ value ∧ value < type.modulus

instance (value : Int) : Decidable (type.Holds value) :=
  inferInstanceAs (Decidable (if type.signed then _ ∧ _ else _ ∧ _))

theorem length_encode (value : Int) : (type.encode value).length = type.size :=
  length_bytesOfNat ..

theorem decode_encode {value : Int} (holds : type.Holds value) :
    type.decode (type.encode value) = value := by
  have positive : 0 < type.modulus := Nat.pow_pos (by decide)
  have spelled : ((natOfBytes (type.encode value) : Nat) : Int) = value % type.modulus := by
    have nonneg : 0 ≤ value % type.modulus := Int.emod_nonneg _ (by omega)
    have small : value % type.modulus < type.modulus := Int.emod_lt_of_pos _ (by omega)
    rw [encode, natOfBytes_bytesOfNat]
    change ((((value % type.modulus).toNat % type.modulus : Nat)) : Int) = _
    rw [Nat.mod_eq_of_lt (by omega), Int.toNat_of_nonneg nonneg]
  unfold Holds at holds
  rw [decode]
  split at holds
  case isTrue signed =>
    rw [if_pos signed, spelled, Int.emod_bmod]
    exact Int.bmod_eq_of_le_mul_two holds.1 holds.2
  case isFalse unsigned =>
    rw [if_neg unsigned, spelled]
    exact Int.emod_eq_of_lt holds.1 holds.2

end IntegerType

end CompileSession
