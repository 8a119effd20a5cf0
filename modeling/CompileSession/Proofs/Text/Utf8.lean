import CompileSession.Path

/-!
# Well-formed text is read exactly

Reading bytes leniently replaces only what is not well formed, so it takes every text back that was
written as bytes.
-/

namespace CompileSession.Text

theorem encode_eq_flatMap (text : String) :
    encode text = text.toList.flatMap String.utf8EncodeChar := by
  have written : text.toUTF8 = text.toList.utf8Encode := String.utf8Encode_toList.symm
  rw [encode, written, List.utf8Encode, List.toList_data_toByteArray]

/-- Only the character zero is written with a zero byte. -/
theorem eq_zero_of_mem_encodeChar {c : Char} (member : 0 ∈ String.utf8EncodeChar c) :
    c = '\x00' := by
  have value (n : Nat) (same : 0 = UInt8.ofNat n) : n % 256 = 0 := by
    have equal := congrArg UInt8.toNat same
    rw [UInt8.toNat_ofNat'] at equal
    exact equal.symm
  unfold String.utf8EncodeChar at member
  apply Char.toNat_inj.mp
  change c.val.toNat = 0
  dsimp only at member
  split at member
  · have small := value _ (List.mem_singleton.mp member)
    omega
  · exfalso
    -- all bytes of a longer sequence are large
    have large {m high : Nat} (bound : 128 ≤ high) (small : m + high < 256)
        (same : 0 = UInt8.ofNat (m + high)) : False := by
      have zero := value _ same
      omega
    split at member
    · simp only [List.mem_cons, List.not_mem_nil, or_false] at member
      rcases member with byte | byte <;> exact large (by omega) (by omega) byte
    · split at member <;> simp only [List.mem_cons, List.not_mem_nil, or_false] at member
      · rcases member with byte | byte | byte <;> exact large (by omega) (by omega) byte
      · rcases member with byte | byte | byte | byte <;> exact large (by omega) (by omega) byte

theorem zero_mem_encode_iff (text : String) : 0 ∈ encode text ↔ '\x00' ∈ text.toList := by
  rw [encode_eq_flatMap, List.mem_flatMap]
  constructor
  · rintro ⟨c, member, zero⟩
    exact eq_zero_of_mem_encodeChar zero ▸ member
  · intro member
    exact ⟨_, member, by decide⟩

/-- The bytes that follow a first byte complete a code point, and others are left. -/
def Completes (code low high following : Nat) (bytes : List UInt8) (result : Nat)
    (rest : List UInt8) : Prop :=
  (readFollowing code low high following bytes).1 = some result ∧
    (readFollowing code low high following bytes).2.val = rest

theorem Completes.zero {code low high result : Nat} (same : code = result)
    (rest : List UInt8) : Completes code low high 0 rest result rest :=
  ⟨congrArg some same, rfl⟩

/-- A byte that follows carries six bits. -/
theorem Completes.succ {code low high following bits result : Nat} {bytes rest : List UInt8}
    (small : bits < 64) (fits : low ≤ bits + 128 ∧ bits + 128 ≤ high)
    (later : Completes (code * 64 + bits) 0x80 0xBF following bytes result rest) :
    Completes code low high (following + 1) (UInt8.ofNat (bits + 128) :: bytes) result rest := by
  have carried : (UInt8.ofNat (bits + 128)).toNat = bits + 128 := by
    rw [UInt8.toNat_ofNat']
    omega
  have payload : (bits + 128) % 64 = bits := by omega
  rw [Completes, readFollowing, carried, if_pos fits, payload]
  exact later

theorem Completes.tail {code following bits result : Nat} {bytes rest : List UInt8}
    (small : bits < 64)
    (later : Completes (code * 64 + bits) 0x80 0xBF following bytes result rest) :
    Completes code 0x80 0xBF (following + 1) (UInt8.ofNat (bits + 128) :: bytes) result rest :=
  later.succ small ⟨by omega, by omega⟩

theorem decodeChars_ascii {v : Nat} (ascii : v ≤ 127) (rest : List UInt8) :
    decodeChars (UInt8.ofNat v :: rest) = Char.ofNat v :: decodeChars rest := by
  have carried : (UInt8.ofNat v).toNat = v := by
    rw [UInt8.toNat_ofNat']
    omega
  rw [decodeChars, carried, if_pos (by omega)]

theorem decodeChars_lead {first payload low high following code : Nat} {bytes rest : List UInt8}
    (byte : first < 256) (long : 127 < first)
    (found : lead? first = some ⟨payload, low, high, following⟩)
    (completes : Completes payload low high following bytes code rest) :
    decodeChars (UInt8.ofNat first :: bytes) = Char.ofNat code :: decodeChars rest := by
  have carried : (UInt8.ofNat first).toNat = first := by
    rw [UInt8.toNat_ofNat']
    omega
  obtain ⟨read, left⟩ := completes
  rw [decodeChars, carried, if_neg (by omega)]
  simp only [found, read, left, Option.map_some, Option.getD_some]

section Leads

variable {v : Nat} (valid : v.isValidChar)

theorem lead?_two (more : 127 < v) (short : v ≤ 2047) :
    lead? (v / 64 % 32 + 192) = some ⟨v / 64 % 32, 0x80, 0xBF, 1⟩ := by
  rw [lead?, if_neg (by omega), if_pos (by omega), Nat.add_sub_cancel]

include valid

/-- The bounds on the second byte keep out overlong forms and surrogates. -/
theorem lead?_three (more : 2047 < v) (short : v ≤ 65535) :
    ∃ low high, lead? (v / 4096 % 16 + 224) = some ⟨v / 4096 % 16, low, high, 2⟩ ∧
      low ≤ v / 64 % 64 + 128 ∧ v / 64 % 64 + 128 ≤ high := by
  rw [lead?, if_neg (by omega), if_neg (by omega)]
  by_cases overlong : v / 4096 % 16 = 0
  · rw [if_pos (by omega), overlong]
    exact ⟨_, _, rfl, by omega, by omega⟩
  · rw [if_neg (by omega)]
    by_cases surrogate : v / 4096 % 16 = 13
    · rw [if_pos (by omega), surrogate]
      exact ⟨_, _, rfl, by omega, by omega⟩
    · rw [if_neg (by omega), if_pos (by omega), Nat.add_sub_cancel]
      exact ⟨_, _, rfl, by omega, by omega⟩

/-- The bounds on the second byte keep out overlong forms and what lies beyond the last code
point. -/
theorem lead?_four (more : 65535 < v) :
    ∃ low high, lead? (v / 262144 % 8 + 240) = some ⟨v / 262144 % 8, low, high, 3⟩ ∧
      low ≤ v / 4096 % 64 + 128 ∧ v / 4096 % 64 + 128 ≤ high := by
  rw [lead?, if_neg (by omega), if_neg (by omega), if_neg (by omega), if_neg (by omega),
    if_neg (by omega)]
  by_cases overlong : v / 262144 % 8 = 0
  · rw [if_pos (by omega), overlong]
    exact ⟨_, _, rfl, by omega, by omega⟩
  · rw [if_neg (by omega)]
    by_cases middle : v / 262144 % 8 < 4
    · rw [if_pos (by omega), Nat.add_sub_cancel]
      exact ⟨_, _, rfl, by omega, by omega⟩
    · have last : v / 262144 % 8 = 4 := by omega
      rw [if_neg (by omega), if_pos (by omega), last]
      exact ⟨_, _, rfl, by omega, by omega⟩

end Leads

/-- The bytes of a character are read as that character, whatever comes behind them. -/
theorem decodeChars_encodeChar (c : Char) (rest : List UInt8) :
    decodeChars (String.utf8EncodeChar c ++ rest) = c :: decodeChars rest := by
  have valid : c.val.toNat.isValidChar := c.valid
  have number : c = Char.ofNat c.val.toNat := c.ofNat_toNat.symm
  dsimp only [String.utf8EncodeChar]
  generalize c.val.toNat = v at valid number ⊢
  subst c
  split
  case isTrue ascii => exact decodeChars_ascii ascii rest
  case isFalse more =>
    split
    case isTrue short =>
      apply decodeChars_lead (by omega) (by omega) (lead?_two (by omega) short)
      exact .tail (by omega) (.zero (by omega) rest)
    case isFalse longer =>
      split
      case isTrue short =>
        obtain ⟨low, high, found, fits⟩ := lead?_three valid (by omega) short
        apply decodeChars_lead (by omega) (by omega) found
        exact .succ (by omega) fits (.tail (by omega) (.zero (by omega) rest))
      case isFalse longest =>
        obtain ⟨low, high, found, fits⟩ := lead?_four valid (by omega)
        apply decodeChars_lead (by omega) (by omega) found
        exact .succ (by omega) fits (.tail (by omega) (.tail (by omega) (.zero (by omega) rest)))

/-- What was written as bytes is read as it was. -/
theorem decodeLossy_encode (text : String) : decodeLossy (encode text) = text := by
  have read (chars : List Char) :
      decodeChars (chars.flatMap String.utf8EncodeChar) = chars := by
    induction chars with
    | nil => rw [List.flatMap_nil, decodeChars]
    | cons c chars ih => rw [List.flatMap_cons, decodeChars_encodeChar, ih]
  rw [decodeLossy, encode_eq_flatMap, read, String.ofList_toList]

end CompileSession.Text

namespace CompileSession.Path

theorem display_ofText (text : String) : (ofText text).display = text :=
  Text.decodeLossy_encode text

/-- A path that is text is shown as it is. -/
theorem encode_display {path : Path} {text : String} (spelled : path.text? = some text) :
    Text.encode path.display = path.bytes := by
  rw [← ofText_of_text? spelled, display_ofText]
  rfl

end CompileSession.Path
