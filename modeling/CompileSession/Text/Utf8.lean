/-!
# Bytes as text

Well-formed UTF-8 is read exactly; `decodeLossy` also accepts everything else and puts the
replacement character in the place of each maximal ill-formed piece.
-/

namespace CompileSession.Text

def encode (text : String) : List UInt8 :=
  text.toUTF8.data.toList

/-- The text whose UTF-8 bytes these are, if they are well formed. -/
def decode? (bytes : List UInt8) : Option String :=
  String.fromUTF8? ⟨bytes.toArray⟩

/-- What the first byte of a multi-byte sequence announces. -/
structure Lead where
  /-- The bits of the code point that the first byte carries. -/
  payload : Nat
  /-- The least second byte. -/
  low : Nat
  /-- The greatest second byte. -/
  high : Nat
  /-- How many bytes follow. -/
  following : Nat

/-- The announcement of a first byte of 128 or more, if it is one; the bounds on the second byte
keep out overlong forms, surrogates and code points beyond the last. -/
def lead? (byte : Nat) : Option Lead :=
  if byte < 0xC2 then none
  else if byte < 0xE0 then some ⟨byte - 0xC0, 0x80, 0xBF, 1⟩
  else if byte = 0xE0 then some ⟨0, 0xA0, 0xBF, 2⟩
  else if byte = 0xED then some ⟨0xD, 0x80, 0x9F, 2⟩
  else if byte < 0xF0 then some ⟨byte - 0xE0, 0x80, 0xBF, 2⟩
  else if byte = 0xF0 then some ⟨0, 0x90, 0xBF, 3⟩
  else if byte < 0xF4 then some ⟨byte - 0xF0, 0x80, 0xBF, 3⟩
  else if byte = 0xF4 then some ⟨4, 0x80, 0x8F, 3⟩
  else none

/-- Reads the bytes that follow a first byte: the code point, or nothing when a byte does not fit,
and in both cases the bytes that were not used. -/
def readFollowing (code low high : Nat) :
    Nat → (bytes : List UInt8) → Option Nat × { rest : List UInt8 // rest.length ≤ bytes.length }
  | 0, bytes => (some code, ⟨bytes, Nat.le_refl _⟩)
  | _ + 1, [] => (none, ⟨[], Nat.le_refl _⟩)
  | following + 1, byte :: rest =>
    if low ≤ byte.toNat ∧ byte.toNat ≤ high then
      let (result, unused) := readFollowing (code * 64 + byte.toNat % 64) 0x80 0xBF following rest
      (result, ⟨unused.val, Nat.le_succ_of_le unused.property⟩)
    else (none, ⟨byte :: rest, Nat.le_refl _⟩)

/-- What stands for a piece that is not well formed. -/
def replacement : Char := '\ufffd'

/-- The characters of a byte sequence, ill-formed pieces replaced. -/
def decodeChars : List UInt8 → List Char
  | [] => []
  | byte :: rest =>
    if byte.toNat < 0x80 then Char.ofNat byte.toNat :: decodeChars rest
    else
      match lead? byte.toNat with
      | none => replacement :: decodeChars rest
      | some lead =>
        let (code, unused) := readFollowing lead.payload lead.low lead.high lead.following rest
        (code.map Char.ofNat).getD replacement :: decodeChars unused.val
termination_by bytes => bytes.length
decreasing_by
  · simp
  · simp
  · exact Nat.lt_succ_of_le unused.property

def decodeLossy (bytes : List UInt8) : String :=
  String.ofList (decodeChars bytes)

theorem decode?_encode (text : String) : decode? (encode text) = some text := by
  have bytes : (⟨(encode text).toArray⟩ : ByteArray) = text.toByteArray := by
    simp [encode]
  simp only [decode?, bytes, String.fromUTF8?, dif_pos text.isValidUTF8]
  rfl

theorem encode_of_decode? {bytes : List UInt8} {text : String}
    (decoded : decode? bytes = some text) : encode text = bytes := by
  unfold decode? String.fromUTF8? at decoded
  split at decoded
  · cases decoded
    simp [encode, String.fromUTF8]
  · cases decoded

end CompileSession.Text
