import CompileSession.Text.Utf8

/-!
# Paths

A path is a sequence of bytes whose components are separated by slashes.  It need not be
well-formed text.
-/

namespace CompileSession

/-- A path as the operating system knows it. -/
structure Path where
  bytes : List UInt8
deriving DecidableEq, Repr

namespace Path

def slash : UInt8 := 0x2F

def ofText (text : String) : Path :=
  ⟨Text.encode text⟩

/-- The text that spells a path, if there is one. -/
def text? (path : Path) : Option String :=
  Text.decode? path.bytes

/-- A path for display; what is not text is replaced. -/
def display (path : Path) : String :=
  Text.decodeLossy path.bytes

def isAbsolute (path : Path) : Bool :=
  path.bytes.head? = some slash

/-- A path below a base: an absolute path stands for itself, any other is put after the base, with
a slash between them unless the base is empty or ends in one. -/
def join (base path : Path) : Path :=
  if path.isAbsolute then path
  else if base.bytes.getLast?.all (· = slash) then ⟨base.bytes ++ path.bytes⟩
  else ⟨base.bytes ++ slash :: path.bytes⟩

/-- A component of a path together with the number of bytes up to its end. -/
structure Component where
  name : List UInt8
  stop : Nat
deriving DecidableEq, Repr

/-- The pieces between slashes, empty ones included, with where each ends; `start` is where the
first one starts. -/
def pieces (start : Nat) : List UInt8 → List Component
  | [] => [⟨[], start⟩]
  | byte :: rest =>
    if byte = slash then ⟨[], start⟩ :: pieces (start + 1) rest
    else
      match pieces (start + 1) rest with
      | [] => [⟨[byte], start + 1⟩]
      | piece :: more => ⟨byte :: piece.name, piece.stop⟩ :: more

/-- The single dot, which names the directory it stands in. -/
def dot : List UInt8 := [0x2E]

/-- The double dot, which names the directory above. -/
def dotDot : List UInt8 := [0x2E, 0x2E]

/-- The components that count: empty pieces do not, nor does a single dot unless a relative path
starts with it. -/
def components (path : Path) : List Component :=
  (pieces 0 path.bytes).filter fun piece =>
    piece.name ≠ [] && (piece.name ≠ dot || (piece.stop = 1 && !path.isAbsolute))

/-- The path without its last component; there is none for the root and the empty path. -/
def parent? (path : Path) : Option Path :=
  match path.components.reverse with
  | [] => none
  | [_] => some ⟨if path.isAbsolute then [slash] else []⟩
  | _ :: before :: _ => some ⟨path.bytes.take before.stop⟩

theorem text?_ofText (text : String) : (ofText text).text? = some text :=
  Text.decode?_encode text

theorem ofText_of_text? {path : Path} {text : String} (spelled : path.text? = some text) :
    ofText text = path := by
  have bytes := Text.encode_of_decode? spelled
  cases path
  simp_all [ofText]

end Path

end CompileSession
