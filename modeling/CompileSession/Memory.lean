import CompileSession.Text.Quoted
import CompileSession.Text.Utf8

/-!
# Memory and symbol handles

The memory of the process as bytes at 64-bit addresses, integers of fixed width in it (least
significant byte first), and handles: the non-zero addresses that symbol lookups give out.
-/

namespace CompileSession

abbrev Address := UInt64

/-- The bytes of the process and the place where the next allocation goes. -/
structure Memory where
  byte : Address → UInt8
  next : Address

namespace Memory

/-- Memory that holds zeros only and hands out addresses from `start` on. -/
def zeroed (start : Address) : Memory :=
  ⟨fun _ => 0, start⟩

def read (memory : Memory) (address : Address) (count : Nat) : List UInt8 :=
  (List.range count).map fun offset => memory.byte (address + UInt64.ofNat offset)

def set (memory : Memory) (address : Address) (value : UInt8) : Memory :=
  { memory with byte := fun place => if place = address then value else memory.byte place }

def write (memory : Memory) (address : Address) : List UInt8 → Memory
  | [] => memory
  | value :: rest => (memory.set address value).write (address + 1) rest

/-- Stores bytes where nothing was stored before, followed by `spare` further bytes; the start is
a multiple of sixteen. -/
def allocate (memory : Memory) (bytes : List UInt8) (spare : Nat) : Address × Memory :=
  let size := (bytes.length + spare + 16) / 16 * 16
  (memory.next, { memory.write memory.next bytes with next := memory.next + UInt64.ofNat size })

/-- The bytes from an address up to the first zero, at most `limit` of them. -/
def textBytes (memory : Memory) : (limit : Nat) → Address → List UInt8
  | 0, _ => []
  | limit + 1, address =>
    let value := memory.byte address
    if value = 0 then [] else value :: textBytes memory limit (address + 1)

def text (memory : Memory) (address : Address) : String :=
  Text.decodeLossy (memory.textBytes (Nat.pow 2 62) address)

end Memory

/-- The number that bytes spell, least significant first. -/
def natOfBytes : List UInt8 → Nat
  | [] => 0
  | byte :: rest => byte.toNat + 256 * natOfBytes rest

/-- The lowest `count` bytes of a number, least significant first. -/
def bytesOfNat : (count : Nat) → Nat → List UInt8
  | 0, _ => []
  | count + 1, n => UInt8.ofNat n :: bytesOfNat count (n / 256)

/-- An integer type of fixed width. -/
structure IntegerType where
  size : Nat
  signed : Bool
deriving DecidableEq, Repr

namespace IntegerType

def modulus (type : IntegerType) : Nat :=
  Nat.pow 256 type.size

/-- The value that bytes of the type's size stand for. -/
def decode (type : IntegerType) (bytes : List UInt8) : Int :=
  if type.signed then Int.bmod (natOfBytes bytes) type.modulus else natOfBytes bytes

def encode (type : IntegerType) (value : Int) : List UInt8 :=
  bytesOfNat type.size (value % type.modulus).toNat

end IntegerType

/-- The address of a resolved symbol, which is never zero. -/
structure SymbolHandle where
  address : Address
  address_ne_zero : address ≠ 0
deriving DecidableEq

namespace SymbolHandle

/-- The handle for an address, unless that is zero. -/
def ofAddress? (address : Address) : Option SymbolHandle :=
  if nonzero : address ≠ 0 then some ⟨address, nonzero⟩ else none

def width : Nat := 8

/-- The address as bytes, least significant first. -/
def toBytes (handle : SymbolHandle) : List UInt8 :=
  bytesOfNat width handle.address.toNat

def read (handle : SymbolHandle) (type : IntegerType) (memory : Memory) : Int :=
  type.decode (memory.read handle.address type.size)

/-- Overwrites the integer stored at the symbol. -/
def write (handle : SymbolHandle) (type : IntegerType) (value : Int) (memory : Memory) : Memory :=
  memory.write handle.address (type.encode value)

def pointerText (handle : SymbolHandle) : String :=
  "0x" ++ Text.hexDigits handle.address.toNat

def describe (handle : SymbolHandle) : String :=
  "SymbolHandle(" ++ handle.pointerText ++ ")"

/-- Taking a symbol for a function needs a function type of the size of an address; this is the
complaint about any other size. -/
def functionSizeComplaint? (size : Nat) : Option String :=
  if size = width then none
  else
    some ("assertion `left == right` failed: as_fn requires a pointer-sized type\n  left: " ++
      toString size ++ "\n right: " ++ toString width)

end SymbolHandle

end CompileSession
