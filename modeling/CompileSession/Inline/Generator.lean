import CompileSession.Inline.Declaration
import CompileSession.Session.Basic

/-!
# Generators of inline code

A generator puts declarations together into one text to compile: the top of the file, then all
prototypes, then all definitions.  Once the text is compiled and relocated, the generator is bound:
it finds the exported symbols and fills the slots.  The first binding that succeeds stays.
-/

namespace CompileSession

/-- The symbols that a generator exports, in order, with where they are. -/
abbrev Bindings := List (String × SymbolHandle)

/-- Sets where a symbol is; a symbol that is there already keeps its place. -/
def Bindings.insert (bindings : Bindings) (name : String) (handle : SymbolHandle) : Bindings :=
  if bindings.any (·.1 = name) then
    bindings.map fun entry => if entry.1 = name then (name, handle) else entry
  else bindings ++ [(name, handle)]

/-- Declarations on the way to one text. -/
structure Generator where
  /-- The texts at the top. -/
  top : List String := []
  declarations : List Declaration := []
  /-- What was found by the binding that succeeded. -/
  bound : Option Bindings := none

namespace Generator

/-- Adds the definition of a declaration to the top. -/
def addTop (generator : Generator) (declaration : Declaration) : Generator :=
  { generator with top := generator.top ++ [declaration.code] }

def add (generator : Generator) (declaration : Declaration) : Generator :=
  { generator with declarations := generator.declarations ++ [declaration] }

/-- Adds the headers and the short names of common types to the top. -/
def loadBasicTypes (generator : Generator) : Generator :=
  (generator.addTop Declaration.basicIncludes).addTop Declaration.basicTypes

def code (generator : Generator) : String :=
  Text.joinLines [
    "/* top */",
    Text.joinLines generator.top,
    "",
    "/* forward */",
    Text.joinLines (generator.declarations.map Declaration.forward),
    "",
    "/* code */",
    Text.joinLines (generator.declarations.map Declaration.code),
    ""]

/-- Lines with their numbers in front of them, in a column of the given width. -/
def numberLines (width first : Nat) : List String → List String
  | [] => []
  | line :: rest =>
      (Text.alignRight width (toString first) ++ ": " ++ line) ::
        numberLines width (first + 1) rest

/-- The text to compile with line numbers, which all have the width of the last one. -/
def numberedCode (generator : Generator) : String :=
  let lines := Text.splitLines generator.code
  Text.joinLines (numberLines (toString lines.length).length 1 lines)

def symbols (generator : Generator) : List String :=
  generator.declarations.flatMap Declaration.symbols

def hostFunctions (generator : Generator) : List (String × Address) :=
  generator.declarations.flatMap Declaration.hostFunctions

variable {η σ : Type}

def resolve (engine : Engine η σ) :
    List String → Bindings → Site η σ → Reply (Except SessionError Bindings) × Site η σ
  | [], bindings, site => (.returned (.ok bindings), site)
  | name :: rest, bindings, site =>
    match site.getSymbol engine name with
    | (.returned (.ok handle), site) => resolve engine rest (bindings.insert name handle) site
    | (.returned (.error error), site) => (.returned (.error error), site)
    | (.panicked panic, site) => (.panicked panic, site)

/-- The integers that are as wide as an address. -/
def slotType : IntegerType := { size := SymbolHandle.width, signed := false }

def fill (engine : Engine η σ) :
    List (String × Address) → Site η σ → Reply (Except SessionError Unit) × Site η σ
  | [], site => (.returned (.ok ()), site)
  | (name, value) :: rest, site =>
    match site.getSymbol engine name with
    | (.returned (.ok slot), site) =>
      let memory := slot.write slotType value.toNat site.host.memory
      fill engine rest { site with host := { site.host with memory } }
    | (.returned (.error error), site) => (.returned (.error error), site)
    | (.panicked panic, site) => (.panicked panic, site)

/-- Binds a generator to a session, unless it is bound already. -/
def bind (engine : Engine η σ) (generator : Generator) (site : Site η σ) :
    Reply (Except SessionError Bindings) × Generator × Site η σ :=
  match generator.bound with
  | some bindings => (.returned (.ok bindings), generator, site)
  | none =>
    match resolve engine generator.symbols [] site with
    | (.panicked panic, site) => (.panicked panic, generator, site)
    | (.returned (.error error), site) => (.returned (.error error), generator, site)
    | (.returned (.ok bindings), site) =>
      match fill engine generator.hostFunctions site with
      | (.panicked panic, site) => (.panicked panic, generator, site)
      | (.returned (.error error), site) => (.returned (.error error), generator, site)
      | (.returned (.ok ()), site) =>
        let site := site.log .debug ("bound " ++ toString bindings.length ++
          " inline symbols in session " ++ toString site.session.id)
        (.returned (.ok bindings), { generator with bound := some bindings }, site)

end Generator

end CompileSession
