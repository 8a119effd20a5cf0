import CompileSession.Binary64

/-!
# TOML values

What a TOML document says, once its notation is gone.  Tables keep their keys in document order.
-/

namespace CompileSession.Toml

/-- A value of a TOML document. -/
inductive Value where
  | string (text : String)
  | integer (value : Int)
  | float (value : Binary64)
  | boolean (value : Bool)
  /-- A date, a time or both, in its normal spelling. -/
  | datetime (text : String)
  | array (items : List Value)
  | table (entries : List (String × Value))

abbrev Entries := List (String × Value)

/-- Reads something off the front of a text and returns the rest. -/
abbrev Reader (α : Type) := List Char → Option (α × List Char)

end CompileSession.Toml
