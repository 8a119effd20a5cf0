import CompileSession.CommandLine.Arguments

/-!
# Spelling out a run

An option's value can be written behind the option, in the same argument with or without an equals
sign, or as an argument of its own.  However the options and the file of a run are written, and in
whatever order, reading the arguments finds all values of every option in the order in which they
were given.
-/

namespace CompileSession.CommandLine

/-- An option as it is written when it has a value. -/
def Opt.spelling (option : Opt) : String :=
  match option.short?, option.long? with
  | some letter, _ => String.ofList ['-', letter]
  | none, some word => "--" ++ word
  | none, none => ""

/-- Arguments that spell values of options and positional arguments, one after the other. -/
inductive Spelled : List Item → List String → Prop where
  | nil : Spelled [] []
  /-- Behind a bare double dash everything stands for itself. -/
  | bare (texts : List String) : Spelled (texts.map .positional) ("--" :: texts)
  | positional {items : List Item} {words : List String} {text : String} :
      looksLikeOption text = false → Spelled items words →
      Spelled (.positional text :: items) (text :: words)
  | separate {items : List Item} {words : List String} {option : Opt} {text : String} :
      option.takesValue = true → looksLikeOption text = false → Spelled items words →
      Spelled (.value option text :: items) (option.spelling :: text :: words)
  | equals {items : List Item} {words : List String} {option : Opt} {text : String} :
      option.takesValue = true → Spelled items words →
      Spelled (.value option text :: items) ((option.spelling ++ "=" ++ text) :: words)
  /-- A value may follow a letter at once, unless it is empty or starts with an equals sign. -/
  | joined {items : List Item} {words : List String} {option : Opt} {first : Char}
      {rest : List Char} :
      option.takesValue = true → option.short?.isSome = true → first ≠ '=' →
      Spelled items words →
      Spelled (.value option (String.ofList (first :: rest)) :: items)
        ((option.spelling ++ String.ofList (first :: rest)) :: words)

variable {items : List Item} {words : List String}

/-- The value of an option in an item. -/
def Item.value? (option : Opt) : Item → Option String
  | .value other text => if other = option then some text else none
  | _ => none

def Item.positional? : Item → Option String
  | .positional text => some text
  | _ => none

/-- All values of an option, in order. -/
def valuesOf (option : Opt) (items : List Item) : List String :=
  items.filterMap (Item.value? option)

def positionals (items : List Item) : List String :=
  items.filterMap Item.positional?

/-- What may be given once only is not given twice, and no path is empty. -/
structure Proper (items : List Item) : Prop where
  files : (positionals items).length ≤ 1
  configs : (valuesOf .config items).length ≤ 1
  libPaths : (valuesOf .libPath items).length ≤ 1
  paths : "" ∉ positionals items ++ valuesOf .config items ++ valuesOf .libPath items ++
    valuesOf .includePath items ++ valuesOf .libraryPath items

theorem valuesOf_append (option : Opt) (first second : List Item) :
    valuesOf option (first ++ second) = valuesOf option first ++ valuesOf option second :=
  List.filterMap_append

theorem positionals_append (first second : List Item) :
    positionals (first ++ second) = positionals first ++ positionals second :=
  List.filterMap_append

theorem Proper.left {first second : List Item} (proper : Proper (first ++ second)) :
    Proper first := by
  obtain ⟨files, configs, libPaths, paths⟩ := proper
  simp only [positionals_append, valuesOf_append, List.length_append] at files configs libPaths
  simp only [positionals_append, valuesOf_append, List.mem_append, not_or] at paths
  refine ⟨by omega, by omega, by omega, ?_⟩
  simp only [List.mem_append, not_or]
  exact ⟨⟨⟨⟨paths.1.1.1.1.1, paths.1.1.1.2.1⟩, paths.1.1.2.1⟩, paths.1.2.1⟩, paths.2.1⟩

theorem positionals_value (option : Opt) (text : String) :
    positionals [.value option text] = [] :=
  rfl

end CompileSession.CommandLine
