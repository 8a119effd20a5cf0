import CompileSession.Inline.Generator
import CompileSession.Proofs.Text.Lines

/-!
# The text of a generator

Whatever is added to a generator, its text has three parts under headings of their own: the texts
at the top, all prototypes, all definitions.  Every text keeps its lines, so it is known at which
line of the whole it starts.  In the numbered text the same lines stand behind their numbers.
-/

namespace CompileSession

open Text (splitLines joinLines joinedLines)

/-- Something that adds to a generator. -/
inductive Addition where
  | top (declaration : Declaration)
  | part (declaration : Declaration)
  | basicTypes

namespace Addition

/-- The texts that come to the top. -/
def tops : Addition → List String
  | .top declaration => [declaration.code]
  | .part _ => []
  | .basicTypes => [Declaration.basicIncludes.code, Declaration.basicTypes.code]

/-- The declarations that come behind the others. -/
def declarations : Addition → List Declaration
  | .top _ => []
  | .part declaration => [declaration]
  | .basicTypes => []

end Addition

namespace Generator

def extend (generator : Generator) : Addition → Generator
  | .top declaration => generator.addTop declaration
  | .part declaration => generator.add declaration
  | .basicTypes => generator.loadBasicTypes

def extendAll (generator : Generator) (additions : List Addition) : Generator :=
  additions.foldl extend generator

section Layout

theorem extend_eq (generator : Generator) (addition : Addition) :
    generator.extend addition = { generator with
      top := generator.top ++ addition.tops
      declarations := generator.declarations ++ addition.declarations } := by
  cases addition <;> simp [extend, addTop, add, loadBasicTypes, Addition.tops,
    Addition.declarations]

theorem extendAll_eq (generator : Generator) (additions : List Addition) :
    generator.extendAll additions = { generator with
      top := generator.top ++ additions.flatMap Addition.tops
      declarations := generator.declarations ++ additions.flatMap Addition.declarations } := by
  induction additions generalizing generator with
  | nil => simp [extendAll]
  | cons addition rest ih =>
      have later := ih (generator.extend addition)
      rw [extend_eq] at later
      simpa only [extendAll, List.foldl_cons, extend_eq, List.flatMap_cons, List.append_assoc]
        using later

theorem splitLines_code (generator : Generator) :
    splitLines generator.code =
      ["/* top */"] ++ joinedLines generator.top ++
        ["", "/* forward */"] ++ joinedLines (generator.declarations.map Declaration.forward) ++
        ["", "/* code */"] ++ joinedLines (generator.declarations.map Declaration.code) ++
        [""] := by
  have plain (line : String) (plain : '\n' ∉ line.toList) := Text.splitLines_of_not_mem plain
  rw [code, Text.splitLines_joinLines, joinedLines, if_neg (List.cons_ne_nil _ _)]
  simp only [List.flatMap_cons, List.flatMap_nil, Text.splitLines_joinLines,
    plain "/* top */" (by decide), plain "" (by decide), plain "/* forward */" (by decide),
    plain "/* code */" (by decide), List.append_assoc, List.cons_append, List.nil_append,
    List.append_nil]

/-- A text stands among some lines, from one of them on; lines are counted from one. -/
def StandsAt (lines : List String) (first : Nat) (text : String) : Prop :=
  ∃ before after, lines = before ++ splitLines text ++ after ∧ first = before.length + 1

theorem StandsAt.behind {lines : List String} {first place : Nat} {text : String}
    (stands : StandsAt lines first text) (front : List String)
    (counted : place = front.length + first) : StandsAt (front ++ lines) place text := by
  obtain ⟨before, after, rfl, rfl⟩ := stands
  refine ⟨front ++ before, after, by simp only [List.append_assoc], ?_⟩
  rw [counted, List.length_append, Nat.add_assoc]

theorem StandsAt.followed {lines : List String} {first : Nat} {text : String}
    (stands : StandsAt lines first text) (back : List String) :
    StandsAt (lines ++ back) first text := by
  obtain ⟨before, after, rfl, counted⟩ := stands
  exact ⟨before, after ++ back, by simp only [List.append_assoc], counted⟩

/-- How many lines some texts have. -/
def lineCount (texts : List String) : Nat :=
  (texts.flatMap splitLines).length

theorem standsAt_joinedLines {texts before after : List String} {text : String}
    (split : texts = before ++ text :: after) :
    StandsAt (joinedLines texts) (lineCount before + 1) text := by
  refine ⟨before.flatMap splitLines, after.flatMap splitLines, ?_, rfl⟩
  rw [split, joinedLines, if_neg (by simp), List.flatMap_append, List.flatMap_cons,
    List.append_assoc]

theorem lineCount_le {texts before after : List String} {text : String}
    (split : texts = before ++ text :: after) :
    lineCount before + (splitLines text).length ≤ (joinedLines texts).length := by
  rw [split, joinedLines, if_neg (by simp), List.flatMap_append, List.flatMap_cons]
  simp only [lineCount, List.length_append]
  omega

variable (generator : Generator)

theorem standsAt_top {before after : List String} {text : String}
    (split : generator.top = before ++ text :: after) :
    StandsAt (splitLines generator.code) (2 + lineCount before) text := by
  have stands := (standsAt_joinedLines split).behind ["/* top */"]
    (show 2 + lineCount before = 1 + (lineCount before + 1) by omega)
  rw [splitLines_code]
  exact ((((stands.followed _).followed _).followed _).followed _).followed _

theorem standsAt_forward {before after : List Declaration} {declaration : Declaration}
    (split : generator.declarations = before ++ declaration :: after) :
    StandsAt (splitLines generator.code)
      ((joinedLines generator.top).length + 4 + lineCount (before.map Declaration.forward))
      declaration.forward := by
  have texts := congrArg (List.map Declaration.forward) split
  rw [List.map_append, List.map_cons] at texts
  rw [splitLines_code]
  refine (((StandsAt.behind (standsAt_joinedLines texts) _ ?_).followed _).followed _).followed _
  simp only [List.length_append, List.length_cons, List.length_nil]
  omega

theorem standsAt_definition {before after : List Declaration} {declaration : Declaration}
    (split : generator.declarations = before ++ declaration :: after) :
    StandsAt (splitLines generator.code)
      ((joinedLines generator.top).length +
        (joinedLines (generator.declarations.map Declaration.forward)).length + 6 +
        lineCount (before.map Declaration.code))
      declaration.code := by
  have texts := congrArg (List.map Declaration.code) split
  rw [List.map_append, List.map_cons] at texts
  rw [splitLines_code]
  refine (StandsAt.behind (standsAt_joinedLines texts) _ ?_).followed _
  simp only [List.length_append, List.length_cons, List.length_nil]
  omega

/-- The text of a generator by its lines, whatever was added to it and in whichever order: a heading
and the lines of the texts at the top, a heading and the lines of all prototypes, a heading and the
lines of all definitions, with one empty line behind each part.  Only the order among the texts at
the top and the order among the declarations count.  Every text stands there with its own lines,
right behind those of the one before, and all prototypes end before the definitions begin. -/
theorem extendAll_lays_out (additions : List Addition) :
    let generator := ({} : Generator).extendAll additions
    let tops := additions.flatMap Addition.tops
    let declarations := additions.flatMap Addition.declarations
    let top := joinedLines tops
    let forward := joinedLines (declarations.map Declaration.forward)
    let code := joinedLines (declarations.map Declaration.code)
    splitLines generator.code =
        ["/* top */"] ++ top ++ ["", "/* forward */"] ++ forward ++ ["", "/* code */"] ++ code ++
          [""] ∧
      (∀ others : List Addition, others.flatMap Addition.tops = tops →
        others.flatMap Addition.declarations = declarations →
        (({} : Generator).extendAll others).code = generator.code) ∧
      (∀ before text after, tops = before ++ text :: after →
        StandsAt (splitLines generator.code) (2 + lineCount before) text) ∧
      ∀ before declaration after, declarations = before ++ declaration :: after →
        StandsAt (splitLines generator.code)
            (top.length + 4 + lineCount (before.map Declaration.forward)) declaration.forward ∧
          StandsAt (splitLines generator.code)
            (top.length + forward.length + 6 + lineCount (before.map Declaration.code))
            declaration.code ∧
          top.length + 4 + lineCount (before.map Declaration.forward) +
              (splitLines declaration.forward).length ≤
            top.length + forward.length + 4 := by
  intro generator tops declarations top forward code
  have made : generator = { top := tops, declarations := declarations } :=
    extendAll_eq {} additions
  rw [made]
  refine ⟨splitLines_code _, fun others sameTops sameDeclarations => ?_, fun _ _ _ split =>
    standsAt_top _ split, fun before declaration after split => ⟨standsAt_forward _ split,
      standsAt_definition _ split, ?_⟩⟩
  · rw [extendAll_eq, sameTops, sameDeclarations]
    rfl
  · have texts := congrArg (List.map Declaration.forward) split
    rw [List.map_append, List.map_cons] at texts
    have within := lineCount_le texts
    change lineCount _ + _ ≤ forward.length at within
    omega

end Layout

section Numbers

/-- A line's number, in a column, and what sets it off from the line. -/
def numberPrefix (width number : Nat) : List Char :=
  List.replicate (width - (Nat.toDigits 10 number).length) ' ' ++ Nat.toDigits 10 number ++
    [':', ' ']

/-- A line behind its number. -/
def numberedLine (width number : Nat) (line : String) : String :=
  String.ofList (numberPrefix width number ++ line.toList)

/-- The number in front of a line, up to the colon. -/
def lineNumber (line : String) : Nat :=
  Nat.ofDigitChars 10 ((line.toList.takeWhile (· ≠ ':')).dropWhile (· = ' ')) 0

theorem numberLines_eq (width first : Nat) (lines : List String) :
    numberLines width first lines =
      lines.mapIdx fun i line => numberedLine width (first + i) line := by
  induction lines generalizing first with
  | nil => rfl
  | cons line lines ih =>
      have prefixed : Text.alignRight width (toString first) ++ ": " ++ line =
          numberedLine width first line := by
        apply String.toList_inj.mp
        simp [Text.alignRight, Text.fillLeft, numberedLine, numberPrefix]
      rw [numberLines, prefixed, ih, List.mapIdx_cons]
      simp only [Nat.add_zero, Nat.add_assoc, Nat.add_comm 1]

theorem not_mem_numberPrefix (width number : Nat) : '\n' ∉ numberPrefix width number := by
  intro member
  simp only [numberPrefix, List.mem_append, List.mem_replicate, List.mem_cons, List.not_mem_nil,
    or_false] at member
  rcases member with (⟨-, space⟩ | digit) | colon | space
  · cases space
  · cases Nat.isDigit_of_mem_toDigits (by decide) (by decide) digit
  · cases colon
  · cases space

theorem length_numberPrefix {width number : Nat}
    (fits : (Nat.toDigits 10 number).length ≤ width) :
    (numberPrefix width number).length = width + 2 := by
  simp only [numberPrefix, List.length_append, List.length_replicate, List.length_cons,
    List.length_nil]
  omega

theorem drop_numberedLine {width number : Nat} (fits : (Nat.toDigits 10 number).length ≤ width)
    (line : String) :
    String.ofList ((numberedLine width number line).toList.drop (width + 2)) = line := by
  rw [numberedLine, String.toList_ofList, ← length_numberPrefix fits, List.drop_left,
    String.ofList_toList]

theorem lineNumber_numberedLine (width number : Nat) (line : String) :
    lineNumber (numberedLine width number line) = number := by
  have digit (c : Char) (member : c ∈ Nat.toDigits 10 number) : c.isDigit = true :=
    Nat.isDigit_of_mem_toDigits (by decide) (by decide) member
  have column : ∀ c ∈ List.replicate (width - (Nat.toDigits 10 number).length) ' ' ++
      Nat.toDigits 10 number, decide (c ≠ ':') = true := by
    intro c member
    rw [decide_eq_true_eq]
    rintro rfl
    rcases List.mem_append.mp member with space | digits
    · cases (List.mem_replicate.mp space).2
    · cases digit _ digits
  have spaces : ∀ c ∈ List.replicate (width - (Nat.toDigits 10 number).length) ' ',
      decide (c = ' ') = true :=
    fun c member => decide_eq_true (List.mem_replicate.mp member).2
  have digits : (Nat.toDigits 10 number).dropWhile (fun c => decide (c = ' ')) =
      Nat.toDigits 10 number := by
    cases listed : Nat.toDigits 10 number with
    | nil => rfl
    | cons c rest =>
        apply List.dropWhile_cons_of_neg
        rw [decide_eq_true_eq]
        rintro rfl
        cases digit ' ' (listed ▸ List.mem_cons_self)
  rw [lineNumber, numberedLine, numberPrefix, String.toList_ofList, List.append_assoc,
    List.takeWhile_append_of_pos column, List.cons_append, List.takeWhile_cons_of_neg (by simp),
    List.append_nil, List.dropWhile_append_of_pos spaces, digits]
  exact Nat.ofDigitChars_ten_toDigits

/-- Without their numbers the lines are what they were. -/
theorem map_drop_numberedLine {width : Nat} {lines : List String}
    (fits : ∀ i < lines.length, (Nat.toDigits 10 (1 + i)).length ≤ width) :
    (lines.mapIdx fun i line => numberedLine width (1 + i) line).map
      (fun line => String.ofList (line.toList.drop (width + 2))) = lines := by
  apply List.ext_getElem (by simp)
  intro i _ within
  simp only [List.getElem_map, List.getElem_mapIdx]
  exact drop_numberedLine (fits i within) _

theorem map_lineNumber_numberedLine (width : Nat) (lines : List String) :
    (lines.mapIdx fun i line => numberedLine width (1 + i) line).map lineNumber =
      List.range' 1 lines.length := by
  apply List.ext_getElem (by simp)
  intro i _ _
  simp only [List.getElem_map, List.getElem_mapIdx, lineNumber_numberedLine, List.getElem_range',
    Nat.one_mul]

theorem splitLines_numberedCode (generator : Generator) :
    splitLines generator.numberedCode = (splitLines generator.code).mapIdx fun i line =>
      numberedLine (Nat.toDigits 10 (splitLines generator.code).length).length (1 + i) line := by
  have width (n : Nat) : (toString n).length = (Nat.toDigits 10 n).length := by
    rw [Nat.toString_eq_ofList_toDigits, String.length_ofList]
  rw [numberedCode, numberLines_eq, width]
  apply Text.splitLines_joinLines_of_plain
  · rw [ne_eq, List.mapIdx_eq_nil_iff]
    exact Text.splitLines_ne_nil generator.code
  · intro line member
    obtain ⟨i, within, rfl⟩ := List.mem_mapIdx.mp member
    rw [numberedLine, String.toList_ofList, List.mem_append, not_or]
    exact ⟨not_mem_numberPrefix _ _, Text.not_mem_of_mem_splitLines (List.getElem_mem within)⟩

/-- The numbered text has the lines of the text, each behind its number.  All numbers stand at the
right edge of a column that is as wide as the number of lines is long, so without that many
characters and the two behind them every line is again what it was. -/
theorem numberedCode_numbers_lines (generator : Generator) :
    let lines := splitLines generator.code
    let numbered := splitLines generator.numberedCode
    let width := (Nat.toDigits 10 lines.length).length
    (10 ^ (width - 1) ≤ lines.length ∧ lines.length < 10 ^ width) ∧
      numbered.length = lines.length ∧
      (∀ i line, lines[i]? = some line →
        numbered[i]? = some (numberedLine width (i + 1) line) ∧
          (numberPrefix width (i + 1)).length = width + 2) ∧
      joinLines (numbered.map fun line => String.ofList (line.toList.drop (width + 2))) =
        generator.code ∧
      numbered.map lineNumber = List.range' 1 lines.length := by
  intro lines numbered width
  have numbered_eq : numbered = lines.mapIdx fun i line => numberedLine width (1 + i) line :=
    generator.splitLines_numberedCode
  have positive : 0 < lines.length :=
    List.length_pos_iff.mpr (Text.splitLines_ne_nil generator.code)
  have fits (i : Nat) (within : i < lines.length) : (Nat.toDigits 10 (1 + i)).length ≤ width :=
    Text.length_toDigits_le (by decide) (by omega)
  refine ⟨Text.length_toDigits_spec positive, ?_, ?_, ?_, ?_⟩
  · rw [numbered_eq, List.length_mapIdx]
  · intro i line listed
    obtain ⟨within, -⟩ := List.getElem?_eq_some_iff.mp listed
    rw [numbered_eq, List.getElem?_mapIdx, listed, Nat.add_comm i]
    exact ⟨rfl, length_numberPrefix (fits i within)⟩
  · rw [numbered_eq, map_drop_numberedLine fits, Text.joinLines_splitLines]
  · rw [numbered_eq, map_lineNumber_numberedLine]

end Numbers

end Generator

end CompileSession
