import CompileSession.Toml.Printer

/-!
# Strings are read as they were written

Every style of a string is undone by the reader of that style, whatever follows the string.  Escapes
are spelled in the same way in the two basic styles, so a reader is followed letter by letter once.
-/

namespace CompileSession.Toml

/-- One letter of an escape further. -/
def BasicState.afterLetter (letter : Char) : BasicState → Option (List Char × BasicState)
  | .open => none
  | .escaped => BasicState.afterEscape letter
  | .code left value => BasicState.afterDigit left value letter

/-- Some letters complete an escape, which stands for a character. -/
inductive Spells : BasicState → List Char → Char → Prop where
  | last {state : BasicState} {letter c : Char} :
      state.afterLetter letter = some ([c], .open) → Spells state [letter] c
  | more {state next : BasicState} {letter c : Char} {letters : List Char} :
      state.afterLetter letter = some ([], next) → Spells next letters c →
      Spells state (letter :: letters) c

theorem hexValue?_upperHexDigit {n : Nat} (small : n < 16) :
    hexValue? (upperHexDigit n) = some n := by
  have all : ∀ n, n < 16 → hexValue? (upperHexDigit n) = some n := by decide
  exact all n small

theorem scalar?_toNat (c : Char) : scalar? c.toNat = some c := by
  have valid : c.toNat.isValidChar := c.valid
  rw [scalar?, dif_pos valid]
  exact congrArg some (Char.toNat_inj.mp rfl)

theorem afterDigit_more {left code n : Nat} (small : n < 16) :
    BasicState.afterDigit (left + 1) code (upperHexDigit n) =
      some ([], .code left (code * 16 + n)) := by
  rw [BasicState.afterDigit, hexValue?_upperHexDigit small]

theorem afterDigit_last {code n : Nat} (small : n < 16) {c : Char}
    (value : code * 16 + n = c.toNat) :
    BasicState.afterDigit 0 code (upperHexDigit n) = some ([c], .open) := by
  rw [BasicState.afterDigit, hexValue?_upperHexDigit small]
  simp only [value, scalar?_toNat]
  rfl

/-- Four digits are enough for every character that is written by its code point. -/
theorem spells_numericEscape {c : Char} (small : c.toNat < 65536) :
    ∃ letters, numericEscape c = '\\' :: letters ∧ Spells .escaped letters c := by
  refine ⟨_, rfl, .more rfl ?_⟩
  refine .more (afterDigit_more (by omega)) (.more (afterDigit_more (by omega))
    (.more (afterDigit_more (by omega)) (.last (afterDigit_last (by omega) ?_))))
  omega

theorem spells_quote : Spells .escaped ['"'] '"' :=
  .last rfl

theorem isControl_small {c : Char} (control : isControl c = true) : c.toNat < 65536 := by
  simp only [isControl, Bool.or_eq_true, Bool.and_eq_true, decide_eq_true_eq] at control
  omega

theorem isPlain_of_not_control {c : Char} (control : isControl c = false) (other : c ≠ '\n') :
    isPlain c = true := by
  simp only [isControl, Bool.or_eq_false_iff, Bool.and_eq_false_iff, decide_eq_false_iff_not,
    ne_eq, Decidable.not_not] at control
  simp only [isPlain, Bool.or_eq_true, Bool.and_eq_true, decide_eq_true_eq]
  obtain ⟨(large | tab) | line, last⟩ := control
  · exact .inr ⟨by omega, last⟩
  · exact .inl tab
  · exact absurd line other

/-- A character of a basic style stands for itself, or an escape stands for it. -/
theorem writeBasicChar_cases (block : Bool) (c : Char) :
    (writeBasicChar block c = [c] ∧ c ≠ '\\' ∧ c ≠ '\r' ∧
        (isPlain c = true ∨ block = true ∧ c = '\n')) ∨
      ∃ letters, writeBasicChar block c = '\\' :: letters ∧ Spells .escaped letters c := by
  unfold writeBasicChar
  split
  case isTrue backspace => exact .inr ⟨['b'], rfl, backspace ▸ .last rfl⟩
  split
  case isTrue tab => exact .inr ⟨['t'], rfl, tab ▸ .last rfl⟩
  split
  case isTrue line =>
    cases block with
    | true =>
        subst line
        exact .inl ⟨rfl, by decide, by decide, .inr ⟨rfl, rfl⟩⟩
    | false => exact .inr ⟨['n'], rfl, line ▸ .last rfl⟩
  split
  case isTrue feed => exact .inr ⟨['f'], rfl, feed ▸ .last rfl⟩
  split
  case isTrue carriage => exact .inr ⟨['r'], rfl, carriage ▸ .last rfl⟩
  split
  case isTrue backslash =>
    subst backslash
    exact .inr ⟨['\\'], rfl, .last rfl⟩
  split
  case isTrue control => exact .inr (spells_numericEscape (isControl_small control))
  case isFalse line _ carriage backslash control =>
    exact .inl ⟨rfl, backslash, carriage,
      .inl (isPlain_of_not_control (Bool.eq_false_iff.mpr control) line)⟩

/-- A reader's answer with some text in front. -/
def prepend (text : List Char) (answer : List Char × List Char) : List Char × List Char :=
  (text ++ answer.1, answer.2)

theorem prepend_comp (first second : List Char) :
    prepend first ∘ prepend second = prepend (first ++ second) := by
  funext answer
  simp [prepend]

theorem readBasic_letter {state next : BasicState} {letter : Char} {written : List Char}
    (step : state.afterLetter letter = some (written, next)) (rest : List Char) :
    readBasic state (letter :: rest) = (readBasic next rest).map (prepend written) := by
  cases state with
  | «open» => cases step
  | escaped | code =>
      simp only [BasicState.afterLetter] at step
      simp only [readBasic, step]
      rfl

theorem readBasic_of_spells {state : BasicState} {letters : List Char} {c : Char}
    (spells : Spells state letters c) (rest : List Char) :
    readBasic state (letters ++ rest) = (readBasic .open rest).map (prepend [c]) := by
  induction spells with
  | last step => exact readBasic_letter step rest
  | more step _ ih =>
      rw [List.cons_append, readBasic_letter step, ih, Option.map_map]
      rfl

/-- A quote or any other character of a string on one line. -/
theorem readBasic_char {c : Char} (other : c ≠ '"') (rest : List Char) :
    readBasic .open (writeBasicChar false c ++ rest) =
      (readBasic .open rest).map (prepend [c]) := by
  rcases writeBasicChar_cases false c with ⟨written, backslash, -, plain | ⟨⟨⟩, -⟩⟩ |
    ⟨letters, written, spells⟩
  · rw [written, List.singleton_append, readBasic, if_neg other, if_neg backslash, if_pos plain]
    rfl
  · rw [written, List.cons_append, readBasic]
    exact readBasic_of_spells spells rest

theorem readBasic_writeBasic (text : List Char) (run : Nat) (rest : List Char) :
    readBasic .open (writeBasic false run text ++ '"' :: rest) = some (text, rest) := by
  induction text generalizing run with
  | nil => rfl
  | cons c text ih =>
      rw [writeBasic]
      split
      case isTrue quote =>
        subst quote
        have escaped := readBasic_of_spells spells_quote
          (writeBasic false 0 text ++ '"' :: rest)
        rw [ih] at escaped
        exact escaped
      case isFalse other =>
        rw [List.append_assoc, readBasic_char other, ih]
        rfl

theorem readLiteral_append {text : List Char}
    (plain : ∀ c ∈ text, c ≠ '\'' ∧ isPlain c = true) (rest : List Char) :
    readLiteral (text ++ '\'' :: rest) = some (text, rest) := by
  induction text with
  | nil => rfl
  | cons c text ih =>
      obtain ⟨⟨other, fits⟩, others⟩ := List.forall_mem_cons.mp plain
      rw [List.cons_append, readLiteral, if_neg other, if_pos fits, ih others]
      rfl

/-- Fewer than three quotes close nothing, and fewer than five do not before a further one. -/
theorem closingQuotes?_eq_none {quote c : Char} {count : Nat}
    (few : count < 3 ∨ count < 5 ∧ c = quote) : closingQuotes? quote (some c) count = none := by
  rw [closingQuotes?, if_neg]
  rintro ⟨enough, other | five⟩
  · rcases few with few | ⟨-, same⟩
    · omega
    · exact other (congrArg some same)
  · omega

theorem closingQuotes?_eq_some {quote : Char} {next : Option Char} (other : next ≠ some quote)
    (count : Nat) : closingQuotes? quote next (count + 3) = some count := by
  rw [closingQuotes?, if_pos ⟨by omega, .inl other⟩]
  rfl

theorem readBasicBlock_letter {state next : BlockState} {c : Char} {written : List Char}
    (going : closingQuotes? '"' (some c) state.seenQuotes = none)
    (step : state.after c = some (written, next)) (rest : List Char) :
    readBasicBlock state (c :: rest) = (readBasicBlock next rest).map (prepend written) := by
  rw [readBasicBlock, List.head?_cons, going]
  simp only [step]
  rfl

/-- The letters of an escape are the same in a string over several lines. -/
theorem after_inside {state next : BasicState} {letter : Char} {written : List Char}
    (step : state.afterLetter letter = some (written, next)) :
    (BlockState.inside state).after letter = some (written, .inside next) := by
  cases state with
  | «open» => cases step
  | escaped =>
      have letters : letter ≠ ' ' ∧ letter ≠ '\t' ∧ letter ≠ '\n' ∧ letter ≠ '\r' := by
        refine ⟨?_, ?_, ?_, ?_⟩ <;> rintro rfl <;> cases step
      simp only [BasicState.afterLetter] at step
      simp only [BlockState.after, letters, or_self, if_false, step]
      rfl
  | code left value =>
      simp only [BasicState.afterLetter] at step
      simp only [BlockState.after, step]
      rfl

theorem readBasicBlock_of_spells {state : BasicState} {letters : List Char} {c : Char}
    (spells : Spells state letters c) (rest : List Char) :
    readBasicBlock (.inside state) (letters ++ rest) =
      (readBasicBlock (.inside .open) rest).map (prepend [c]) := by
  have going (state : BasicState) (letter : Char) :
      closingQuotes? '"' (some letter) (BlockState.inside state).seenQuotes = none :=
    closingQuotes?_eq_none (.inl (Nat.zero_lt_succ 2))
  induction spells with
  | last step => exact readBasicBlock_letter (going ..) (after_inside step) rest
  | more step _ ih =>
      rw [List.cons_append, readBasicBlock_letter (going ..) (after_inside step), ih,
        Option.map_map]
      rfl

/-- The state behind some quotes that stand for themselves. -/
def BlockState.behind : Nat → BlockState
  | 0 => .inside .open
  | count + 1 => .quotes (count + 1)

namespace BlockState

theorem seenQuotes_behind (count : Nat) : (behind count).seenQuotes = count := by
  cases count <;> rfl

theorem after_behind_quote (count : Nat) :
    (behind count).after '"' = some ([], behind (count + 1)) := by
  cases count <;> rfl

theorem after_behind {count : Nat} {c : Char} {written : List Char} {next : BlockState}
    (other : c ≠ '"') (step : afterOpen c = some (written, next)) :
    (behind count).after c = some (List.replicate count '"' ++ written, next) := by
  cases count with
  | zero => exact step
  | succ count =>
      simp only [behind, after, if_neg other, step]
      rfl

end BlockState

section

variable {run : Nat} (few : run ≤ 2)

include few

/-- A character that is no quote, and the quotes in front of it. -/
theorem readBasicBlock_behind {c : Char} {written : List Char} {next : BlockState}
    (other : c ≠ '"') (step : BlockState.afterOpen c = some (written, next)) (rest : List Char) :
    readBasicBlock (.behind run) (c :: rest) =
      (readBasicBlock next rest).map (prepend (List.replicate run '"' ++ written)) := by
  apply readBasicBlock_letter _ (BlockState.after_behind other step)
  rw [BlockState.seenQuotes_behind]
  exact closingQuotes?_eq_none (.inl (by omega))

theorem readBasicBlock_escape {letters : List Char} {c : Char} (spells : Spells .escaped letters c)
    (rest : List Char) :
    readBasicBlock (.behind run) ('\\' :: letters ++ rest) =
      (readBasicBlock (.inside .open) rest).map (prepend (List.replicate run '"' ++ [c])) := by
  have step : BlockState.afterOpen '\\' = some ([], .inside .escaped) := rfl
  rw [List.cons_append, readBasicBlock_behind few (by decide) step,
    readBasicBlock_of_spells spells, Option.map_map, prepend_comp, List.append_nil]

theorem readBasicBlock_char {c : Char} (other : c ≠ '"') (rest : List Char) :
    readBasicBlock (.behind run) (writeBasicChar true c ++ rest) =
      (readBasicBlock (.inside .open) rest).map (prepend (List.replicate run '"' ++ [c])) := by
  rcases writeBasicChar_cases true c with ⟨written, backslash, carriage, fits⟩ |
    ⟨letters, written, spells⟩
  · have step : BlockState.afterOpen c = some ([c], .inside .open) := by
      rw [BlockState.afterOpen, if_neg other, if_neg backslash, if_neg carriage, if_pos]
      rcases fits with plain | ⟨-, line⟩
      · simp [plain]
      · simp [line]
    rw [written]
    exact readBasicBlock_behind few other step rest
  · rw [written]
    exact readBasicBlock_escape few spells rest

end

theorem readBasicBlock_quote {count : Nat} (few : count < 5) (rest : List Char) :
    readBasicBlock (.behind count) ('"' :: rest) = readBasicBlock (.behind (count + 1)) rest := by
  rw [readBasicBlock_letter _ (BlockState.after_behind_quote count)]
  · exact Option.map_id'
  · rw [BlockState.seenQuotes_behind]
    exact closingQuotes?_eq_none (.inr ⟨few, rfl⟩)

/-- Up to two quotes may stand in front of the three that close a string. -/
theorem readBasicBlock_close {run : Nat} (few : run ≤ 2) {rest : List Char}
    (follows : rest.head? ≠ some '"') :
    readBasicBlock (.behind run) ('"' :: '"' :: '"' :: rest) =
      some (List.replicate run '"', rest) := by
  rw [readBasicBlock_quote (by omega), readBasicBlock_quote (by omega),
    readBasicBlock_quote (by omega), readBasicBlock.eq_def, BlockState.seenQuotes_behind,
    closingQuotes?_eq_some follows]

theorem readBasicBlock_writeBasic (text : List Char) {run : Nat} (few : run ≤ 2)
    {rest : List Char} (follows : rest.head? ≠ some '"') :
    readBasicBlock (.behind run) (writeBasic true run text ++ '"' :: '"' :: '"' :: rest) =
      some (List.replicate run '"' ++ text, rest) := by
  induction text generalizing run with
  | nil =>
      rw [List.append_nil]
      exact readBasicBlock_close few follows
  | cons c text ih =>
      have others := ih (Nat.zero_le 2)
      rw [writeBasic]
      split
      case isTrue quote =>
        subst quote
        simp only [Bool.true_and, decide_eq_true_eq]
        split
        case isTrue fewer =>
          rw [List.cons_append, readBasicBlock_quote (by omega), ih (by omega),
            List.replicate_succ', List.append_assoc]
          rfl
        case isFalse =>
          have escaped := readBasicBlock_escape few spells_quote
            (writeBasic true 0 text ++ '"' :: '"' :: '"' :: rest)
          rw [show BlockState.inside .open = .behind 0 from rfl, others] at escaped
          simpa [prepend] using escaped
      case isFalse other =>
        rw [List.append_assoc, readBasicBlock_char few other,
          show BlockState.inside .open = .behind 0 from rfl, others]
        simp [prepend]

theorem le_longestRun (c : Char) (run : Nat) (text : List Char) : run ≤ longestRun c run text := by
  induction text generalizing run with
  | nil => exact Nat.le_refl run
  | cons d rest ih =>
      rw [longestRun]
      split
      · exact Nat.le_of_succ_le (ih (run + 1))
      · exact Nat.le_max_left ..

theorem not_mem_of_longestRun {c : Char} {text : List Char} {run : Nat}
    (none : longestRun c run text = 0) : c ∉ text := by
  induction text generalizing run with
  | nil => exact List.not_mem_nil
  | cons d rest ih =>
      rw [longestRun] at none
      split at none
      · have more := le_longestRun c (run + 1) rest
        omega
      · rename_i other
        have later : longestRun c 0 rest = 0 := by omega
        rw [List.mem_cons, not_or]
        exact ⟨Ne.symm other, ih later⟩

theorem readLiteralBlock_quote {seen : Nat} (few : seen < 5) (rest : List Char) :
    readLiteralBlock seen ('\'' :: rest) = readLiteralBlock (seen + 1) rest := by
  rw [readLiteralBlock.eq_def, List.head?_cons, closingQuotes?_eq_none (.inr ⟨few, rfl⟩)]
  exact if_pos rfl

theorem readLiteralBlock_append {text : List Char} {seen : Nat}
    (few : longestRun '\'' seen text ≤ 2) (plain : ∀ c ∈ text, isControl c = false)
    {rest : List Char} (follows : rest.head? ≠ some '\'') :
    readLiteralBlock seen (text ++ '\'' :: '\'' :: '\'' :: rest) =
      some (List.replicate seen '\'' ++ text, rest) := by
  induction text generalizing seen with
  | nil =>
      change seen ≤ 2 at few
      rw [List.nil_append, readLiteralBlock_quote (by omega), readLiteralBlock_quote (by omega),
        readLiteralBlock_quote (by omega), readLiteralBlock.eq_def, closingQuotes?_eq_some follows,
        List.append_nil]
  | cons c text ih =>
      obtain ⟨first, others⟩ := List.forall_mem_cons.mp plain
      have start := Nat.le_trans (le_longestRun _ _ _) few
      rw [longestRun] at few
      rw [List.cons_append]
      split at few
      case isTrue quote =>
        subst quote
        rw [readLiteralBlock_quote (by omega), ih few others, List.replicate_succ',
          List.append_assoc]
        rfl
      case isFalse other =>
        have carriage : c ≠ '\r' := by
          rintro rfl
          cases first
        have fits : (c = '\n' || isPlain c) = true := by
          by_cases line : c = '\n'
          · simp [line]
          · simp [isPlain_of_not_control first line]
        have later : longestRun '\'' 0 text ≤ 2 := by omega
        rw [readLiteralBlock.eq_def, List.head?_cons, closingQuotes?_eq_none (.inl (by omega))]
        simp only [if_neg other, if_neg carriage, if_pos fits, ih later others]
        rfl

/-- Neither kind of quote follows, so that a string ends where it was closed. -/
def Unquoted (rest : List Char) : Prop :=
  rest.head? ≠ some '"' ∧ rest.head? ≠ some '\''

theorem readString_line {input : List Char} (single : ∀ rest, input ≠ '"' :: '"' :: '"' :: rest)
    (simple : ∀ rest, input ≠ '\'' :: '\'' :: '\'' :: rest) :
    readString input = readLineString input := by
  unfold readString
  split
  · exact absurd rfl (single _)
  · exact absurd rfl (simple _)
  · rfl

/-- A string on one line starts with one quote, or is empty. -/
theorem ne_quotes {quote : Char} {written rest : List Char} (other : written.head? ≠ some quote)
    (follows : rest.head? ≠ some quote) (input : List Char) :
    written ++ quote :: rest ≠ quote :: quote :: input := by
  intro same
  cases written with
  | nil =>
      obtain ⟨-, more⟩ := List.cons.inj same
      rw [more] at follows
      exact follows rfl
  | cons c written =>
      obtain ⟨first, -⟩ := List.cons.inj same
      rw [first] at other
      exact other rfl

/-- How the first character of a string in a basic style is written. -/
theorem writeBasic_cons (block : Bool) (run : Nat) (c : Char) (text : List Char) :
    ∃ first rest, writeBasic block run (c :: text) = first :: rest ∧ first ≠ '\r' ∧
      (first = '\n' → c = '\n') ∧ (block = false → first ≠ '"') := by
  rw [writeBasic]
  split
  case isTrue quote =>
    split
    case isTrue raw =>
      refine ⟨_, _, rfl, by decide, nofun, ?_⟩
      rintro rfl
      cases raw
    case isFalse => exact ⟨_, _, rfl, by decide, nofun, fun _ => by decide⟩
  case isFalse other =>
    rcases writeBasicChar_cases block c with ⟨written, -, carriage, -⟩ | ⟨letters, written, -⟩
    · rw [written]
      exact ⟨c, _, rfl, carriage, id, fun _ => other⟩
    · rw [written]
      exact ⟨_, _, rfl, by decide, nofun, fun _ => by decide⟩

theorem writeStyled_basic (text rest : List Char) :
    writeStyled .basic text ++ rest = '"' :: (writeBasic false 0 text ++ '"' :: rest) := by
  simp [writeStyled]

theorem writeStyled_literal (text rest : List Char) :
    writeStyled .literal text ++ rest = '\'' :: (text ++ '\'' :: rest) := by
  simp [writeStyled]

theorem readLineString_basic (text rest : List Char) :
    readLineString (writeStyled .basic text ++ rest) = some (text, rest) := by
  rw [writeStyled_basic]
  exact readBasic_writeBasic text 0 rest

theorem readLineString_literal {text : List Char} (quotes : '\'' ∉ text) (lines : '\n' ∉ text)
    (controls : ∀ c ∈ text, isControl c = false) (rest : List Char) :
    readLineString (writeStyled .literal text ++ rest) = some (text, rest) := by
  rw [writeStyled_literal]
  refine readLiteral_append ?_ rest
  intro c member
  refine ⟨fun same => quotes (same ▸ member), ?_⟩
  exact isPlain_of_not_control (controls c member) fun same => lines (same ▸ member)

theorem readString_basic (text : List Char) {rest : List Char} (follows : Unquoted rest) :
    readString (writeStyled .basic text ++ rest) = some (text, rest) := by
  have other : (writeBasic false 0 text).head? ≠ some '"' := by
    cases text with
    | nil => exact nofun
    | cons c text =>
        obtain ⟨first, more, written, -, -, quote⟩ := writeBasic_cons false 0 c text
        rw [written, List.head?_cons, ne_eq, Option.some.injEq]
        exact quote rfl
  rw [readString_line, readLineString_basic]
  · intro input
    rw [writeStyled_basic]
    exact fun same => ne_quotes other follows.1 input (List.cons.inj same).2
  · intro input
    rw [writeStyled_basic]
    exact fun same => absurd (List.cons.inj same).1 (by decide)

theorem readString_literal {text : List Char} (quotes : '\'' ∉ text) (lines : '\n' ∉ text)
    (controls : ∀ c ∈ text, isControl c = false) {rest : List Char} (follows : Unquoted rest) :
    readString (writeStyled .literal text ++ rest) = some (text, rest) := by
  have other : text.head? ≠ some '\'' := fun first => quotes (List.mem_of_mem_head? first)
  rw [readString_line, readLineString_literal quotes lines controls]
  · intro input
    rw [writeStyled_literal]
    exact fun same => absurd (List.cons.inj same).1 (by decide)
  · intro input
    rw [writeStyled_literal]
    exact fun same => ne_quotes other follows.2 input (List.cons.inj same).2

/-- The line end that is added in front of a text with line ends is the one that is dropped. -/
theorem dropFirstLineEnd_firstLineEnd {text input : List Char}
    (first : '\n' ∉ text → input.head? ≠ some '\n' ∧ input.head? ≠ some '\r') :
    dropFirstLineEnd (firstLineEnd text ++ input) = input := by
  unfold firstLineEnd
  split
  case isTrue => rfl
  case isFalse none =>
    obtain ⟨line, carriage⟩ := first (by simpa using none)
    rw [List.nil_append]
    unfold dropFirstLineEnd
    split
    · exact absurd rfl line
    · exact absurd rfl carriage
    · rfl

theorem readString_basicBlock (text : List Char) {rest : List Char} (follows : Unquoted rest) :
    readString (writeStyled .basicBlock text ++ rest) = some (text, rest) := by
  have spelled : writeStyled .basicBlock text ++ rest = '"' :: '"' :: '"' ::
      (firstLineEnd text ++ (writeBasic true 0 text ++ '"' :: '"' :: '"' :: rest)) := by
    simp [writeStyled]
  rw [spelled, readString, dropFirstLineEnd_firstLineEnd]
  · exact readBasicBlock_writeBasic text (Nat.zero_le 2) follows.1
  · intro none
    cases text with
    | nil => exact ⟨nofun, nofun⟩
    | cons c text =>
        obtain ⟨first, more, written, carriage, line, -⟩ := writeBasic_cons true 0 c text
        rw [written, List.cons_append, List.head?_cons]
        simp only [ne_eq, Option.some.injEq]
        refine ⟨fun same => none ?_, carriage⟩
        rw [line same]
        exact List.mem_cons_self

theorem readString_literalBlock {text : List Char} (few : longestRun '\'' 0 text ≤ 2)
    (controls : ∀ c ∈ text, isControl c = false) {rest : List Char} (follows : Unquoted rest) :
    readString (writeStyled .literalBlock text ++ rest) = some (text, rest) := by
  have spelled : writeStyled .literalBlock text ++ rest = '\'' :: '\'' :: '\'' ::
      (firstLineEnd text ++ (text ++ '\'' :: '\'' :: '\'' :: rest)) := by
    simp [writeStyled]
  rw [spelled, readString, dropFirstLineEnd_firstLineEnd]
  · exact readLiteralBlock_append few controls follows.2
  · intro none
    cases text with
    | nil => exact ⟨nofun, nofun⟩
    | cons c text =>
        rw [List.cons_append, List.head?_cons]
        simp only [ne_eq, Option.some.injEq]
        refine ⟨fun same => none (same ▸ List.mem_cons_self), ?_⟩
        rintro rfl
        cases controls _ List.mem_cons_self

/-- Every string is read as it was written, whatever its style. -/
theorem readString_writeString (text : List Char) {rest : List Char} (follows : Unquoted rest) :
    readString (writeString text ++ rest) = some (text, rest) := by
  have controls (none : (!text.any isControl) = true) : ∀ c ∈ text, isControl c = false := by
    simpa using none
  unfold writeString StringStyle.of
  dsimp only
  split
  case isTrue => exact readString_basic text follows
  split
  case isTrue plain =>
    simp only [Bool.and_eq_true, decide_eq_true_eq] at plain
    obtain ⟨⟨none, singles⟩, lines⟩ := plain
    exact readString_literal (not_mem_of_longestRun singles) (by simpa using lines) (controls none)
      follows
  split
  case isTrue => exact readString_basicBlock text follows
  split
  case isTrue plain =>
    simp only [Bool.and_eq_true, decide_eq_true_eq] at plain
    exact readString_literalBlock plain.2 (controls plain.1) follows
  split
  case isTrue => exact readString_basicBlock text follows
  case isFalse => exact readString_basic text follows

theorem writeString_cons (text : List Char) :
    ∃ quote rest, writeString text = quote :: rest ∧ (quote = '"' ∨ quote = '\'') := by
  unfold writeString
  cases StringStyle.of text with
  | basic | basicBlock => exact ⟨_, _, rfl, .inl rfl⟩
  | literal | literalBlock => exact ⟨_, _, rfl, .inr rfl⟩

end CompileSession.Toml
