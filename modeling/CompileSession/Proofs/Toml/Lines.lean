import CompileSession.Proofs.Toml.Numbers
import CompileSession.Proofs.Toml.Strings
import CompileSession.Toml.Parser

/-!
# Lines are read as they were written

Keys, strings, arrays of strings and numbers are read back, and with them every line that gives a
key its value.
-/

namespace CompileSession.Toml

section Keys

/-- The end of a key without quotes. -/
def EndsKey (rest : List Char) : Prop :=
  ∀ c ∈ rest.head?, isBareKeyChar c = false

/-- How a key starts. -/
def startsKey (c : Char) : Bool :=
  isBareKeyChar c || c = '"' || c = '\''

theorem writeKey_cons (key : List Char) :
    ∃ first rest, writeKey key = first :: rest ∧ startsKey first = true := by
  unfold writeKey
  dsimp only
  split
  case isTrue bare =>
    cases key with
    | nil => simp at bare
    | cons c key =>
        simp only [ne_eq, reduceCtorEq, not_false_eq_true, decide_true, List.all_cons,
          Bool.true_and, Bool.and_eq_true] at bare
        exact ⟨c, key, rfl, by simp [startsKey, bare.1]⟩
  split
  · exact ⟨_, _, rfl, rfl⟩
  split <;> exact ⟨_, _, rfl, rfl⟩

theorem readSimpleKey_quoted {input : List Char}
    (first : ∀ c ∈ input.head?, isBareKeyChar c = false) :
    readSimpleKey input =
      (readLineString input).map fun (key, rest) => (String.ofList key, rest) := by
  have none : ([] ++ input).span isBareKeyChar = ([], input) :=
    span_append (List.forall_mem_nil _) first
  simp only [List.nil_append] at none
  simp only [readSimpleKey, none]

theorem readSimpleKey_writeKey (key : List Char) {rest : List Char} (ends : EndsKey rest) :
    readSimpleKey (writeKey key ++ rest) = some (String.ofList key, rest) := by
  have basic : readSimpleKey (writeStyled .basic key ++ rest) = some (String.ofList key, rest) := by
    rw [readSimpleKey_quoted, readLineString_basic]
    · rfl
    · rintro _ ⟨⟩
      rfl
  unfold writeKey
  dsimp only
  split
  case isTrue bare =>
    simp only [ne_eq, Bool.and_eq_true, decide_eq_true_eq, List.all_eq_true] at bare
    simp only [readSimpleKey, span_append bare.2 ends]
    cases key with
    | nil => exact absurd rfl bare.1
    | cons => rfl
  split
  case isTrue => exact basic
  split
  case isTrue plain =>
    simp only [Bool.and_eq_true, Bool.not_eq_true', List.any_eq_false, Bool.or_eq_true,
      decide_eq_true_eq, not_or, Bool.not_eq_true, List.contains_eq_mem, decide_eq_false_iff_not]
      at plain
    obtain ⟨controls, quotes⟩ := plain
    rw [readSimpleKey_quoted, readLineString_literal quotes]
    · rfl
    · exact fun line => (controls _ line).2 rfl
    · exact fun c member => (controls c member).1
    · rintro _ ⟨⟩
      rfl
  case isFalse => exact basic

theorem skipSpaces_of_head {input : List Char}
    (first : ∀ c ∈ input.head?, c ≠ ' ' ∧ c ≠ '\t') : skipSpaces input = input := by
  unfold skipSpaces
  split
  · exact absurd rfl (first _ rfl).1
  · exact absurd rfl (first _ rfl).2
  · rfl

theorem ne_of_startsKey {c d : Char} (key : startsKey c = true) (other : startsKey d = false) :
    c ≠ d := by
  rintro rfl
  rw [other] at key
  cases key

/-- A key that stands alone is read together with the blanks behind it. -/
theorem readKey_writeKey (key : String) {rest : List Char} (ends : EndsKey rest)
    (single : ∀ more, skipSpaces rest ≠ '.' :: more) :
    readKey (writeKey key.toList ++ rest) = some (([], key), skipSpaces rest) := by
  have parts : depthLimit - 1 = 78 + 1 := rfl
  have front : skipSpaces (writeKey key.toList ++ rest) = writeKey key.toList ++ rest := by
    obtain ⟨first, more, written, starts⟩ := writeKey_cons key.toList
    apply skipSpaces_of_head
    rw [written]
    rintro _ ⟨⟩
    exact ⟨ne_of_startsKey starts rfl, ne_of_startsKey starts rfl⟩
  have whole : readParts (78 + 1) (writeKey key.toList ++ rest) =
      some ([key], skipSpaces rest) := by
    rw [readParts, front, readSimpleKey_writeKey key.toList ends, String.ofList_toList]
    dsimp only [bind, Option.bind]
    split
    case h_1 same => exact absurd same (single _)
    case h_2 => rfl
  rw [readKey, parts, whole]
  rfl

end Keys

section Values

/-- What stands behind a value: the end of its line, or a comma or bracket. -/
def EndsValue (rest : List Char) : Prop :=
  ∃ c more, rest = c :: more ∧ (c = '\n' ∨ c = ',' ∨ c = ']')

theorem EndsValue.unquoted {rest : List Char} (ends : EndsValue rest) : Unquoted rest := by
  obtain ⟨c, more, rfl, kind⟩ := ends
  rcases kind with rfl | rfl | rfl <;> simp [Unquoted]

theorem EndsValue.word {rest : List Char} (ends : EndsValue rest) :
    ∀ c ∈ rest.head?, isWordChar c = false ∧ c ≠ ' ' := by
  obtain ⟨c, more, rfl, kind⟩ := ends
  rintro _ ⟨⟩
  rcases kind with rfl | rfl | rfl <;> exact ⟨rfl, by decide⟩

/-- Some characters spell a value, up to where they end. -/
structure Reads (depth : Nat) (written : List Char) (value : Value) : Prop where
  starts : ∀ c ∈ written.head?, c ≠ ' ' ∧ c ≠ '\t'
  nonempty : written ≠ []
  read : ∀ rest, EndsValue rest → readValue depth (written ++ rest) = some (value, rest)

theorem reads_string (depth : Nat) (text : List Char) :
    Reads (depth + 1) (writeString text) (.string (String.ofList text)) := by
  obtain ⟨quote, more, written, kind⟩ := writeString_cons text
  refine ⟨?_, ?_, ?_⟩
  · rw [written]
    rintro _ ⟨⟩
    rcases kind with rfl | rfl <;> exact ⟨by decide, by decide⟩
  · rw [written]
    exact List.cons_ne_nil _ _
  · intro rest ends
    have read := readString_writeString text ends.unquoted
    rw [written, List.cons_append] at read ⊢
    rcases kind with rfl | rfl <;> simp [readValue, read]

theorem reads_number {n : Nat} (fits : n < Nat.pow 2 63) (depth : Nat) :
    Reads (depth + 1) (Nat.toDigits 10 n) (.integer n) := by
  have digit (c : Char) (first : c ∈ (Nat.toDigits 10 n).head?) : isDigit c = true :=
    isDigit_of_mem_toDigits (List.mem_of_mem_head? first)
  refine ⟨?_, Nat.toDigits_ne_nil, ?_⟩
  · intro c first
    have digit := digit c first
    constructor <;> rintro rfl <;> cases digit
  · intro rest ends
    have read := readWord_toDigits fits ends.word
    cases digits : Nat.toDigits 10 n with
    | nil => exact absurd digits Nat.toDigits_ne_nil
    | cons c more =>
        have digit : isDigit c = true := digit c (by rw [digits]; rfl)
        rw [digits, List.cons_append] at read
        have other (d : Char) (none : isDigit d = false) : c ≠ d := by
          rintro rfl
          rw [none] at digit
          cases digit
        rw [List.cons_append, readValue]
        · rw [if_neg (not_or.mpr ⟨other _ rfl, other _ rfl⟩), read]
        · intro same
          exact other _ rfl same
        · intro same
          exact other _ rfl same

theorem skipBlanks_start {c : Char} (plain : c ≠ '\n' ∧ c ≠ '\r' ∧ c ≠ ' ' ∧ c ≠ '\t' ∧ c ≠ '#')
    (rest : List Char) : skipBlanks false (c :: rest) = some (c :: rest) := by
  obtain ⟨line, carriage, space, tab, mark⟩ := plain
  rw [skipBlanks]
  · simp [line, space, tab, mark]
  · intro more same
    exact absurd same carriage

theorem skipBlanks_line (rest : List Char) :
    skipBlanks false ('\n' :: rest) = skipBlanks false rest := by
  rw [skipBlanks]
  · rfl
  · intro more same
    exact absurd same (by decide)

section Items

variable {readItem : Reader Value} {input start rest more : List Char} {item : Value}

theorem readItems_end (skip : skipBlanks false input = some (']' :: rest)) :
    readItems readItem input = some ([], rest) := by
  rw [readItems, skip]
  rfl

variable (skip : skipBlanks false input = some start) (opens : ∀ more, start ≠ ']' :: more)
  (read : readItem start = some (item, rest))

include skip opens read

theorem readItems_last (last : skipBlanks false rest = some (']' :: more)) :
    readItems readItem input = some ([item], more) := by
  rw [readItems, skip]
  simp only [read, last]

theorem readItems_next (next : skipBlanks false rest = some (',' :: more))
    (shorter : more.length < input.length) :
    readItems readItem input =
      (readItems readItem more).map fun (items, rest) => (item :: items, rest) := by
  rw [readItems, skip]
  simp only [read, next, if_pos shorter]

end Items

/-- The items of an array of strings as they are written on lines of their own. -/
def itemLines (items : List (List Char)) : List Char :=
  items.flatMap fun item => "    ".toList ++ writeString item ++ [',', '\n']

theorem writeString_ne_bracket (item rest more : List Char) :
    writeString item ++ rest ≠ ']' :: more := by
  obtain ⟨quote, written, spelled, kind⟩ := writeString_cons item
  rw [spelled]
  intro same
  rcases kind with rfl | rfl <;> exact absurd (List.cons.inj same).1 (by decide)

theorem skipBlanks_writeString (item rest : List Char) :
    skipBlanks false (writeString item ++ rest) = some (writeString item ++ rest) := by
  obtain ⟨quote, written, spelled, kind⟩ := writeString_cons item
  rw [spelled, List.cons_append]
  apply skipBlanks_start
  rcases kind with rfl | rfl <;> decide

theorem readItems_itemLines (depth : Nat) (items : List (List Char)) (rest : List Char) :
    readItems (readValue (depth + 1)) ('\n' :: (itemLines items ++ ']' :: rest)) =
      some (items.map fun item => .string (String.ofList item), rest) := by
  induction items with
  | nil =>
      apply readItems_end
      rw [skipBlanks_line]
      exact skipBlanks_start (by decide) rest
  | cons item items ih =>
      have spelled : itemLines (item :: items) ++ ']' :: rest =
          ' ' :: ' ' :: ' ' :: ' ' ::
            (writeString item ++ ',' :: '\n' :: (itemLines items ++ ']' :: rest)) := by
        simp [itemLines]
      have skip : skipBlanks false ('\n' :: (itemLines (item :: items) ++ ']' :: rest)) =
          some (writeString item ++ ',' :: '\n' :: (itemLines items ++ ']' :: rest)) := by
        rw [skipBlanks_line, spelled]
        exact skipBlanks_writeString ..
      have read := (reads_string depth item).read
        (',' :: '\n' :: (itemLines items ++ ']' :: rest)) ⟨',', _, rfl, .inr (.inl rfl)⟩
      have next : skipBlanks false (',' :: '\n' :: (itemLines items ++ ']' :: rest)) =
          some (',' :: '\n' :: (itemLines items ++ ']' :: rest)) :=
        skipBlanks_start (by decide) _
      rw [readItems_next skip (writeString_ne_bracket _ _) read next, ih]
      · rfl
      · simp only [spelled, List.length_cons, List.length_append]
        omega

theorem writeArray_cons (items : List (List Char)) : ∃ more, writeArray items = '[' :: more :=
  match items with
  | [] | [_] | _ :: _ :: _ => ⟨_, rfl⟩

theorem reads_array (depth : Nat) (items : List (List Char)) :
    Reads (depth + 2) (writeArray items)
      (.array (items.map fun item => .string (String.ofList item))) := by
  have bracket (written rest : List Char) :
      readValue (depth + 2) ('[' :: written ++ rest) =
        (readItems (readValue (depth + 1)) (written ++ rest)).map fun (items, rest) =>
          (.array items, rest) := rfl
  obtain ⟨more, opens⟩ := writeArray_cons items
  refine ⟨?_, opens ▸ List.cons_ne_nil _ _, fun rest _ => ?_⟩
  · rw [opens]
    rintro _ ⟨⟩
    decide
  match items with
  | [] =>
      have skip : skipBlanks false (']' :: rest) = some (']' :: rest) :=
        skipBlanks_start (by decide) rest
      have none : readItems (readValue (depth + 1)) ([']'] ++ rest) = some ([], rest) :=
        readItems_end skip
      rw [writeArray, bracket, none]
      rfl
  | [item] =>
      have read := (reads_string depth item).read (']' :: rest) ⟨']', _, rfl, .inr (.inr rfl)⟩
      have last : skipBlanks false (']' :: rest) = some (']' :: rest) :=
        skipBlanks_start (by decide) rest
      have spelled : writeString item ++ [']'] ++ rest = writeString item ++ ']' :: rest := by
        simp
      rw [writeArray, List.cons_append, bracket, spelled,
        readItems_last (skipBlanks_writeString ..) (writeString_ne_bracket _ _) read last]
      rfl
  | first :: second :: others =>
      have spelled : writeArray (first :: second :: others) =
          '[' :: '\n' :: (itemLines (first :: second :: others) ++ [']']) := by
        simp [writeArray, itemLines]
      rw [spelled, bracket, List.cons_append, List.append_assoc, List.singleton_append,
        readItems_itemLines]
      rfl

end Values

section Lines

theorem readPair_writePair {depth : Nat} {written : List Char} {value : Value}
    (reads : Reads depth written value) (key : String) (rest : List Char) :
    readPair (readValue depth) (writePair key written ++ rest) =
      some (([], key, value), '\n' :: rest) := by
  have spelled : writePair key written ++ rest =
      writeKey key.toList ++ ' ' :: '=' :: ' ' :: (written ++ '\n' :: rest) := by
    simp [writePair]
  have ends : EndsKey (' ' :: '=' :: ' ' :: (written ++ '\n' :: rest)) := by
    rintro _ ⟨⟩
    rfl
  have single (more : List Char) :
      skipSpaces (' ' :: '=' :: ' ' :: (written ++ '\n' :: rest)) ≠ '.' :: more := by
    rintro ⟨⟩
  have blank : skipSpaces (' ' :: (written ++ '\n' :: rest)) = written ++ '\n' :: rest := by
    change skipSpaces (written ++ '\n' :: rest) = _
    apply skipSpaces_of_head
    intro c first
    rw [List.head?_append, Option.or_of_isSome (by simpa using reads.nonempty)] at first
    exact reads.starts c first
  have value := reads.read ('\n' :: rest) ⟨'\n', rest, rfl, .inl rfl⟩
  rw [spelled, readPair, readKey_writeKey key ends single]
  change (readValue depth (skipSpaces (' ' :: (written ++ '\n' :: rest)))).bind
    (fun read => some (([], key, read.1), read.2)) = _
  rw [blank, value]
  rfl

theorem writePair_cons (key : String) (written : List Char) :
    ∃ first more, writePair key written = first :: more ∧ startsKey first = true := by
  obtain ⟨first, more, spelled, starts⟩ := writeKey_cons key.toList
  refine ⟨first, more ++ [' ', '=', ' '] ++ written ++ ['\n'], ?_, starts⟩
  simp only [writePair, spelled, List.cons_append]

theorem readLine_writePair {written : List Char} {value : Value}
    (reads : Reads depthLimit written value) (key : String) (rest : List Char) :
    readLine (writePair key written ++ rest) = some (.keyValue [] key value, rest) := by
  obtain ⟨first, more, spelled, starts⟩ := writePair_cons key written
  have bracket : first ≠ '[' := ne_of_startsKey starts rfl
  have pair := readPair_writePair reads key rest
  rw [spelled, List.cons_append] at pair ⊢
  rw [readLine]
  · rw [pair]
    rfl
  · intro more same
    exact bracket (List.cons.inj same).1
  · intro more same
    exact bracket (List.cons.inj same).1

theorem readLines_cons {input start rest : List Char} {line : Line}
    (skip : skipBlanks false input = some start) (nonempty : start ≠ [])
    (read : readLine start = some (line, rest)) (shorter : rest.length < input.length) :
    readLines input = (readLines rest).map (line :: ·) := by
  rw [readLines, skip]
  cases start with
  | nil => exact absurd rfl nonempty
  | cons c more => simp only [read, if_pos shorter]

/-- A key with a value that is written already. -/
structure WrittenPair where
  key : String
  written : List Char
  value : Value
  reads : Reads depthLimit written value

namespace WrittenPair

def text (pair : WrittenPair) : List Char :=
  writePair pair.key pair.written

def line (pair : WrittenPair) : Line :=
  .keyValue [] pair.key pair.value

def string (key : String) (text : String) : WrittenPair where
  key := key
  written := writeString text.toList
  value := .string text
  reads := by
    have reads := reads_string (depthLimit - 1) text.toList
    rwa [String.ofList_toList] at reads

def array (key : String) (texts : List String) : WrittenPair where
  key := key
  written := writeArray (texts.map String.toList)
  value := .array (texts.map .string)
  reads := by
    have same : (texts.map String.toList).map (fun item => Value.string (String.ofList item)) =
        texts.map .string := by
      simp
    rw [← same]
    exact reads_array (depthLimit - 2) (texts.map String.toList)

def number (key : String) (n : Nat) (fits : n < Nat.pow 2 63) : WrittenPair where
  key := key
  written := Nat.toDigits 10 n
  value := .integer n
  reads := reads_number fits (depthLimit - 1)

end WrittenPair

theorem readLines_pair (pair : WrittenPair) (rest : List Char) :
    readLines (pair.text ++ rest) = (readLines rest).map (pair.line :: ·) := by
  obtain ⟨first, more, spelled, starts⟩ := writePair_cons pair.key pair.written
  have start : pair.text ++ rest = first :: (more ++ rest) := congrArg (· ++ rest) spelled
  have skip : skipBlanks false (pair.text ++ rest) = some (pair.text ++ rest) := by
    rw [start]
    refine skipBlanks_start ⟨?_, ?_, ?_, ?_, ?_⟩ _ <;> exact ne_of_startsKey starts rfl
  apply readLines_cons skip _ (readLine_writePair pair.reads pair.key rest)
  · rw [start, List.length_cons, List.length_append]
    omega
  · rw [start]
    exact List.cons_ne_nil _ _

theorem readLines_pairs (pairs : List WrittenPair) (rest : List Char) :
    readLines (pairs.flatMap WrittenPair.text ++ rest) =
      (readLines rest).map (pairs.map WrittenPair.line ++ ·) := by
  induction pairs with
  | nil => simp
  | cons pair pairs ih =>
      rw [List.flatMap_cons, List.append_assoc, readLines_pair, ih, Option.map_map]
      rfl

/-- The header of a table, with an empty line before it. -/
def writeHeader (key : String) : List Char :=
  ['\n', '['] ++ writeKey key.toList ++ [']', '\n']

theorem readLines_header (key : String) (rest : List Char) :
    readLines (writeHeader key ++ rest) = (readLines rest).map (.table [] key :: ·) := by
  have spelled : writeHeader key ++ rest =
      '\n' :: '[' :: (writeKey key.toList ++ ']' :: '\n' :: rest) := by
    simp [writeHeader]
  have skip : skipBlanks false (writeHeader key ++ rest) =
      some ('[' :: (writeKey key.toList ++ ']' :: '\n' :: rest)) := by
    rw [spelled, skipBlanks_line]
    exact skipBlanks_start (by decide) _
  have name : readKey (writeKey key.toList ++ ']' :: '\n' :: rest) =
      some (([], key), ']' :: '\n' :: rest) :=
    readKey_writeKey key (by rintro _ ⟨⟩; rfl) (by rintro more ⟨⟩)
  have read : readLine ('[' :: (writeKey key.toList ++ ']' :: '\n' :: rest)) =
      some (.table [] key, rest) := by
    obtain ⟨first, more, written, starts⟩ := writeKey_cons key.toList
    rw [readLine]
    · rw [name]
      rfl
    · rw [written]
      rintro _ ⟨⟩
      exact ne_of_startsKey starts rfl rfl
  apply readLines_cons skip (List.cons_ne_nil _ _) read
  simp only [spelled, List.length_cons, List.length_append]
  omega

theorem readLines_nil : readLines [] = some [] := by
  rw [readLines, skipBlanks]

end Lines

end CompileSession.Toml
