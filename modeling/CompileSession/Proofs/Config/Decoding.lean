import CompileSession.Config.Decode
import CompileSession.Proofs.Config.Definitions
import CompileSession.Proofs.Toml.WellFormed

/-!
# What values stand for

Every decoder has its values: they are the ones that it accepts, and what it makes of one of them is
what the value stands for.
-/

namespace CompileSession

namespace SessionConfig

/-- A value stands for one of some words: as the word itself, or as a table with the word as its
only key and nothing under it. -/
inductive StandsForWord {α : Type} (text : α → String) (word : α) : Toml.Value → Prop where
  | string : StandsForWord text word (.string (text word))
  | emptyArray : StandsForWord text word (.table [(text word, .array [])])
  | emptyTable : StandsForWord text word (.table [(text word, .table [])])

/-- A value stands for definitions: as a table of texts, or as a date and time, which is a
definition of a name of its own. -/
inductive StandsForDefines (defines : Defines) : Toml.Value → Prop where
  | table : StandsForDefines defines
      (.table (defines.entries.map fun entry => (entry.1, .string entry.2)))
  | datetime {text : String} : defines.entries = [(datetimeKey, text)] →
      StandsForDefines defines (.datetime text)

variable {α β : Type} {value : Toml.Value}

theorem bind_eq_ok_iff {first : Except Misfit α} {next : α → Except Misfit β} {result : β} :
    (first >>= next) = .ok result ↔ ∃ found, first = .ok found ∧ next found = .ok result := by
  cases first with
  | error cause => exact iff_of_false nofun nofun
  | ok found =>
      constructor
      · exact fun read => ⟨found, rfl, read⟩
      · rintro ⟨_, same, read⟩
        cases same
        exact read

theorem map_eq_ok_iff {first : Except Misfit α} {change : α → β} {result : β} :
    change <$> first = .ok result ↔ ∃ found, first = .ok found ∧ change found = result := by
  cases first with
  | error cause => exact iff_of_false nofun nofun
  | ok found => simp [Functor.map, Except.map]

theorem decodeText_eq_ok_iff {text : String} :
    decodeText value = .ok text ↔ value = .string text := by
  cases value <;> simp [decodeText]

theorem decodePath_eq_ok_iff {path : Path} :
    decodePath value = .ok path ↔ ∃ text, path = .ofText text ∧ value = .string text := by
  cases value with
  | string text =>
      constructor
      · intro read
        exact ⟨text, (Except.ok.inj read).symm, rfl⟩
      · rintro ⟨other, rfl, same⟩
        cases same
        rfl
  | _ => simp [decodePath]

/-- A list of texts is decoded if each of its items is. -/
theorem mapM_eq_ok_iff {item : Toml.Value → Except Misfit α} {meaning : String → α}
    (each : ∀ {value content}, item value = .ok content ↔
      ∃ text, content = meaning text ∧ value = .string text)
    {values : List Toml.Value} {contents : List α} :
    values.mapM item = .ok contents ↔
      ∃ texts : List String, contents = texts.map meaning ∧ values = texts.map .string := by
  induction values generalizing contents with
  | nil =>
      constructor
      · intro read
        exact ⟨[], (Except.ok.inj read).symm, rfl⟩
      · rintro ⟨_ | ⟨text, texts⟩, rfl, same⟩
        · rfl
        · cases same
  | cons value values ih =>
      rw [List.mapM_cons]
      constructor
      · intro read
        obtain ⟨content, first, read⟩ := bind_eq_ok_iff.mp read
        obtain ⟨others, later, same⟩ := bind_eq_ok_iff.mp read
        cases same
        obtain ⟨text, rfl, rfl⟩ := each.mp first
        obtain ⟨texts, rfl, rfl⟩ := ih.mp later
        exact ⟨text :: texts, rfl, rfl⟩
      · rintro ⟨_ | ⟨text, texts⟩, rfl, same⟩
        · cases same
        · cases same
          refine bind_eq_ok_iff.mpr ⟨meaning text, each.mpr ⟨text, rfl, rfl⟩, ?_⟩
          exact bind_eq_ok_iff.mpr ⟨_, ih.mpr ⟨texts, rfl, rfl⟩, rfl⟩

theorem decodeList_eq_ok_iff {item : Toml.Value → Except Misfit α} {meaning : String → α}
    (each : ∀ {value content}, item value = .ok content ↔
      ∃ text, content = meaning text ∧ value = .string text) {contents : List α} :
    decodeList item value = .ok contents ↔
      ∃ texts : List String, contents = texts.map meaning ∧ value = .array (texts.map .string) := by
  cases value with
  | array items =>
      rw [decodeList, mapM_eq_ok_iff each]
      simp only [Toml.Value.array.injEq]
  | _ => simp [decodeList]

theorem decodeTexts_eq_ok_iff {texts : List String} :
    decodeList decodeText value = .ok texts ↔ value = .array (texts.map .string) := by
  have each {value : Toml.Value} {text : String} :
      decodeText value = .ok text ↔ ∃ same, text = id same ∧ value = .string same := by
    simp [decodeText_eq_ok_iff]
  refine (decodeList_eq_ok_iff each).trans ?_
  simp

theorem decodeWord_eq_ok_iff {words : List (String × α)} {found : String} {word : α} :
    decodeWord words found = .ok word ↔ words.lookup found = some word := by
  unfold decodeWord
  cases words.lookup found <;> simp

theorem isVacant_iff {value : Toml.Value} :
    isVacant value = true ↔ value = .array [] ∨ value = .table [] := by
  unfold isVacant
  split <;> simp_all

theorem decodeEnum_eq_ok_iff {words : List (String × α)} {text : α → String}
    (spelled : ∀ {found word}, words.lookup found = some word ↔ found = text word) {word : α} :
    decodeEnum words value = .ok word ↔ StandsForWord text word value := by
  constructor
  · intro decoded
    unfold decodeEnum at decoded
    split at decoded
    · obtain rfl := spelled.mp (decodeWord_eq_ok_iff.mp decoded)
      exact .string
    · obtain ⟨found, known, read⟩ := bind_eq_ok_iff.mp decoded
      clear decoded
      obtain rfl := spelled.mp (decodeWord_eq_ok_iff.mp known)
      split at read
      case isTrue vacant =>
        cases read
        rcases isVacant_iff.mp vacant with rfl | rfl
        · exact .emptyArray
        · exact .emptyTable
      case isFalse => cases read
    · cases decoded
  · have known : decodeWord words (text word) = .ok word :=
      decodeWord_eq_ok_iff.mpr (spelled.mpr rfl)
    rintro (_ | _ | _)
    · exact known
    · exact bind_eq_ok_iff.mpr ⟨word, known, rfl⟩
    · exact bind_eq_ok_iff.mpr ⟨word, known, rfl⟩

/-- Words that are told apart by their texts are found by them. -/
theorem lookup_words {all : List α} {text : α → String}
    (different : ∀ {word other}, text word = text other → word = other)
    (complete : ∀ word, word ∈ all) {found : String} {word : α} :
    (all.map fun word => (text word, word)).lookup found = some word ↔ found = text word := by
  rw [List.lookup_eq_some_iff]
  constructor
  · rintro ⟨before, after, split, -⟩
    have member : (found, word) ∈ all.map fun word => (text word, word) := by
      rw [split]
      exact List.mem_append_right _ List.mem_cons_self
    obtain ⟨same, -, pair⟩ := List.mem_map.mp member
    cases pair
    rfl
  · rintro rfl
    obtain ⟨before, after, rfl, first⟩ := List.eq_append_cons_of_mem (complete word)
    refine ⟨before.map fun word => (text word, word), after.map fun word => (text word, word),
      by rw [List.map_append, List.map_cons], fun entry earlier => ?_⟩
    obtain ⟨other, member, rfl⟩ := List.mem_map.mp earlier
    rw [bne_iff_ne]
    exact fun same => first (different same ▸ member)

theorem lookup_modeWords {found : String} {mode : OutputMode} :
    modeWords.lookup found = some mode ↔ found = mode.text := by
  refine lookup_words (fun {word other} same => ?_) fun word => ?_
  · cases word <;> cases other <;> first | rfl | exact absurd same (by decide)
  · cases word <;> decide

theorem lookup_deliveryWords {found : String} {delivery : Delivery} :
    deliveryWords.lookup found = some delivery ↔ found = delivery.text := by
  refine lookup_words (fun {word other} same => ?_) fun word => ?_
  · cases word <;> cases other <;> first | rfl | exact absurd same (by decide)
  · cases word <;> decide

theorem decodeCount_eq_ok_iff (wellFormed : value.WellFormed) {count : UInt64} :
    decodeCount value = .ok count ↔ value = .integer count.toNat := by
  cases wellFormed with
  | integer number =>
      have low := number.le_toInt
      have high := number.toInt_lt
      rw [decodeCount, Toml.Value.integer.injEq]
      split
      case isTrue natural =>
        rw [Except.ok.injEq, ← UInt64.toNat_inj, UInt64.toNat_ofNat']
        omega
      case isFalse negative =>
        refine iff_of_false nofun ?_
        omega
  | _ => exact iff_of_false nofun nofun

theorem mapM_pairs_eq_ok_iff {entries : Toml.Entries} {pairs : List (String × String)} :
    entries.mapM (fun (name, value) =>
        (do return (name, ← decodeText value) : Except Misfit (String × String))) = .ok pairs ↔
      entries = pairs.map fun pair => (pair.1, .string pair.2) := by
  induction entries generalizing pairs with
  | nil => cases pairs <;> simp [pure, Except.pure]
  | cons entry entries ih =>
      rw [List.mapM_cons]
      constructor
      · intro decoded
        obtain ⟨first, now, later⟩ := bind_eq_ok_iff.mp decoded
        obtain ⟨text, known, same⟩ := bind_eq_ok_iff.mp now
        obtain ⟨others, more, whole⟩ := bind_eq_ok_iff.mp later
        cases same
        cases whole
        rw [List.map_cons, ← ih.mp more, ← decodeText_eq_ok_iff.mp known]
      · intro same
        cases pairs with
        | nil => cases same
        | cons pair pairs =>
            cases same
            exact bind_eq_ok_iff.mpr ⟨pair, rfl, bind_eq_ok_iff.mpr ⟨pairs, ih.mpr rfl, rfl⟩⟩

theorem decodeDefines_entries (defines : Defines) :
    decodeDefines (.table (defines.entries.map fun entry => (entry.1, .string entry.2))) =
      .ok defines := by
  refine bind_eq_ok_iff.mpr ⟨defines.entries, mapM_pairs_eq_ok_iff.mpr rfl, ?_⟩
  exact congrArg Except.ok defines.ofList_entries

theorem decodeDefines_eq_ok_iff (wellFormed : value.WellFormed) {defines : Defines} :
    decodeDefines value = .ok defines ↔ StandsForDefines defines value := by
  cases wellFormed with
  | @table entries distinct _ =>
      constructor
      · intro decoded
        obtain ⟨pairs, each, same⟩ := bind_eq_ok_iff.mp decoded
        cases same
        obtain rfl := mapM_pairs_eq_ok_iff.mp each
        have names : (pairs.map Prod.fst).Nodup := by simpa [Function.comp_def] using distinct
        have listed : (Defines.ofList pairs).entries = pairs :=
          (Defines.entries_foldl_insert .empty pairs names).trans (List.nil_append pairs)
        have stands : StandsForDefines (.ofList pairs) _ := .table
        rwa [listed] at stands
      · rintro ⟨⟩
        exact decodeDefines_entries defines
  | datetime text =>
      constructor
      · rintro ⟨⟩
        exact .datetime rfl
      · rintro (_ | listed)
        rw [decodeDefines, ← listed, defines.ofList_entries]
  | _ => exact iff_of_false nofun nofun

end SessionConfig

end CompileSession
