import CompileSession.Config.Basic
import CompileSession.Proofs.Text.Utf8
import Mathlib.Data.List.TakeDrop
import Mathlib.Data.List.TakeWhile

/-!
# Definitions in order

Definitions that are added one after the other come behind those that were there before: every name
once, at the place where it was added last and with the value that it was given last.
-/

namespace CompileSession

/-- Of the pairs with the same name the last one only. -/
def lastOfEach : List (String × String) → List (String × String)
  | [] => []
  | entry :: rest =>
    if entry.1 ∈ rest.map Prod.fst then lastOfEach rest else entry :: lastOfEach rest

theorem mem_lastOfEach_iff {entry : String × String} {entries : List (String × String)} :
    entry ∈ lastOfEach entries ↔
      ∃ before after, entries = before ++ entry :: after ∧ entry.1 ∉ after.map Prod.fst := by
  constructor
  · intro member
    induction entries with
    | nil => cases member
    | cons first rest ih =>
        have later (within : entry ∈ lastOfEach rest) :
            ∃ before after, first :: rest = before ++ entry :: after ∧
              entry.1 ∉ after.map Prod.fst := by
          obtain ⟨before, after, rfl, last⟩ := ih within
          exact ⟨first :: before, after, rfl, last⟩
        rw [lastOfEach] at member
        split at member
        case isTrue => exact later member
        case isFalse last =>
          rcases List.mem_cons.mp member with rfl | within
          · exact ⟨[], rest, rfl, last⟩
          · exact later within
  · rintro ⟨before, after, rfl, last⟩
    induction before with
    | nil =>
        rw [List.nil_append, lastOfEach, if_neg last]
        exact List.mem_cons_self
    | cons first rest ih =>
        rw [List.cons_append, lastOfEach]
        split
        · exact ih
        · exact List.mem_cons_of_mem _ ih

theorem mem_of_mem_lastOfEach {entry : String × String} {entries : List (String × String)}
    (member : entry ∈ lastOfEach entries) : entry ∈ entries := by
  obtain ⟨before, after, rfl, -⟩ := mem_lastOfEach_iff.mp member
  exact List.mem_append_right _ List.mem_cons_self

/-- What is kept stands in the order in which the names come last. -/
theorem pairwise_lastOfEach (entries : List (String × String)) :
    (lastOfEach entries).Pairwise fun first second =>
      ∃ before between after, entries = before ++ first :: (between ++ second :: after) ∧
        first.1 ∉ (between ++ second :: after).map Prod.fst ∧
        second.1 ∉ after.map Prod.fst := by
  induction entries with
  | nil => exact .nil
  | cons head rest ih =>
      have later := ih.imp (S := fun first second =>
          ∃ before between after, head :: rest = before ++ first :: (between ++ second :: after) ∧
            first.1 ∉ (between ++ second :: after).map Prod.fst ∧
            second.1 ∉ after.map Prod.fst) (by
        rintro first second ⟨before, between, after, rfl, last⟩
        exact ⟨head :: before, between, after, rfl, last⟩)
      rw [lastOfEach]
      split
      case isTrue => exact later
      case isFalse once =>
        refine .cons ?_ later
        intro second member
        obtain ⟨between, after, rfl, last⟩ := mem_lastOfEach_iff.mp member
        exact ⟨[], between, after, rfl, once, last⟩

/-- No other names are kept than those that there are. -/
theorem filter_lastOfEach (entries : List (String × String)) :
    (lastOfEach entries).filter (fun entry => entry.1 ∉ entries.map Prod.fst) = [] := by
  apply List.filter_eq_nil_iff.mpr
  intro entry member
  simpa using ⟨entry.2, mem_of_mem_lastOfEach member⟩

/-- Where two neighbours have different names, it does not matter for what is kept which one comes
first. -/
theorem lastOfEach_swap {first second : String × String} (different : first.1 ≠ second.1)
    (before after : List (String × String)) :
    (lastOfEach (before ++ first :: second :: after)).Perm
      (lastOfEach (before ++ second :: first :: after)) := by
  induction before with
  | nil =>
      have firstLater :
          first.1 ∈ (second :: after).map Prod.fst ↔ first.1 ∈ after.map Prod.fst := by
        rw [List.map_cons, List.mem_cons, or_iff_right different]
      have secondLater :
          second.1 ∈ (first :: after).map Prod.fst ↔ second.1 ∈ after.map Prod.fst := by
        rw [List.map_cons, List.mem_cons, or_iff_right different.symm]
      simp only [List.nil_append, lastOfEach, firstLater, secondLater]
      by_cases early : first.1 ∈ after.map Prod.fst
      · simp only [if_pos early]
        exact .refl _
      · simp only [if_neg early]
        by_cases late : second.1 ∈ after.map Prod.fst
        · simp only [if_pos late]
          exact .refl _
        · simp only [if_neg late]
          exact .swap ..
  | cons head before ih =>
      have names : (before ++ first :: second :: after).Perm (before ++ second :: first :: after) :=
        (List.Perm.swap second first after).append_left before
      simp only [List.cons_append, lastOfEach, (names.map Prod.fst).mem_iff]
      split
      · exact ih
      · exact ih.cons head

/-- The name and the value that a text asks to define. -/
def DefineSpec.entry (text : String) : String × String :=
  ((ofText text).name, (ofText text).value)

namespace SessionConfig

theorem entries_define (config : SessionConfig) (spec : String) :
    (config.define spec).defines.entries =
      config.defines.entries.filter (fun entry => entry.1 ≠ (DefineSpec.entry spec).1) ++
        [DefineSpec.entry spec] :=
  rfl

/-- Adding definitions concerns nothing else. -/
theorem defineAll_eq (config : SessionConfig) (specs : List String) :
    config.defineAll specs = { config with defines := (config.defineAll specs).defines } := by
  induction specs generalizing config with
  | nil => rfl
  | cons spec rest ih => exact ih (config.define spec)

theorem entries_defineAll (config : SessionConfig) (specs : List String) :
    (config.defineAll specs).defines.entries =
      config.defines.entries.filter
          (fun entry => entry.1 ∉ (specs.map DefineSpec.entry).map Prod.fst) ++
        lastOfEach (specs.map DefineSpec.entry) := by
  induction specs generalizing config with
  | nil =>
      have kept : config.defines.entries.filter (fun entry =>
          entry.1 ∉ (([] : List String).map DefineSpec.entry).map Prod.fst) =
            config.defines.entries :=
        List.filter_eq_self.mpr fun _ _ => rfl
      rw [kept]
      exact (List.append_nil _).symm
  | cons spec rest ih =>
      have first := ih (config.define spec)
      rw [entries_define, List.filter_append, List.filter_filter] at first
      refine first.trans ?_
      rw [List.map_cons, lastOfEach]
      have others (entry : String × String) :
          (decide (entry.1 ∉ (rest.map DefineSpec.entry).map Prod.fst) &&
              decide (entry.1 ≠ (DefineSpec.entry spec).1)) =
            decide (entry.1 ∉ (DefineSpec.entry spec :: rest.map DefineSpec.entry).map
              Prod.fst) := by
        simp only [List.map_cons, List.mem_cons, not_or, Bool.decide_and, Bool.and_comm]
      simp only [others, List.append_assoc]
      by_cases again : (DefineSpec.entry spec).1 ∈ (rest.map DefineSpec.entry).map Prod.fst
      · rw [if_pos again, List.filter_cons_of_neg (by simpa using again), List.filter_nil,
          List.nil_append]
      · rw [if_neg again, List.filter_cons_of_pos (by simpa using again), List.filter_nil,
          List.singleton_append]

end SessionConfig

namespace Defines

theorem entries_insert_of_fresh {defines : Defines} {name : String}
    (fresh : name ∉ defines.entries.map Prod.fst) (value : String) :
    (defines.insert name value).entries = defines.entries ++ [(name, value)] := by
  rw [insert, dif_neg fresh]
  rfl

theorem entries_foldl_insert (defines : Defines) (pairs : List (String × String))
    (distinct : (defines.entries.map Prod.fst ++ pairs.map Prod.fst).Nodup) :
    (pairs.foldl (fun defines pair => defines.insert pair.1 pair.2) defines).entries =
      defines.entries ++ pairs := by
  induction pairs generalizing defines with
  | nil => exact (List.append_nil _).symm
  | cons pair pairs ih =>
      have fresh : pair.1 ∉ defines.entries.map Prod.fst := fun member =>
        (List.nodup_append.mp distinct).2.2 _ member _ List.mem_cons_self rfl
      have first := entries_insert_of_fresh fresh pair.2
      rw [List.foldl_cons, ih, first, List.append_assoc]
      · rfl
      · rw [first]
        simpa using distinct

/-- Definitions are what their entries make. -/
theorem ofList_entries (defines : Defines) : ofList defines.entries = defines := by
  have entries := entries_foldl_insert empty defines.entries
    (by simpa [empty] using defines.distinct)
  cases same : ofList defines.entries with
  | mk made distinct =>
      have made : made = defines.entries := by
        rw [← entries.trans (List.nil_append _)]
        exact (congrArg Defines.entries same).symm
      subst made
      rfl

end Defines

/-- A definition is asked for by its name and, behind the first equals sign, its value; a name that
stands alone is defined as `1`. -/
theorem DefineSpec.entry_cases (text : String) :
    ('=' ∉ text.toList ∧ entry text = (text, "1")) ∨
      ∃ name value : List Char, text.toList = name ++ '=' :: value ∧ '=' ∉ name ∧
        entry text = (String.ofList name, String.ofList value) := by
  have whole : text.toList.takeWhile (fun c => c ≠ '=') ++
      text.toList.dropWhile (fun c => c ≠ '=') = text.toList := List.takeWhile_append_dropWhile
  have before : '=' ∉ text.toList.takeWhile (fun c => c ≠ '=') := by
    intro member
    have other := List.mem_takeWhile_imp member
    simp at other
  have stops := List.head?_dropWhile_not (fun c => decide (c ≠ '=')) text.toList
  simp only [entry, ofText, List.span_eq_takeWhile_dropWhile]
  cases rest : text.toList.dropWhile (fun c => c ≠ '=') with
  | nil =>
      rw [rest, List.append_nil] at whole
      exact .inl ⟨whole ▸ before, rfl⟩
  | cons first value =>
      rw [rest] at whole stops
      have equals : first = '=' := by simpa using stops
      subst equals
      exact .inr ⟨_, value, whole.symm, before, rfl⟩

namespace Defines

theorem get?_eq_some_iff {defines : Defines} {name value : String} :
    defines.get? name = some value ↔ (name, value) ∈ defines.entries := by
  rw [get?, List.lookup_eq_some_iff]
  constructor
  · rintro ⟨before, after, split, -⟩
    rw [split]
    exact List.mem_append_right _ List.mem_cons_self
  · intro member
    obtain ⟨before, after, split⟩ := List.append_of_mem member
    refine ⟨before, after, split, ?_⟩
    have distinct := defines.distinct
    rw [split, List.map_append, List.nodup_append] at distinct
    intro entry earlier
    rw [bne_iff_ne]
    exact (distinct.2.2 _ (List.mem_map_of_mem earlier) name List.mem_cons_self).symm

/-- Values do not depend on the order of the entries. -/
theorem get?_of_perm {defines other : Defines} (perm : defines.entries.Perm other.entries)
    (name : String) : defines.get? name = other.get? name := by
  apply Option.ext
  intro value
  rw [get?_eq_some_iff, get?_eq_some_iff, perm.mem_iff]

end Defines

namespace SessionConfig

variable (config : SessionConfig)

theorem eq_of_entries {first second : SessionConfig}
    (others : first = { second with defines := first.defines })
    (entries : first.defines.entries = second.defines.entries) : first = second := by
  have defines : first.defines = second.defines := by
    cases listed : first.defines
    cases listedToo : second.defines
    rw [listed, listedToo] at entries
    subst entries
    rfl
  rw [others, defines]

theorem defineAll_defineAll (specs : List String) :
    (config.defineAll specs).defineAll specs = config.defineAll specs := by
  apply eq_of_entries ((config.defineAll specs).defineAll_eq specs)
  rw [entries_defineAll (config.defineAll specs), entries_defineAll config, List.filter_append,
    List.filter_filter, filter_lastOfEach, List.append_nil]
  simp only [Bool.and_self]

theorem perm_defineAll_swap {first second : String}
    (different : (DefineSpec.entry first).1 ≠ (DefineSpec.entry second).1)
    (before after : List String) :
    (config.defineAll (before ++ first :: second :: after)).defines.entries.Perm
      (config.defineAll (before ++ second :: first :: after)).defines.entries := by
  have specs : (before ++ first :: second :: after).Perm (before ++ second :: first :: after) :=
    (List.Perm.swap second first after).append_left before
  have names (name : String) :
      name ∈ ((before ++ first :: second :: after).map DefineSpec.entry).map Prod.fst ↔
        name ∈ ((before ++ second :: first :: after).map DefineSpec.entry).map Prod.fst :=
    ((specs.map DefineSpec.entry).map Prod.fst).mem_iff
  rw [entries_defineAll, entries_defineAll]
  simp only [names]
  apply List.Perm.append_left
  simp only [List.map_append, List.map_cons]
  exact lastOfEach_swap different ..

/-- Adding definitions: what is not defined again stays as it is and where it is, and behind it
come the new names, each once, in the order in which they come last and with their last values.  So
no name occurs twice, the same definitions once more change nothing, nothing else is changed, and
two neighbours with different names can be exchanged but for the order. -/
theorem defineAll_keeps_last (specs : List String) :
    ((config.defineAll specs).defines.entries =
        config.defines.entries.filter
            (fun entry => entry.1 ∉ (specs.map DefineSpec.entry).map Prod.fst) ++
          lastOfEach (specs.map DefineSpec.entry) ∧
      (∀ entry, entry ∈ lastOfEach (specs.map DefineSpec.entry) ↔
        ∃ before after, specs.map DefineSpec.entry = before ++ entry :: after ∧
          entry.1 ∉ after.map Prod.fst) ∧
      (lastOfEach (specs.map DefineSpec.entry)).Pairwise fun first second =>
        ∃ before between after,
          specs.map DefineSpec.entry = before ++ first :: (between ++ second :: after) ∧
          first.1 ∉ (between ++ second :: after).map Prod.fst ∧
          second.1 ∉ after.map Prod.fst) ∧
    (∀ spec : String,
      ('=' ∉ spec.toList ∧ DefineSpec.entry spec = (spec, "1")) ∨
        ∃ name value : List Char, spec.toList = name ++ '=' :: value ∧ '=' ∉ name ∧
          DefineSpec.entry spec = (String.ofList name, String.ofList value)) ∧
    ((config.defineAll specs).defines.entries.map Prod.fst).Nodup ∧
    (config.defineAll specs).defineAll specs = config.defineAll specs ∧
    config.defineAll specs = { config with defines := (config.defineAll specs).defines } ∧
    ∀ before first second after, specs = before ++ first :: second :: after →
      (DefineSpec.entry first).1 ≠ (DefineSpec.entry second).1 →
      (config.defineAll specs).defines.entries.Perm
          (config.defineAll (before ++ second :: first :: after)).defines.entries ∧
        ∀ name, (config.defineAll specs).defines.get? name =
          (config.defineAll (before ++ second :: first :: after)).defines.get? name := by
  refine ⟨⟨config.entries_defineAll specs, fun _ => mem_lastOfEach_iff, pairwise_lastOfEach _⟩,
    DefineSpec.entry_cases, (config.defineAll specs).defines.distinct,
    config.defineAll_defineAll specs, config.defineAll_eq specs, ?_⟩
  rintro before first second after rfl different
  have perm := config.perm_defineAll_swap different before after
  exact ⟨perm, Defines.get?_of_perm perm⟩

theorem defineAll_keeps_last_sample :
    let config : SessionConfig := { defines := .ofList [("A", "0"), ("K", "k")] }
    (DefineSpec.entry "A=x=y").1 ≠ (DefineSpec.entry "FLAG").1 ∧
      (config.defineAll ["A=1", "FLAG", "A=x=y"]).defines.entries =
        [("K", "k"), ("FLAG", "1"), ("A", "x=y")] ∧
      (config.defineAll ["A=1", "A=x=y", "FLAG"]).defines.entries =
        [("K", "k"), ("A", "x=y"), ("FLAG", "1")] ∧
      ∀ name, (config.defineAll ["A=1", "FLAG", "A=x=y"]).defines.get? name =
        (config.defineAll ["A=1", "A=x=y", "FLAG"]).defines.get? name := by
  intro config
  have different : (DefineSpec.entry "FLAG").1 ≠ (DefineSpec.entry "A=x=y").1 := by decide
  obtain ⟨-, -, -, -, -, exchanged⟩ := config.defineAll_keeps_last ["A=1", "FLAG", "A=x=y"]
  exact ⟨different.symm, by decide +kernel, by decide +kernel,
    (exchanged ["A=1"] "FLAG" "A=x=y" [] rfl different).2⟩

end SessionConfig

end CompileSession
