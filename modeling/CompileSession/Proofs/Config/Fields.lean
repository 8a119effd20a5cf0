import CompileSession.Proofs.Config.Decoding
import CompileSession.Proofs.Toml.Tables
import Mathlib.Data.List.Nodup

/-!
# Configurations, field by field

Every field of a configuration has a key.  What a table holds under the key of a field becomes the
content of the field, if it fits, and a field whose key is missing is what it is by default; the
order of the keys and other keys do not matter.  If the value of any field does not fit there is no
configuration, nor if there are to be no workers.
-/

namespace CompileSession

open Toml (WrittenPair writeHeader)

namespace SessionConfig

/-- A part of a configuration. -/
inductive Field where
  | mode
  | libPath
  | options
  | includePaths
  | sysincludePaths
  | libraryPaths
  | libraries
  | defines
  | workers
  | delivery

namespace Field

/-- The key of a field in a file. -/
def key : Field → String
  | mode => "mode"
  | libPath => "lib_path"
  | options => "options"
  | includePaths => "include_paths"
  | sysincludePaths => "sysinclude_paths"
  | libraryPaths => "library_paths"
  | libraries => "libraries"
  | defines => "defines"
  | workers => "workers"
  | delivery => "delivery"

/-- What a field holds. -/
abbrev Content : Field → Type
  | mode => OutputMode
  | libPath => Option Path
  | options => Option String
  | includePaths => List Path
  | sysincludePaths => List Path
  | libraryPaths => List Path
  | libraries => List String
  | defines => Defines
  | workers => UInt64
  | delivery => Delivery

def get : (field : Field) → SessionConfig → field.Content
  | mode, config => config.mode
  | libPath, config => config.libPath
  | options, config => config.options
  | includePaths, config => config.includePaths
  | sysincludePaths, config => config.sysincludePaths
  | libraryPaths, config => config.libraryPaths
  | libraries, config => config.libraries
  | defines, config => config.defines
  | workers, config => config.workers
  | delivery, config => config.delivery

def set : (field : Field) → SessionConfig → field.Content → SessionConfig
  | mode, config, content => { config with mode := content }
  | libPath, config, content => { config with libPath := content }
  | options, config, content => { config with options := content }
  | includePaths, config, content => { config with includePaths := content }
  | sysincludePaths, config, content => { config with sysincludePaths := content }
  | libraryPaths, config, content => { config with libraryPaths := content }
  | libraries, config, content => { config with libraries := content }
  | defines, config, content => { config with defines := content }
  | workers, config, content => { config with workers := content }
  | delivery, config, content => { config with delivery := content }

/-- The content of a field that a value stands for. -/
def Means : (field : Field) → field.Content → Toml.Value → Prop
  | mode, content, value => StandsForWord OutputMode.text content value
  | libPath, content, value => ∃ text, content = some (.ofText text) ∧ value = .string text
  | options, content, value => ∃ text, content = some text ∧ value = .string text
  | includePaths, content, value => IsPaths content value
  | sysincludePaths, content, value => IsPaths content value
  | libraryPaths, content, value => IsPaths content value
  | libraries, content, value => value = .array (content.map .string)
  | defines, content, value => StandsForDefines content value
  | workers, content, value => value = .integer content.toNat
  | delivery, content, value => StandsForWord Delivery.text content value
where
  /-- A value is a list of texts that are paths. -/
  IsPaths (paths : List Path) (value : Toml.Value) : Prop :=
    ∃ texts : List String, paths = texts.map .ofText ∧ value = .array (texts.map .string)

/-- A value can stand under the key of a field. -/
def Fits (field : Field) (value : Toml.Value) : Prop :=
  ∃ content, field.Means content value

/-- A value is of the kind that a field asks for, even if it may be out of range. -/
def HasShape : Field → Toml.Value → Prop
  | workers, value => ∃ number, value = .integer number
  | field, value => field.Fits value

/-- Where the content of a field comes from: a table has it under the field's key, or it does not
have the key and the content is the one given. -/
inductive ComesFrom (field : Field) (entries : Toml.Entries) (fallback : field.Content) :
    field.Content → Prop where
  | present {value : Toml.Value} {content : field.Content} : (field.key, value) ∈ entries →
      field.Means content value → ComesFrom field entries fallback content
  | absent : field.key ∉ entries.map Prod.fst → ComesFrom field entries fallback fallback

/-- The content of a field as a decoder finds it. -/
def decode : (field : Field) → Toml.Value → Except Misfit field.Content
  | mode, value => decodeEnum modeWords value
  | libPath, value => some <$> decodePath value
  | options, value => some <$> decodeText value
  | includePaths, value => decodeList decodePath value
  | sysincludePaths, value => decodeList decodePath value
  | libraryPaths, value => decodeList decodePath value
  | libraries, value => decodeList decodeText value
  | defines, value => decodeDefines value
  | workers, value => decodeCount value
  | delivery, value => decodeEnum deliveryWords value

theorem key_injective {field other : Field} (same : field.key = other.key) : field = other := by
  cases field <;> cases other <;> first | rfl | exact absurd same (by decide)

theorem get_set (field : Field) (config : SessionConfig) (content : field.Content) :
    field.get (field.set config content) = content := by
  cases field <;> rfl

theorem get_set_of_ne {field other : Field} (different : other ≠ field) (config : SessionConfig)
    (content : field.Content) : other.get (field.set config content) = other.get config := by
  cases field <;> cases other <;> first | rfl | exact absurd rfl different

theorem eq_of_get {first second : SessionConfig}
    (same : ∀ field : Field, field.get first = field.get second) : first = second := by
  obtain ⟨⟩ := first
  obtain ⟨⟩ := second
  congr 1
  · exact same mode
  · exact same libPath
  · exact same options
  · exact same includePaths
  · exact same sysincludePaths
  · exact same libraryPaths
  · exact same libraries
  · exact same defines
  · exact same workers
  · exact same delivery

/-- What a file leaves out is what a session is not told. -/
theorem get_missing (field : Field) : field.get {} = field.get SessionConfig.default := by
  cases field <;> rfl

theorem decode_eq_ok_iff {field : Field} {value : Toml.Value} (wellFormed : value.WellFormed)
    {content : field.Content} : field.decode value = .ok content ↔ field.Means content value := by
  have paths {value : Toml.Value} {paths : List Path} :
      decodeList decodePath value = .ok paths ↔ Means.IsPaths paths value :=
    decodeList_eq_ok_iff decodePath_eq_ok_iff
  cases field with
  | mode => exact decodeEnum_eq_ok_iff lookup_modeWords
  | delivery => exact decodeEnum_eq_ok_iff lookup_deliveryWords
  | libPath =>
      refine map_eq_ok_iff.trans ?_
      simp only [decodePath_eq_ok_iff, Means]
      constructor
      · rintro ⟨path, ⟨text, rfl, rfl⟩, rfl⟩
        exact ⟨text, rfl, rfl⟩
      · rintro ⟨text, rfl, rfl⟩
        exact ⟨.ofText text, ⟨text, rfl, rfl⟩, rfl⟩
  | options =>
      refine map_eq_ok_iff.trans ?_
      simp only [decodeText_eq_ok_iff, Means]
      exact exists_congr fun text => and_comm.trans (and_congr_left' eq_comm)
  | includePaths => exact paths
  | sysincludePaths => exact paths
  | libraryPaths => exact paths
  | libraries => exact decodeTexts_eq_ok_iff
  | defines => exact decodeDefines_eq_ok_iff wellFormed
  | workers => exact decodeCount_eq_ok_iff wellFormed

theorem fits_workers_iff {number : Int} :
    workers.Fits (.integer number) ↔ 0 ≤ number ∧ number < UInt64.size := by
  constructor
  · rintro ⟨count, means⟩
    obtain rfl : number = count.toNat := Toml.Value.integer.inj means
    have bound := count.toNat_lt_size
    constructor <;> omega
  · rintro ⟨low, high⟩
    have back : ((UInt64.ofNat number.toNat).toNat : Int) = number := by
      rw [UInt64.toNat_ofNat_of_lt' (by omega)]
      omega
    exact ⟨UInt64.ofNat number.toNat, congrArg Toml.Value.integer back.symm⟩

/-- The key of a field decides about the field alone. -/
theorem decodeEntry_key (field : Field) (config : SessionConfig) (value : Toml.Value) :
    decodeEntry config (field.key, value) = field.set config <$> field.decode value := by
  cases field <;> simp [decodeEntry, key, decode, set] <;> rfl

theorem decodeEntry_of_unknown {key : String} (unknown : ∀ field : Field, key ≠ field.key)
    (config : SessionConfig) (value : Toml.Value) :
    decodeEntry config (key, value) = .ok config := by
  have others : key ≠ "mode" ∧ key ≠ "lib_path" ∧ key ≠ "options" ∧ key ≠ "include_paths" ∧
      key ≠ "sysinclude_paths" ∧ key ≠ "library_paths" ∧ key ≠ "libraries" ∧ key ≠ "defines" ∧
      key ≠ "workers" ∧ key ≠ "delivery" :=
    ⟨unknown mode, unknown libPath, unknown options, unknown includePaths, unknown sysincludePaths,
      unknown libraryPaths, unknown libraries, unknown defines, unknown workers, unknown delivery⟩
  simp [decodeEntry, others, pure, Except.pure]

variable {field : Field} {entries : Toml.Entries} {fallback content : field.Content}

theorem ComesFrom.cases (source : field.ComesFrom entries fallback content) :
    (∃ value, (field.key, value) ∈ entries ∧ field.Means content value) ∨
      field.key ∉ entries.map Prod.fst ∧ content = fallback := by
  cases source with
  | present member means => exact .inl ⟨_, member, means⟩
  | absent missing => exact .inr ⟨missing, rfl⟩

theorem ComesFrom.of_missing (missing : field.key ∉ entries.map Prod.fst)
    (source : field.ComesFrom entries fallback content) : content = fallback := by
  cases source with
  | present member _ => exact absurd (List.mem_map_of_mem member) missing
  | absent => rfl

theorem ComesFrom.skip {entry : String × Toml.Value} (other : entry.1 ≠ field.key)
    (source : field.ComesFrom entries fallback content) :
    field.ComesFrom (entry :: entries) fallback content := by
  cases source with
  | present member means => exact .present (List.mem_cons_of_mem _ member) means
  | absent missing => exact .absent (List.not_mem_cons_of_ne_of_not_mem other.symm missing)

/-- A table says one thing about a field. -/
theorem ComesFrom.unique (keyed : Toml.Keyed Toml.Value.WellFormed entries)
    {other : field.Content} (source : field.ComesFrom entries fallback content)
    (again : field.ComesFrom entries fallback other) : content = other := by
  cases source with
  | absent missing => exact (again.of_missing missing).symm
  | @present value _ member means =>
      cases again with
      | absent missing => exact absurd (List.mem_map_of_mem member) missing
      | @present value' _ member' means' =>
          have same := List.inj_on_of_nodup_map keyed.distinct member member' rfl
          cases same
          have wellFormed := keyed.each _ member
          have decoded := (decode_eq_ok_iff wellFormed).mpr means
          rw [(decode_eq_ok_iff wellFormed).mpr means'] at decoded
          exact (Except.ok.inj decoded).symm

end Field

section Tables

variable {entries : Toml.Entries}

/-- If every value fits, the fields are taken over one after the other. -/
theorem foldlM_decodeEntry (keyed : Toml.Keyed Toml.Value.WellFormed entries)
    (fits : ∀ (field : Field) value, (field.key, value) ∈ entries → field.Fits value)
    (start : SessionConfig) :
    ∃ config, entries.foldlM decodeEntry start = .ok config ∧
      ∀ field : Field, field.ComesFrom entries (field.get start) (field.get config) := by
  induction entries generalizing start with
  | nil => exact ⟨start, rfl, fun _ => .absent List.not_mem_nil⟩
  | cons entry entries ih =>
      obtain ⟨key, value⟩ := entry
      obtain ⟨fresh, distinct⟩ := List.nodup_cons.mp keyed.distinct
      obtain ⟨wellFormed, each⟩ := List.forall_mem_cons.mp keyed.each
      have later := ih ⟨distinct, each⟩ fun field value member =>
        fits field value (List.mem_cons_of_mem _ member)
      by_cases known : ∃ named : Field, key = named.key
      · obtain ⟨named, rfl⟩ := known
        obtain ⟨content, means⟩ := fits named value List.mem_cons_self
        have now : decodeEntry start (named.key, value) = .ok (named.set start content) := by
          rw [Field.decodeEntry_key, (Field.decode_eq_ok_iff wellFormed).mpr means]
          rfl
        obtain ⟨config, decoded, sources⟩ := later (named.set start content)
        refine ⟨config, bind_eq_ok_iff.mpr ⟨_, now, decoded⟩, fun field => ?_⟩
        by_cases same : field = named
        · subst same
          rw [(sources field).of_missing fresh, Field.get_set]
          exact .present List.mem_cons_self means
        · have source := sources field
          rw [Field.get_set_of_ne same] at source
          exact source.skip fun keys => same (Field.key_injective keys.symm)
      · have unknown (field : Field) : key ≠ field.key := fun same => known ⟨field, same⟩
        obtain ⟨config, decoded, sources⟩ := later start
        refine ⟨config, bind_eq_ok_iff.mpr ⟨start, ?_, decoded⟩, fun field =>
          (sources field).skip (unknown field)⟩
        exact Field.decodeEntry_of_unknown unknown start value

/-- If the value of a field does not fit, something is reported. -/
theorem foldlM_decodeEntry_misfit (keyed : Toml.Keyed Toml.Value.WellFormed entries)
    {field : Field} {value : Toml.Value} (member : (field.key, value) ∈ entries)
    (misfit : ¬ field.Fits value) (start : SessionConfig) :
    ∃ cause, entries.foldlM decodeEntry start = .error cause := by
  cases decoded : entries.foldlM decodeEntry start with
  | error cause => exact ⟨cause, rfl⟩
  | ok config =>
      exfalso
      induction entries generalizing start with
      | nil => cases member
      | cons entry entries ih =>
          obtain ⟨next, now, later⟩ := bind_eq_ok_iff.mp decoded
          obtain ⟨wellFormed, each⟩ := List.forall_mem_cons.mp keyed.each
          rcases List.mem_cons.mp member with rfl | behind
          · rw [Field.decodeEntry_key] at now
            obtain ⟨content, read, -⟩ := map_eq_ok_iff.mp now
            exact misfit ⟨content, (Field.decode_eq_ok_iff wellFormed).mp read⟩
          · exact ih ⟨(List.nodup_cons.mp keyed.distinct).2, each⟩ behind next later

variable {text : String}

theorem parse_of_parse? (read : Toml.parse? text = some entries) :
    parse text = match decode entries with
      | .error cause => .error (.misfit cause)
      | .ok config =>
        if config.workers = 0 then .error (.invalid "workers must be at least 1")
        else .ok config := by
  cases decoded : decode entries with
  | error cause => simp only [parse, read, decoded]
  | ok config => simp only [parse, read, decoded]

/-- A document in which every value fits stands for a configuration, which has no workers only if
the document says so. -/
theorem parse_of_fits (read : Toml.parse? text = some entries)
    (fits : ∀ (field : Field) value, (field.key, value) ∈ entries → field.Fits value) :
    ∃ config : SessionConfig,
      (∀ field : Field, field.ComesFrom entries (field.get .default) (field.get config)) ∧
      (config.workers = 0 ↔ (Field.workers.key, .integer 0) ∈ entries) ∧
      parse text = if config.workers = 0 then .error (.invalid "workers must be at least 1")
        else .ok config := by
  have keyed := Toml.parse?_wellFormed read
  obtain ⟨config, decoded, sources⟩ := foldlM_decodeEntry keyed fits {}
  simp only [Field.get_missing] at sources
  have decodes : decode entries = .ok config := decoded
  refine ⟨config, sources, ⟨fun none => ?_, fun member => ?_⟩, ?_⟩
  · rcases (sources .workers).cases with ⟨value, member, means⟩ | ⟨-, default⟩
    · have zero : value = .integer config.workers.toNat := means
      rwa [zero, none] at member
    · have one : config.workers = 1 := default
      rw [none] at one
      cases one
  · exact (sources .workers).unique keyed (.present member rfl)
  · rw [parse_of_parse? read, decodes]

theorem parse_of_misfit (read : Toml.parse? text = some entries) {field : Field}
    {value : Toml.Value} (member : (field.key, value) ∈ entries) (misfit : ¬ field.Fits value) :
    ∃ cause, parse text = .error (.misfit cause) := by
  obtain ⟨cause, reported⟩ :=
    foldlM_decodeEntry_misfit (Toml.parse?_wellFormed read) member misfit {}
  have reports : decode entries = .error cause := reported
  exact ⟨cause, by rw [parse_of_parse? read, reports]⟩

theorem workers_of_parse {config : SessionConfig} (parsed : parse text = .ok config) :
    config.workers ≠ 0 := by
  unfold parse at parsed
  split at parsed
  · cases parsed
  · split at parsed
    · cases parsed
    · split at parsed
      · cases parsed
      case isFalse some =>
        cases parsed
        exact some

/-- What was taken for a configuration fits. -/
theorem fits_of_parse (read : Toml.parse? text = some entries) {config : SessionConfig}
    (parsed : parse text = .ok config) (field : Field) (value : Toml.Value)
    (member : (field.key, value) ∈ entries) : field.Fits value := by
  by_contra misfit
  obtain ⟨cause, reported⟩ := parse_of_misfit read member misfit
  rw [parsed] at reported
  cases reported

/-- Where all values are of the right kind, the number of workers decides. -/
theorem parse_of_shapes (read : Toml.parse? text = some entries)
    (shapes : ∀ (field : Field) value, (field.key, value) ∈ entries → field.HasShape value) :
    (∃ config, parse text = .ok config) ↔ ∀ value, (Field.workers.key, value) ∈ entries →
      ∃ number : Int, value = .integer number ∧ 1 ≤ number ∧ number < UInt64.size := by
  constructor
  · rintro ⟨config, parsed⟩ value member
    have fits := fits_of_parse read parsed
    obtain ⟨number, rfl⟩ := shapes .workers value member
    obtain ⟨low, high⟩ := Field.fits_workers_iff.mp (fits .workers _ member)
    obtain ⟨found, -, none, parsed'⟩ := parse_of_fits read fits
    have some : number ≠ 0 := by
      rintro rfl
      rw [parsed', if_pos (none.mpr member)] at parsed
      cases parsed
    exact ⟨number, rfl, by omega, high⟩
  · intro positive
    have fits (field : Field) (value : Toml.Value) (member : (field.key, value) ∈ entries) :
        field.Fits value := by
      cases field with
      | workers =>
          obtain ⟨number, rfl, low, high⟩ := positive value member
          exact Field.fits_workers_iff.mpr ⟨by omega, high⟩
      | _ => exact shapes _ value member
    obtain ⟨config, -, none, parsed⟩ := parse_of_fits read fits
    refine ⟨config, parsed.trans (if_neg fun zero => ?_)⟩
    obtain ⟨number, same, low, -⟩ := positive _ (none.mp zero)
    cases same
    omega

/-- A document as a configuration.  If the value of every field that it holds fits, each field is
what the document holds for it or else what it is by default, and nothing else is; that is a
configuration unless it has no workers.  Where all values are of the right kind this comes down to
the number of workers: it must be left out or positive.  If a value does not fit, that is reported
first. -/
theorem parse_reads_fields {text : String} (read : Toml.parse? text = some entries) :
    ((∀ (field : Field) value, (field.key, value) ∈ entries → field.Fits value) →
      ∃ config : SessionConfig,
        (∀ field : Field, field.ComesFrom entries (field.get .default) (field.get config)) ∧
        (∀ other : SessionConfig,
          (∀ field : Field, field.ComesFrom entries (field.get .default) (field.get other)) →
            other = config) ∧
        ((Field.workers.key, .integer 0) ∈ entries →
          parse text = .error (.invalid "workers must be at least 1")) ∧
        ((Field.workers.key, .integer 0) ∉ entries → parse text = .ok config)) ∧
    ((∀ (field : Field) value, (field.key, value) ∈ entries → field.HasShape value) →
      ((∃ config, parse text = .ok config) ↔ ∀ value, (Field.workers.key, value) ∈ entries →
        ∃ number : Int, value = .integer number ∧ 1 ≤ number ∧ number < UInt64.size)) ∧
    (∀ (field : Field) value, (field.key, value) ∈ entries → ¬ field.Fits value →
      ∃ cause, parse text = .error (.misfit cause)) ∧
    ∀ config, parse text = .ok config → config.workers ≠ 0 := by
  have keyed := Toml.parse?_wellFormed read
  refine ⟨fun fits => ?_, parse_of_shapes read, fun field value => parse_of_misfit read,
    fun config => workers_of_parse⟩
  obtain ⟨config, sources, none, parsed⟩ := parse_of_fits read fits
  refine ⟨config, sources, fun other others => ?_, fun member => ?_, fun missing => ?_⟩
  · exact Field.eq_of_get fun field => (others field).unique keyed (sources field)
  · rw [parsed, if_pos (none.mpr member)]
  · rw [parsed, if_neg (mt none.mp missing)]

end Tables

/-- The keys stand in an order of their own, one of them is unknown, and most are missing. -/
theorem parse_reads_fields_sample :
    let text := "workers = 3\ncolor = \"red\"\n\n[defines]\nB = \"2\"\nA = \"1\"\n"
    let entries : Toml.Entries := [("workers", .integer 3), ("color", .string "red"),
      ("defines", .table [("B", .string "2"), ("A", .string "1")])]
    Toml.parse? text = some entries ∧
      (∀ (field : Field) value, (field.key, value) ∈ entries → field.Fits value) ∧
      parse text = .ok { SessionConfig.default with
        workers := 3, defines := .ofList [("B", "2"), ("A", "1")] } := by
  intro text entries
  let pairs : List WrittenPair := [.number "workers" 3 (by decide), .string "color" "red"]
  let inner : List WrittenPair := [.string "B" "2", .string "A" "1"]
  have written : text.toList = pairs.flatMap WrittenPair.text ++
      (writeHeader "defines" ++ inner.flatMap WrittenPair.text) := by
    decide
  have read : Toml.parse? text = some entries := by
    have read := Toml.parse?_written (show (pairs.map WrittenPair.key).Nodup by decide)
      (show "defines" ∉ pairs.map WrittenPair.key by decide)
      (show (inner.map WrittenPair.key).Nodup by decide)
    rwa [← written, String.ofList_toList] at read
  have workers : Field.workers.Means (3 : UInt64) (.integer 3) := rfl
  have defines : Field.defines.Means (.ofList [("B", "2"), ("A", "1")])
      (.table [("B", .string "2"), ("A", .string "1")]) :=
    .table
  have fits (field : Field) (value : Toml.Value) (member : (field.key, value) ∈ entries) :
      field.Fits value := by
    cases field with
    | workers =>
        have same : value = .integer 3 := by simpa [entries, Field.key] using member
        exact ⟨_, same ▸ workers⟩
    | defines =>
        have same : value = .table [("B", .string "2"), ("A", .string "1")] := by
          simpa [entries, Field.key] using member
        exact ⟨_, same ▸ defines⟩
    | _ => simp [entries, Field.key] at member
  have missing : (Field.workers.key, Toml.Value.integer 0) ∉ entries := by
    simp [entries, Field.key]
  obtain ⟨config, -, unique, -, parsed⟩ := (parse_reads_fields read).1 fits
  refine ⟨read, fits, (parsed missing).trans (congrArg Except.ok (unique _ fun field => ?_).symm)⟩
  cases field with
  | workers => exact .present (by simp [entries, Field.key]) workers
  | defines => exact .present (by simp [entries, Field.key]) defines
  | _ => exact .absent (by decide)

/-- A date under the key of the definitions is not a table, and yet it stands for one, with a name
that nobody has chosen. -/
theorem parse_date_as_definitions :
    Toml.parse? "defines = 1979-05-27" = some [("defines", .datetime "1979-05-27")] ∧
      (∀ entries, Toml.Value.datetime "1979-05-27" ≠ .table entries) ∧
      parse "defines = 1979-05-27" = .ok { SessionConfig.default with
        defines := .ofList [("$__toml_private_datetime", "1979-05-27")] } := by
  have skip : Toml.skipBlanks false "defines = 1979-05-27".toList =
      some "defines = 1979-05-27".toList := rfl
  have line : Toml.readLine "defines = 1979-05-27".toList =
      some (.keyValue [] "defines" (.datetime "1979-05-27"), []) := rfl
  have lines : Toml.readLines "defines = 1979-05-27".toList =
      some [.keyValue [] "defines" (.datetime "1979-05-27")] := by
    rw [Toml.readLines_cons skip (by simp) line (by simp), Toml.readLines_nil]
    rfl
  have mark : Toml.dropByteOrderMark "defines = 1979-05-27".toList =
      "defines = 1979-05-27".toList := rfl
  have read : Toml.parse? "defines = 1979-05-27" =
      some [("defines", .datetime "1979-05-27")] := by
    rw [Toml.parse?, mark, lines]
    rfl
  refine ⟨read, fun entries same => ?_, ?_⟩
  · cases same
  · rw [parse_of_parse? read]
    rfl

end SessionConfig

end CompileSession
