import CompileSession.Config.Store
import CompileSession.Proofs.Config.Decoding
import CompileSession.Proofs.Files
import CompileSession.Proofs.Toml.Tables
import Mathlib.Algebra.Group.Nat.Defs

/-!
# Configurations are read as they were written

A configuration whose paths are text and whose number of workers is an integer of TOML has a text,
and that text stands for the same configuration: the same strings, the same lists, and the same
definitions in the same order.  Any other configuration is refused before a file is touched.
-/

namespace CompileSession

open Toml (WrittenPair writeHeader)

/-- Definitions as the pairs of a table. -/
def Defines.pairs (defines : Defines) : List WrittenPair :=
  defines.entries.map fun entry => .string entry.1 entry.2

namespace SessionConfig

section Writing

theorem pathTexts?_ofText (texts : List String) :
    pathTexts? (texts.map Path.ofText) = some (texts.map String.toList) := by
  have each : (fun path : Path => path.text?.map String.toList) ∘ Path.ofText =
      fun text => pure text.toList := by
    funext text
    simp [Path.text?_ofText]
  rw [pathTexts?, List.mapM_map, each, List.mapM_pure]
  rfl

theorem exists_texts_iff (paths : List Path) :
    (∃ texts : List String, paths = texts.map Path.ofText) ↔
      ∀ path ∈ paths, ∃ text, path = Path.ofText text := by
  induction paths with
  | nil => simp
  | cons path paths ih =>
      rw [List.forall_mem_cons, ← ih]
      constructor
      · rintro ⟨_ | ⟨text, texts⟩, same⟩
        · cases same
        · obtain ⟨rfl, rfl⟩ := List.cons.inj same
          exact ⟨⟨text, rfl⟩, texts, rfl⟩
      · rintro ⟨⟨text, rfl⟩, texts, rfl⟩
        exact ⟨text :: texts, rfl⟩

theorem exists_texts_of_pathTexts? {paths : List Path} {written : List (List Char)}
    (spelled : pathTexts? paths = some written) :
    ∃ texts : List String, paths = texts.map Path.ofText := by
  rw [exists_texts_iff]
  induction paths generalizing written with
  | nil => exact List.forall_mem_nil _
  | cons path paths ih =>
      rw [pathTexts?, List.mapM_cons] at spelled
      obtain ⟨first, here, spelled⟩ := Option.bind_eq_some_iff.mp spelled
      obtain ⟨more, later, -⟩ := Option.bind_eq_some_iff.mp spelled
      obtain ⟨text, here, -⟩ := Option.map_eq_some_iff.mp here
      exact List.forall_mem_cons.mpr ⟨⟨text, (Path.ofText_of_text? here).symm⟩, ih later⟩

/-- The texts of a configuration's paths, and that its number of workers is an integer of TOML. -/
structure Spelling (config : SessionConfig) where
  libPath : Option String
  includePaths : List String
  sysincludePaths : List String
  libraryPaths : List String
  spells_libPath : config.libPath = libPath.map Path.ofText
  spells_includePaths : config.includePaths = includePaths.map Path.ofText
  spells_sysincludePaths : config.sysincludePaths = sysincludePaths.map Path.ofText
  spells_libraryPaths : config.libraryPaths = libraryPaths.map Path.ofText
  fits : config.workers.toNat < Nat.pow 2 63

namespace Spelling

variable {config : SessionConfig} (spelling : Spelling config)

/-- The plain keys of a configuration. -/
def pairs : List WrittenPair :=
  .string "mode" config.mode.text ::
    (spelling.libPath.toList.map (.string "lib_path") ++
      config.options.toList.map (.string "options") ++
      [.array "include_paths" spelling.includePaths,
        .array "sysinclude_paths" spelling.sysincludePaths,
        .array "library_paths" spelling.libraryPaths,
        .array "libraries" config.libraries,
        .number "workers" config.workers.toNat spelling.fits,
        .string "delivery" config.delivery.text])

theorem render?_eq : config.render? =
    some (String.ofList (spelling.pairs.flatMap WrittenPair.text ++
      (writeHeader "defines" ++ config.defines.pairs.flatMap WrittenPair.text))) := by
  have optional (key : String) (text : Option String) :
      optionalPair key text =
        (text.toList.map (WrittenPair.string key)).flatMap WrittenPair.text := by
    cases text with
    | none => rfl
    | some text => exact (List.append_nil _).symm
  have libPath : optionalPathText? config.libPath = some spelling.libPath := by
    rw [spelling.spells_libPath]
    cases spelling.libPath with
    | none => rfl
    | some text => simp [optionalPathText?, Path.text?_ofText]
  have few : ¬ greatestInteger < config.workers.toNat :=
    Nat.not_lt.mpr (Nat.le_sub_one_of_lt spelling.fits)
  have header : "\n[defines]\n".toList = writeHeader "defines" := by decide
  have definitions : definesTable config.defines =
      writeHeader "defines" ++ config.defines.pairs.flatMap WrittenPair.text := by
    rw [← header, Defines.pairs, List.flatMap_map]
    rfl
  simp only [render?, libPath, spelling.spells_includePaths, spelling.spells_sysincludePaths,
    spelling.spells_libraryPaths, pathTexts?_ofText, bind, Option.bind, if_neg few, optional,
    definitions, pairs, List.flatMap_cons, List.flatMap_append, List.flatMap_nil,
    List.append_nil, List.append_assoc]
  rfl

/-- Whether a configuration can be written. -/
theorem nonempty_iff (config : SessionConfig) :
    Nonempty (Spelling config) ↔
      (∀ path ∈ config.paths, ∃ text, path = Path.ofText text) ∧
        config.workers.toNat ≤ 2 ^ 63 - 1 := by
  have single (path : Option Path) : (∃ text : Option String, path = text.map Path.ofText) ↔
      ∀ named ∈ path.toList, ∃ text, named = Path.ofText text := by
    cases path with
    | none => exact ⟨fun _ => List.forall_mem_nil _, fun _ => ⟨none, rfl⟩⟩
    | some path =>
        simp only [Option.toList_some, List.forall_mem_singleton]
        constructor
        · rintro ⟨_ | text, same⟩
          · cases same
          · exact ⟨text, Option.some.inj same⟩
        · rintro ⟨text, rfl⟩
          exact ⟨some text, rfl⟩
  rw [paths]
  simp only [List.forall_mem_append, ← single, ← exists_texts_iff]
  constructor
  · rintro ⟨spelling⟩
    exact ⟨⟨⟨⟨⟨_, spelling.spells_libPath⟩, _, spelling.spells_includePaths⟩, _,
      spelling.spells_sysincludePaths⟩, _, spelling.spells_libraryPaths⟩,
      Nat.le_sub_one_of_lt spelling.fits⟩
  · rintro ⟨⟨⟨⟨⟨libPath, spellsLib⟩, includePaths, spellsInclude⟩, sysincludePaths,
      spellsSysinclude⟩, libraryPaths, spellsLibrary⟩, few⟩
    exact ⟨⟨libPath, includePaths, sysincludePaths, libraryPaths, spellsLib, spellsInclude,
      spellsSysinclude, spellsLibrary, Nat.lt_of_le_pred (Nat.two_pow_pos 63) few⟩⟩

theorem of_render? {config : SessionConfig} {text : String}
    (rendered : config.render? = some text) : Nonempty (Spelling config) := by
  simp only [render?] at rendered
  obtain ⟨libPath, lib, rendered⟩ := Option.bind_eq_some_iff.mp rendered
  obtain ⟨includePaths, included, rendered⟩ := Option.bind_eq_some_iff.mp rendered
  obtain ⟨sysincludePaths, sysincluded, rendered⟩ := Option.bind_eq_some_iff.mp rendered
  obtain ⟨libraryPaths, libraries, rendered⟩ := Option.bind_eq_some_iff.mp rendered
  split at rendered
  · cases rendered
  case isFalse few =>
    obtain ⟨includePaths, included⟩ := exists_texts_of_pathTexts? included
    obtain ⟨sysincludePaths, sysincluded⟩ := exists_texts_of_pathTexts? sysincluded
    obtain ⟨libraryPaths, libraries⟩ := exists_texts_of_pathTexts? libraries
    have lib : config.libPath = libPath.map Path.ofText := by
      cases named : config.libPath with
      | none =>
          rw [named] at lib
          cases lib
          rfl
      | some path =>
          rw [named] at lib
          obtain ⟨text, spelled, rfl⟩ := Option.map_eq_some_iff.mp lib
          exact congrArg some (Path.ofText_of_text? spelled).symm
    exact ⟨⟨libPath, includePaths, sysincludePaths, libraryPaths, lib, included, sysincluded,
      libraries, Nat.lt_of_le_pred (Nat.two_pow_pos 63) (Nat.not_lt.mp few)⟩⟩

end Spelling

theorem isSome_render?_iff (config : SessionConfig) :
    config.render?.isSome ↔ Nonempty (Spelling config) := by
  constructor
  · intro rendered
    obtain ⟨text, rendered⟩ := Option.isSome_iff_exists.mp rendered
    exact Spelling.of_render? rendered
  · rintro ⟨spelling⟩
    rw [spelling.render?_eq]
    rfl

end Writing

section Reading

theorem decodeEnum_mode (mode : OutputMode) :
    decodeEnum modeWords (.string mode.text) = .ok mode :=
  (decodeEnum_eq_ok_iff lookup_modeWords).mpr .string

theorem decodeEnum_delivery (delivery : Delivery) :
    decodeEnum deliveryWords (.string delivery.text) = .ok delivery :=
  (decodeEnum_eq_ok_iff lookup_deliveryWords).mpr .string

theorem decodeList_paths (texts : List String) :
    decodeList decodePath (.array (texts.map .string)) = .ok (texts.map Path.ofText) :=
  (decodeList_eq_ok_iff decodePath_eq_ok_iff).mpr ⟨texts, rfl, rfl⟩

theorem decodeList_texts (texts : List String) :
    decodeList decodeText (.array (texts.map .string)) = .ok texts :=
  decodeTexts_eq_ok_iff.mpr rfl

theorem decodeCount_toNat (count : UInt64) : decodeCount (.integer count.toNat) = .ok count := by
  simp [decodeCount]

theorem decodeDefines_table (defines : Defines) :
    decodeDefines (.table (defines.pairs.map WrittenPair.entry)) = .ok defines := by
  rw [Defines.pairs, List.map_map]
  exact decodeDefines_entries defines

variable {config : SessionConfig} (spelling : Spelling config)

theorem Spelling.decode_pairs :
    decode (spelling.pairs.map WrittenPair.entry ++
      [("defines", .table (config.defines.pairs.map WrittenPair.entry))]) = .ok config := by
  have mode (c : SessionConfig) : decodeEntry c ("mode", .string config.mode.text) =
      .ok { c with mode := config.mode } := by
    simp [decodeEntry, decodeEnum_mode]
  have libPath :
      ((spelling.libPath.toList.map (.string "lib_path")).map WrittenPair.entry).foldlM decodeEntry
          { mode := config.mode } =
        .ok { mode := config.mode, libPath := config.libPath } := by
    rw [spelling.spells_libPath]
    cases spelling.libPath <;> rfl
  have options :
      ((config.options.toList.map (.string "options")).map WrittenPair.entry).foldlM decodeEntry
          { mode := config.mode, libPath := config.libPath } =
        .ok { mode := config.mode, libPath := config.libPath, options := config.options } := by
    cases config.options <;> rfl
  have includePaths (c : SessionConfig) :
      decodeEntry c ("include_paths", .array (spelling.includePaths.map .string)) =
        .ok { c with includePaths := config.includePaths } := by
    simp [decodeEntry, decodeList_paths, spelling.spells_includePaths]
  have sysincludePaths (c : SessionConfig) :
      decodeEntry c ("sysinclude_paths", .array (spelling.sysincludePaths.map .string)) =
        .ok { c with sysincludePaths := config.sysincludePaths } := by
    simp [decodeEntry, decodeList_paths, spelling.spells_sysincludePaths]
  have libraryPaths (c : SessionConfig) :
      decodeEntry c ("library_paths", .array (spelling.libraryPaths.map .string)) =
        .ok { c with libraryPaths := config.libraryPaths } := by
    simp [decodeEntry, decodeList_paths, spelling.spells_libraryPaths]
  have libraries (c : SessionConfig) :
      decodeEntry c ("libraries", .array (config.libraries.map .string)) =
        .ok { c with libraries := config.libraries } := by
    simp [decodeEntry, decodeList_texts]
  have defines (c : SessionConfig) :
      decodeEntry c ("defines", .table (config.defines.pairs.map WrittenPair.entry)) =
        .ok { c with defines := config.defines } := by
    simp [decodeEntry, decodeDefines_table]
  have workers (c : SessionConfig) :
      decodeEntry c ("workers", .integer config.workers.toNat) =
        .ok { c with workers := config.workers } := by
    simp [decodeEntry, decodeCount_toNat]
  have delivery (c : SessionConfig) :
      decodeEntry c ("delivery", .string config.delivery.text) =
        .ok { c with delivery := config.delivery } := by
    simp [decodeEntry, decodeEnum_delivery]
  simp only [decode, pairs, List.map_cons, List.map_append, List.map_nil, List.foldlM_append,
    List.foldlM_cons, List.foldlM_nil, WrittenPair.entry_string, WrittenPair.entry_array,
    WrittenPair.entry_number, mode, libPath, options, includePaths, sysincludePaths, libraryPaths,
    libraries, workers, delivery, defines, bind, Except.bind]
  rfl

theorem Spelling.keys_distinct :
    (spelling.pairs.map WrittenPair.key).Nodup ∧
      "defines" ∉ spelling.pairs.map WrittenPair.key := by
  have keys : spelling.pairs.map WrittenPair.key =
      "mode" :: (spelling.libPath.toList.map fun _ => "lib_path") ++
        (config.options.toList.map fun _ => "options") ++
        ["include_paths", "sysinclude_paths", "library_paths", "libraries", "workers",
          "delivery"] := by
    simp [pairs, WrittenPair.string, WrittenPair.array, WrittenPair.number, Function.comp_def]
  rw [keys]
  cases spelling.libPath <;> cases config.options <;> simp

/-- The text of a configuration stands for it, unless it has no workers. -/
theorem parse_of_render? {text : String} (rendered : config.render? = some text) :
    parse text =
      if config.workers = 0 then .error (.invalid "workers must be at least 1")
      else .ok config := by
  obtain ⟨spelling⟩ := Spelling.of_render? rendered
  have names : config.defines.pairs.map WrittenPair.key = config.defines.entries.map Prod.fst := by
    rw [Defines.pairs, List.map_map]
    rfl
  obtain ⟨distinct, fresh⟩ := spelling.keys_distinct
  have read := Toml.parse?_written distinct fresh (names ▸ config.defines.distinct)
  rw [spelling.render?_eq] at rendered
  rw [Option.some.inj rendered] at read
  simp only [parse, read, spelling.decode_pairs]

end Reading

section Files

variable {config : SessionConfig} {files changed : FileTree} {path : Path}

/-- The directories above a file are there or can be made. -/
def Reachable (files : FileTree) (path : Path) : Prop :=
  ∀ directory, path.parent? = some directory →
    (files.createDirectories directory.bytes.length directory).1 = .ok ()

/-- The tree after the directories above a file were made, as far as that was possible. -/
def readied (files : FileTree) (path : Path) : FileTree :=
  match path.parent? with
  | none => files
  | some directory => (files.createDirectories directory.bytes.length directory).2

/-- Where the directories are there or can be made, what is left to do is to write the file. -/
theorem save_of_reachable (reachable : Reachable files path) :
    save files path config = save.writeFile path config (readied files path) := by
  unfold save readied
  cases parent : path.parent? with
  | none => rfl
  | some directory =>
      have made := reachable directory parent
      dsimp only
      split
      case h_1 same =>
        rw [same] at made
        cases made
      case h_2 same => rw [same]

theorem save_of_render?_none (none : config.render? = none) (reachable : Reachable files path) :
    save files path config = (.error .serialize, readied files path) := by
  rw [save_of_reachable reachable]
  simp only [save.writeFile, none]

/-- A configuration that has a text is saved by writing the bytes of that text. -/
theorem save_of_render?_some {text : String} (rendered : config.render? = some text)
    (reachable : Reachable files path) :
    save files path config =
      match (readied files path).write path (Text.encode text) with
      | .ok changed => (.ok (), changed)
      | .error error => (.error (.io path error), readied files path) := by
  rw [save_of_reachable reachable]
  simp only [save.writeFile, rendered]
  cases (readied files path).write path (Text.encode text) <;> rfl

theorem save_ne_serialize {text : String} (rendered : config.render? = some text)
    (files : FileTree) (path : Path) : (save files path config).1 ≠ .error .serialize := by
  have written (files : FileTree) : (save.writeFile path config files).1 ≠ .error .serialize := by
    simp only [save.writeFile, rendered]
    cases files.write path (Text.encode text) <;> exact nofun
  unfold save
  split
  case h_1 => exact written files
  case h_2 =>
    split
    case h_1 => exact nofun
    case h_2 => exact written _

/-- A configuration that cannot be written leaves a file as it is. -/
theorem save_existing (none : config.render? = none) {content : List UInt8}
    (read : files.readBytes path = .ok content) :
    save files path config = (.error .serialize, files) := by
  unfold save
  split
  case h_1 => simp only [save.writeFile, none]
  case h_2 directory parent =>
    rw [FileTree.createDirectories_parent read parent]
    simp only [save.writeFile, none]

/-- What was saved is loaded. -/
theorem load_save (saved : save files path config = (.ok (), changed)) :
    ∃ text, config.render? = some text ∧ load changed path = parse text := by
  have written (files : FileTree) (saved : save.writeFile path config files = (.ok (), changed)) :
      ∃ text, config.render? = some text ∧ load changed path = parse text := by
    simp only [save.writeFile] at saved
    split at saved
    case h_1 => cases saved
    case h_2 text rendered =>
      split at saved
      case h_1 => cases saved
      case h_2 written =>
        cases saved
        have read := FileTree.readBytes_write written
        refine ⟨text, rendered, ?_⟩
        simp [load, FileTree.readText, read, Text.decode?_encode, bind, Except.bind]
  unfold save at saved
  split at saved
  case h_1 => exact written _ saved
  case h_2 =>
    split at saved
    case h_1 => cases saved
    case h_2 => exact written _ saved

end Files

/-- A configuration has a text if and only if its paths are texts and its workers fit into a signed
number.  If it has none, it is not saved, and a file that is there stays as it is.  If it has one,
the bytes of that are what is saved, and the configuration is read from them as it was, but for one
without workers, which is refused. -/
theorem round_trips (config : SessionConfig) :
    (config.render?.isSome ↔
      (∀ path ∈ config.paths, ∃ text, path = Path.ofText text) ∧
        config.workers.toNat ≤ 2 ^ 63 - 1) ∧
    (config.render? = none → ∀ files path,
      (Reachable files path →
        save files path config = (.error .serialize, readied files path)) ∧
      ∀ content, files.readBytes path = .ok content →
        save files path config = (.error .serialize, files)) ∧
    (∀ text, config.render? = some text →
      (∀ files path, (save files path config).1 ≠ .error .serialize ∧
        (Reachable files path → save files path config =
          match (readied files path).write path (Text.encode text) with
          | .ok changed => (.ok (), changed)
          | .error error => (.error (.io path error), readied files path))) ∧
      parse text =
        if config.workers = 0 then .error (.invalid "workers must be at least 1")
        else .ok config) ∧
    ∀ files path changed, save files path config = (.ok (), changed) →
      load changed path =
        if config.workers = 0 then .error (.invalid "workers must be at least 1")
        else .ok config := by
  refine ⟨(isSome_render?_iff config).trans (Spelling.nonempty_iff config), ?_, ?_, ?_⟩
  · exact fun none files path =>
      ⟨save_of_render?_none none, fun content read => save_existing none read⟩
  · intro text rendered
    refine ⟨fun files path => ⟨?_, ?_⟩, parse_of_render? rendered⟩
    · exact save_ne_serialize rendered files path
    · exact save_of_render?_some rendered
  · intro files path changed saved
    obtain ⟨text, rendered, loaded⟩ := load_save saved
    rw [loaded, parse_of_render? rendered]

/-- A configuration whose strings take quotes of every kind. -/
def quotable : SessionConfig where
  options := some ""
  includePaths := [.ofText "C:\\include", .ofText "\x7fé"]
  libraries := ["it\x27s \"m\"", "\x27\x27\x27\"\"\"\n\\"]
  defines := Defines.ofList [("", "\r\n"), ("a b", "\x00"), ("A", "1")]
  workers := 3

/-- A tree with nothing in it but the file `a`. -/
def oneFile : FileTree := ⟨[([[0x61]], .file [0x62])], []⟩

theorem round_trips_sample :
    (∃ text changed, quotable.render? = some text ∧
      save oneFile (.ofText "new/c.toml") quotable = (.ok (), changed) ∧
      changed.readBytes (.ofText "new/c.toml") = .ok (Text.encode text) ∧
      changed.readBytes (.ofText "a") = .ok [0x62] ∧
      load changed (.ofText "new/c.toml") = .ok quotable) ∧
    (∃ text, ({ workers := 0 } : SessionConfig).render? = some text ∧
      parse text = .error (.invalid "workers must be at least 1")) ∧
    save oneFile (.ofText "a") { libPath := some ⟨[0xFF]⟩ } = (.error .serialize, oneFile) := by
  refine ⟨?_, ?_, ?_⟩
  · have paths : ∀ path ∈ quotable.paths, ∃ text, path = Path.ofText text := by
      simp [SessionConfig.paths, quotable]
    obtain ⟨text, rendered⟩ :=
      Option.isSome_iff_exists.mp ((round_trips quotable).1.mpr ⟨paths, by decide⟩)
    have reachable : Reachable oneFile (.ofText "new/c.toml") := by
      rintro directory ⟨⟩
      rfl
    have saved := (((round_trips quotable).2.2.1 text rendered).1 oneFile _).2 reachable
    exact ⟨text, _, rendered, saved, rfl, rfl, (round_trips quotable).2.2.2 _ _ _ saved⟩
  · obtain ⟨text, rendered⟩ := Option.isSome_iff_exists.mp
      ((round_trips { workers := 0 }).1.mpr ⟨List.forall_mem_nil _, by decide⟩)
    exact ⟨text, rendered, ((round_trips { workers := 0 }).2.2.1 text rendered).2⟩
  · exact ((round_trips { libPath := some ⟨[0xFF]⟩ }).2.1 rfl _ _).2 [0x62] rfl

end SessionConfig

end CompileSession
