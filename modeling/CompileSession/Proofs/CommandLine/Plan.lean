import CompileSession.Proofs.CommandLine.Async
import CompileSession.Proofs.CommandLine.Spelling
import CompileSession.Proofs.Program.Plan

/-!
# From the command line to the library

The configuration file, what the arguments add to it and the file that is to be run decide which
native calls a run makes and in which order, up to the first one that fails.
-/

namespace CompileSession

open Native

namespace CommandLine

variable {items : List Item} {words : List String}

/-- The text that an item carries. -/
def Item.text? : Item → Option String
  | .positional text | .value _ text => some text
  | _ => none

/-- No item carries a zero byte if no argument does. -/
theorem Spelled.plain (spelled : Spelled items words)
    (plain : ∀ word ∈ words, 0 ∉ Text.encode word) :
    ∀ item ∈ items, ∀ text ∈ item.text?, 0 ∉ Text.encode text := by
  induction spelled with
  | nil => exact List.forall_mem_nil _
  | bare texts =>
      rintro _ member text carried
      obtain ⟨_, among, rfl⟩ := List.mem_map.mp member
      cases carried
      exact plain _ (List.mem_cons_of_mem _ among)
  | positional _ _ ih =>
      obtain ⟨first, others⟩ := List.forall_mem_cons.mp plain
      refine List.forall_mem_cons.mpr ⟨?_, ih others⟩
      rintro _ ⟨⟩
      exact first
  | separate _ _ _ ih =>
      obtain ⟨-, first, others⟩ := List.forall_mem_cons.mp plain |>.imp_right
        List.forall_mem_cons.mp
      refine List.forall_mem_cons.mpr ⟨?_, ih others⟩
      rintro _ ⟨⟩
      exact first
  | equals _ _ ih =>
      obtain ⟨first, others⟩ := List.forall_mem_cons.mp plain
      refine List.forall_mem_cons.mpr ⟨?_, ih others⟩
      rintro _ ⟨⟩
      simp only [Text.zero_mem_encode_iff, String.toList_append, List.mem_append, not_or]
        at first ⊢
      exact first.2
  | joined _ _ _ _ ih =>
      obtain ⟨first, others⟩ := List.forall_mem_cons.mp plain
      refine List.forall_mem_cons.mpr ⟨?_, ih others⟩
      rintro _ ⟨⟩
      simp only [Text.zero_mem_encode_iff, String.toList_append, List.mem_append, not_or]
        at first ⊢
      exact first.2

/-- A configuration with what the arguments of a run add to it, macros apart. -/
def CompileArguments.extend (arguments : CompileArguments) (config : SessionConfig) :
    SessionConfig :=
  { config with
    mode := .execute
    libPath := arguments.libPath <|> config.libPath
    includePaths := config.includePaths ++ arguments.includePaths
    libraryPaths := config.libraryPaths ++ arguments.libraryPaths
    libraries := config.libraries ++ arguments.libraries }

variable {surroundings : Surroundings} {arguments : CompileArguments} {config : SessionConfig}

/-- The definitions of a run: those of the configuration whose names the arguments leave alone, and
then each name of the arguments once, where it was given last and with the value given last. -/
def definitions (config : SessionConfig) (specs : List String) : List (String × String) :=
  config.defines.entries.filter
      (fun entry => entry.1 ∉ (specs.map DefineSpec.entry).map Prod.fst) ++
    lastOfEach (specs.map DefineSpec.entry)

/-- The native calls that a run makes if none of them fails, up to the one that adds the file. -/
def plan (context : Address) (dynamicLinking : Bool) (config : SessionConfig)
    (arguments : CompileArguments) (file : Path) : List Demand :=
  Program.openingDemands context .execute dynamicLinking ++
    (arguments.extend config).settingDemands context ++
    SessionConfig.definitionDemands context (definitions config arguments.defines) ++
    [⟨.addFile context (.ofBytes file.bytes)⟩]

end CommandLine

end CompileSession
