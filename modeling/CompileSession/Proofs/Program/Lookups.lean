import CompileSession.Proofs.Program.Ending

/-!
# Looking symbols up in a file

The names are looked up only in a file that was compiled and relocated, each of them once and in
order, whether or not the ones before were found.  A file that cannot be compiled is not relocated,
and where one of the two fails no name is looked up.
-/

namespace CompileSession

open Native

namespace Native.Binding

variable {ν : Type} (binding : Binding) (code : ForeignCode ν) (before : Plant ν)

/-- Looking up a name that holds no zero byte is one native call, and its address is the answer. -/
theorem translate_getSymbol {name : String} (plain : 0 ∉ Text.encode name) :
    binding.translate code (.getSymbol name) before =
      let native := NativeCall.getSymbol binding.context ⟨Text.encode name, plain⟩
      let performed := before.perform code binding.library.image native
      (SymbolHandle.ofAddress? performed.1, [⟨native, performed.1⟩], performed.2) := by
  simp only [translate, script, Call.script, Script.onText, dif_neg plain]
  rfl

/-- Relocating is one native call, and its code is the answer. -/
theorem translate_relocate :
    binding.translate code .relocate before =
      let native := NativeCall.relocate binding.context NativeCall.anyPlace
      let performed := before.perform code binding.library.image native
      (⟨performed.1⟩, [⟨native, performed.1⟩], performed.2) :=
  rfl

end Native.Binding

namespace Program

/-- What is said about a name for which an address was given; zero stands for none. -/
def resolution (name : String) (address : Address) : Except SessionError SymbolHandle :=
  match SymbolHandle.ofAddress? address with
  | some handle => .ok handle
  | none => .error (.symbolNotFound name)

/-- The native calls with which names are looked up one after the other, and the addresses that
they give. -/
inductive LookedUp (context : Address) : List String → List Address → List Exchange → Prop where
  | nil : LookedUp context [] [] []
  | asked {name : String} {text : CText} {address : Address} {names : List String}
      {addresses : List Address} {made : List Exchange} :
      text.bytes = Text.encode name → LookedUp context names addresses made →
      LookedUp context (name :: names) (address :: addresses)
        (⟨.getSymbol context text, address⟩ :: made)
  /-- No library is asked for a name that holds a zero byte. -/
  | refused {name : String} {names : List String} {addresses : List Address}
      {made : List Exchange} :
      0 ∈ Text.encode name → LookedUp context names addresses made →
      LookedUp context (name :: names) (0 :: addresses) made

theorem LookedUp.length_eq {context : Address} {names : List String} {addresses : List Address}
    {made : List Exchange} (lookedUp : LookedUp context names addresses made) :
    addresses.length = names.length := by
  induction lookedUp with
  | nil => rfl
  | asked _ _ ih | refused _ _ ih => exact congrArg (· + 1) ih

/-- What is asked of a library for the symbols of a file, in a session that has been made for it.
There are addresses only if the file was compiled and relocated. -/
inductive Sought (context : Address) (file : String) (names : List String) :
    Option (List Address) → List Exchange → Prop where
  /-- No library is asked for a file whose name holds a zero byte. -/
  | refused : 0 ∈ Text.encode file → Sought context file names none []
  | uncompiled {text : CText} {added : Status} :
      text.bytes = Text.encode file → added.isErr = true →
      Sought context file names none [⟨.addFile context text, added.code⟩]
  | unlinked {text : CText} {added relocated : Status} :
      text.bytes = Text.encode file → added.isErr = false → relocated.isErr = true →
      Sought context file names none
        [⟨.addFile context text, added.code⟩,
          ⟨.relocate context NativeCall.anyPlace, relocated.code⟩]
  | built {text : CText} {added relocated : Status} {addresses : List Address}
      {made : List Exchange} :
      text.bytes = Text.encode file → added.isErr = false → relocated.isErr = false →
      LookedUp context names addresses made →
      Sought context file names (some addresses)
        (⟨.addFile context text, added.code⟩ ::
          ⟨.relocate context NativeCall.anyPlace, relocated.code⟩ :: made)

/-- What a program answers that has looked for symbols. -/
def Finds (names : List String) :
    Option (List Address) → Except ProgramError (List (Except SessionError SymbolHandle)) → Prop
  | none, answer => ∃ error, answer = .error error
  | some addresses, answer => answer = .ok (names.zipWith resolution addresses)

variable {ν : Type} (code : ForeignCode ν)

namespace Makes

variable {code} {site after : NativeSite ν} {made : List Exchange}

theorem context_eq (makes : Makes made site after) :
    after.session.engine.context = site.session.engine.context := by
  rw [makes.binding_eq]
  rfl

theorem noteLookUp (makes : Makes made site after) (name : String) (found : Option SymbolHandle) :
    Makes made site (after.noteLookUp name found) := by
  unfold Site.noteLookUp
  split
  · exact makes.log ..
  · exact makes

end Makes

/-- What a name is found to be is what the address says that is given for it. -/
theorem getSymbol_of_translation {name : String} {address : Address} {site : NativeSite ν}
    (given : (translation code (.getSymbol name) site).1 = SymbolHandle.ofAddress? address) :
    ∃ after, site.getSymbol (Binding.engine code) name =
        (.returned (resolution name address), after) ∧
      Makes (translation code (.getSymbol name) site).2.1 site after := by
  obtain ⟨middle, called, makes⟩ := call_makes code (.getSymbol name) site
  refine ⟨_, ?_, makes.noteLookUp name (SymbolHandle.ofAddress? address)⟩
  simp only [Site.getSymbol, Site.lookUp, called, given, resolution]
  cases SymbolHandle.ofAddress? address with
  | none => rfl
  | some handle => rfl

/-- One name is looked up in front of others. -/
theorem getSymbol_makes (name : String) (site : NativeSite ν) :
    ∃ address made after,
      site.getSymbol (Binding.engine code) name =
        (.returned (resolution name address), after) ∧
      Makes made site after ∧
      ∀ {names : List String} {addresses : List Address} {more : List Exchange},
        LookedUp site.session.engine.context names addresses more →
        LookedUp site.session.engine.context (name :: names) (address :: addresses)
          (made ++ more) := by
  by_cases zero : 0 ∈ Text.encode name
  · have refused : translation code (.getSymbol name) site =
        (none, [], (plant site.host.toMachine).prepare site.session.engine.sink
          (.getSymbol name)) := by
      apply site.session.engine.translate_of_not_plain
      intro plain
      exact plain name (by simp [Call.texts]) zero
    have given : (translation code (.getSymbol name) site).1 = SymbolHandle.ofAddress? 0 :=
      congrArg Prod.fst refused
    obtain ⟨after, looked, makes⟩ := getSymbol_of_translation code given
    rw [refused] at makes
    exact ⟨0, [], after, looked, makes, fun rest => .refused zero rest⟩
  · have one := site.session.engine.translate_getSymbol code (plant site.host.toMachine) zero
    obtain ⟨after, looked, makes⟩ := getSymbol_of_translation code (congrArg Prod.fst one)
    refine ⟨_, _, after, looked, makes, ?_⟩
    intro names addresses more rest
    rw [translation, one]
    exact .asked rfl rest

/-- All names are looked up, in order and each of them once. -/
theorem lookUpAll_makes (names : List String) (site : NativeSite ν) :
    ∃ addresses made after,
      lookUpAll code names site = (.returned (names.zipWith resolution addresses), after) ∧
      Makes made site after ∧ LookedUp site.session.engine.context names addresses made := by
  induction names generalizing site with
  | nil => exact ⟨[], [], site, rfl, .refl site, .nil⟩
  | cons name names ih =>
      obtain ⟨address, made, middle, looked, makes, adds⟩ := getSymbol_makes code name site
      obtain ⟨addresses, more, after, rest, makesMore, lookedUp⟩ := ih middle
      rw [makes.context_eq] at lookedUp
      refine ⟨address :: addresses, made ++ more, after, ?_, makes.trans makesMore,
        adds lookedUp⟩
      simp only [lookUpAll, looked, rest, List.zipWith_cons_cons]

/-- What follows once the file was compiled. -/
def seekBuilt (names : List String) (error : List String → ProgramError) (site : NativeSite ν) :
    Ending ν (List (Except SessionError SymbolHandle)) :=
  continueWith (site.checked (Binding.engine code) .relocate) fun status site =>
    if status.isErr then failWith code error site
    else continueWith (lookUpAll code names site) fun found site => (.ok found, site.host)

/-- What follows in a session that has been made. -/
def seek (file : String) (names : List String) (error : List String → ProgramError)
    (site : NativeSite ν) : Ending ν (List (Except SessionError SymbolHandle)) :=
  continueWith (site.checked (Binding.engine code) (.addFile file)) fun status site =>
    if status.isErr then failWith code error site else seekBuilt code names error site

theorem findSymbols_eq (environment : Environment) (path : Path) (names : List String)
    (config : SessionConfig) (host : Host (Shared ν)) :
    findSymbols code environment path names config host =
      withSession code environment config host (seek code path.display names (.build path)) :=
  rfl

/-- What adding a file makes of it: one native call unless its name holds a zero byte. -/
inductive Added (context : Address) (file : String) : Status → List Exchange → Prop where
  | refused : 0 ∈ Text.encode file → Added context file .failed []
  | called {text : CText} {status : Status} : text.bytes = Text.encode file →
      Added context file status [⟨.addFile context text, status.code⟩]

theorem addFile_makes (file : String) (site : NativeSite ν) :
    ∃ status made after,
      site.checked (Binding.engine code) (.addFile file) = (.returned status, after) ∧
      Makes made site after ∧ Added site.session.engine.context file status made := by
  obtain ⟨after, checked, makes⟩ := checked_makes code (.addFile file) site
  refine ⟨_, _, after, checked, makes, ?_⟩
  by_cases zero : 0 ∈ Text.encode file
  · rw [translation, site.session.engine.translate_of_not_plain _
      (fun plain => plain file (by simp [Call.texts]) zero)]
    exact .refused zero
  · rw [translation, site.session.engine.translate_addFile code _ zero]
    exact .called rfl

theorem relocate_makes (site : NativeSite ν) :
    ∃ status after,
      site.checked (Binding.engine code) .relocate = (.returned status, after) ∧
      Makes [⟨.relocate site.session.engine.context NativeCall.anyPlace, status.code⟩]
        site after := by
  obtain ⟨after, checked, makes⟩ := checked_makes code .relocate site
  rw [translation, site.session.engine.translate_relocate code] at checked makes
  exact ⟨_, after, checked, makes⟩

/-- A file that was compiled is relocated, and names are looked up only if that succeeds. -/
theorem seekBuilt_sought (file : String) (names : List String)
    (error : List String → ProgramError) (site : NativeSite ν) {text : CText} {added : Status}
    (spelled : text.bytes = Text.encode file) (compiled : added.isErr = false) :
    ∃ result made,
      Sought site.session.engine.context file names result
        (⟨.addFile site.session.engine.context text, added.code⟩ :: made) ∧
      Finds names result (seekBuilt code names error site).1 ∧
      exchanges (seekBuilt code names error site).2.journal =
        exchanges site.host.journal ++ made := by
  obtain ⟨status, relocated, checked, makes⟩ := relocate_makes code site
  simp only [seekBuilt, checked, continueWith]
  split
  case isTrue failed =>
    obtain ⟨diagnostics, after, ended, kept⟩ :=
      failWith_makes code (α := List (Except SessionError SymbolHandle)) error relocated
    refine ⟨none, _, .unlinked spelled compiled failed, ?_, ?_⟩
    · rw [ended]
      exact ⟨_, rfl⟩
    · rw [ended, kept, makes.exchanges_eq]
  case isFalse linked =>
    obtain ⟨addresses, made, after, found, makesMore, lookedUp⟩ :=
      lookUpAll_makes code names relocated
    rw [makes.context_eq] at lookedUp
    rw [found]
    refine ⟨some addresses, _,
      .built spelled compiled (eq_false_of_ne_true linked) lookedUp, rfl, ?_⟩
    rw [makesMore.exchanges_eq, makes.exchanges_eq, List.append_assoc]
    rfl

/-- In a session that has been made a file is relocated only if it was compiled. -/
theorem seek_sought (file : String) (names : List String) (error : List String → ProgramError)
    (site : NativeSite ν) :
    ∃ result made, Sought site.session.engine.context file names result made ∧
      Finds names result (seek code file names error site).1 ∧
      exchanges (seek code file names error site).2.journal =
        exchanges site.host.journal ++ made := by
  obtain ⟨status, made, after, checked, makes, added⟩ := addFile_makes code file site
  simp only [seek, checked, continueWith]
  split
  case isTrue failed =>
    obtain ⟨diagnostics, final, ended, kept⟩ :=
      failWith_makes code (α := List (Except SessionError SymbolHandle)) error after
    refine ⟨none, made, ?_, ?_, ?_⟩
    · cases added with
      | refused zero => exact .refused zero
      | called spelled => exact .uncompiled spelled failed
    · rw [ended]
      exact ⟨_, rfl⟩
    · rw [ended, kept, makes.exchanges_eq]
  case isFalse compiled =>
    cases added with
    | refused zero => exact absurd rfl compiled
    | called spelled =>
        obtain ⟨result, more, sought, finds, ended⟩ := seekBuilt_sought code file names error after
          spelled (eq_false_of_ne_true compiled)
        rw [makes.context_eq] at sought
        refine ⟨result, _, sought, finds, ended.trans ?_⟩
        rw [makes.exchanges_eq, List.append_assoc]
        rfl

/-- A session can be made: there is an engine for it, which takes the configuration. -/
def Opens (environment : Environment) (config : SessionConfig) (host : Host (Shared ν)) : Prop :=
  (withSession code environment config host fun site => (.ok (), site.host)).1 = .ok ()

/-- What looking for symbols asks of the library after a session has been made and configured: all
that is sought if a session can be made, and else nothing. -/
theorem findSymbols_sought (environment : Environment) (path : Path) (names : List String)
    (config : SessionConfig) (host : Host (Shared ν)) :
    ∃ context setup made result,
      (∀ exchange ∈ setup, exchange.Configures) ∧
      exchanges (findSymbols code environment path names config host).2.journal =
        exchanges host.journal ++ setup ++ made ∧
      Finds names result (findSymbols code environment path names config host).1 ∧
      (Opens code environment config host → Sought context path.display names result made) ∧
      (¬ Opens code environment config host → result = none ∧ made = []) := by
  obtain ⟨setup, configuring, way⟩ := withSession_configures code environment config host
  rw [findSymbols_eq]
  rcases way with ⟨error, after, kept, stops⟩ | ⟨site, -, kept, continues⟩
  · refine ⟨0, setup, [], none, configuring, ?_, ⟨.session error, by rw [stops]⟩, ?_, ?_⟩
    · rw [stops, kept, List.append_nil]
    · intro opens
      rw [Opens, stops] at opens
      cases opens
    · intro
      exact ⟨rfl, rfl⟩
  · obtain ⟨result, made, sought, finds, ended⟩ :=
      seek_sought code path.display names (.build path) site
    have opens : Opens code environment config host := by
      rw [Opens, continues]
    refine ⟨_, setup, made, result, configuring, ?_, ?_, fun _ => sought, ?_⟩
    · rw [continues, ended, kept]
    · rw [continues]
      exact finds
    · intro closed
      exact absurd opens closed

end Program

end CompileSession
