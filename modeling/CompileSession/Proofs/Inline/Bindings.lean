import CompileSession.Inline.Generator
import CompileSession.Proofs.Memory
import CompileSession.Proofs.Session.Configuring

/-!
# Binding a generator

Binding looks up the exported symbols, in order, and then fills the slots, each right after it was
found.  The first name that is not found ends that; what was stored before stays, and the generator
remains unbound.  Everything is told by the deeds of a binding: lookups, and stores in between.
-/

namespace CompileSession

/-- Something that is done to bind a generator. -/
inductive Deed where
  /-- A name is looked up. -/
  | lookUp (name : String) (reply : Reply (Option SymbolHandle))
  /-- The address of a function goes into a slot. -/
  | fill (slot : SymbolHandle) (value : Address)

namespace Deed

/-- What the engine was asked and has answered. -/
def answer? : Deed → Option Answer
  | .lookUp name reply => some ((Call.getSymbol name).answer reply)
  | .fill _ _ => none

/-- The bytes that were stored, each with its place. -/
def cells : Deed → List (Address × UInt8)
  | .lookUp _ _ => []
  | .fill slot value => Memory.cells slot.address (bytesOfNat SymbolHandle.width value.toNat)

/-- A name is looked up and found. -/
def resolved (found : String × SymbolHandle) : Deed :=
  .lookUp found.1 (.returned (some found.2))

/-- A slot is looked up and filled. -/
def filled (slot : (String × Address) × SymbolHandle) : List Deed :=
  [.lookUp slot.1.1 (.returned (some slot.2)), .fill slot.2 slot.1.2]

end Deed

/-- Lookups leave the memory as it is. -/
def Engine.LooksOnly {η σ : Type} (engine : Engine η σ) : Prop :=
  ∀ name state machine,
    (engine.perform (.getSymbol name) state machine).2.2.memory = machine.memory

variable {η σ : Type}

namespace Site

/-- Stores an address in a slot. -/
def fill (slot : SymbolHandle) (value : Address) (site : Site η σ) : Site η σ :=
  { site with host := { site.host with
      memory := slot.write Generator.slotType value.toNat site.host.memory } }

/-- Some deeds were done at a site, one after another; what was logged meanwhile does not count. -/
inductive Does (engine : Engine η σ) (start : Site η σ) : List Deed → Site η σ → Prop where
  | nothing : Does engine start [] start
  | lookUp {deeds : List Deed} {site : Site η σ} (name : String) : Does engine start deeds site →
      Does engine start (deeds ++ [.lookUp name (site.lookUp engine name).1])
        (site.lookUp engine name).2
  | fill {deeds : List Deed} {site : Site η σ} (slot : SymbolHandle) (value : Address) :
      Does engine start deeds site →
      Does engine start (deeds ++ [.fill slot value]) (site.fill slot value)
  | log {deeds : List Deed} {site : Site η σ} (level : Log.Level) (message : String)
      (fields : List (String × Log.Value)) : Does engine start deeds site →
      Does engine start deeds (site.log level message fields)

variable {engine : Engine η σ} {start site : Site η σ} {deeds : List Deed}

theorem fill_eq_storeAll (slot : SymbolHandle) (value : Address) (site : Site η σ) :
    (site.fill slot value).host.memory =
      site.host.memory.storeAll (Deed.fill slot value).cells := by
  have bytes : Generator.slotType.encode value.toNat =
      bytesOfNat SymbolHandle.width value.toNat :=
    bytesOfNat_mod SymbolHandle.width value.toNat
  change site.host.memory.write slot.address (Generator.slotType.encode value.toNat) = _
  rw [bytes, Memory.write_eq_storeAll]
  rfl

theorem lookUp_asked (engine : Engine η σ) (name : String) (site : Site η σ) :
    Asked engine [(Call.getSymbol name).answer (site.lookUp engine name).1] site
      (site.lookUp engine name).2 := by
  have fresh : Asked engine [] site site := .refl site
  have called := fresh.call (.getSymbol name)
  unfold lookUp
  split
  case h_1 found after answered =>
    rw [answered] at called
    unfold noteLookUp
    dsimp only
    split
    · exact called.log ..
    · exact called
  case h_2 panic after answered =>
    rw [answered] at called
    exact called

theorem memory_lookUp (looksOnly : engine.LooksOnly) (name : String) (site : Site η σ) :
    (site.lookUp engine name).2.host.memory = site.host.memory := by
  have called : (site.call engine (.getSymbol name)).2.host.memory = site.host.memory :=
    looksOnly ..
  unfold lookUp
  split
  case h_1 found after answered =>
    rw [answered] at called
    unfold noteLookUp
    split <;> exact called
  case h_2 panic after answered =>
    rw [answered] at called
    exact called

/-- The engine was asked for the lookups among the deeds, and for nothing else. -/
theorem Does.answers (does : start.Does engine deeds site) :
    site.host.journal.answers start.session.id =
        start.host.journal.answers start.session.id ++ deeds.filterMap Deed.answer? ∧
      ∃ state, site.session = { start.session with engine := state } := by
  induction does with
  | nothing => exact ⟨(List.append_nil _).symm, _, rfl⟩
  | @lookUp deeds site name _ ih =>
      obtain ⟨earlier, state, session⟩ := ih
      have asked := lookUp_asked engine name site
      have number : site.session.id = start.session.id := by rw [session]
      obtain ⟨next, session'⟩ := asked.session
      refine ⟨?_, next, by rw [session', session]⟩
      rw [← number, asked.answers, number, earlier, List.filterMap_append, List.append_assoc]
      rfl
  | fill slot value _ ih =>
      obtain ⟨earlier, session⟩ := ih
      refine ⟨?_, session⟩
      rw [List.filterMap_append]
      exact earlier.trans (congrArg _ (List.append_nil _).symm)
  | log level message fields _ ih =>
      obtain ⟨earlier, session⟩ := ih
      exact ⟨((Journal.filterMap_concat ..).trans (List.append_nil _)).trans earlier, session⟩

/-- If lookups only look, memory is changed by the stores among the deeds alone. -/
theorem Does.memory_eq (does : start.Does engine deeds site) (looksOnly : engine.LooksOnly) :
    site.host.memory = start.host.memory.storeAll (deeds.flatMap Deed.cells) := by
  induction does with
  | nothing => rfl
  | lookUp name _ ih =>
      rw [memory_lookUp looksOnly, List.flatMap_append, Memory.storeAll_append, ih]
      rfl
  | fill slot value _ ih =>
      rw [fill_eq_storeAll, List.flatMap_append, Memory.storeAll_append, ih, List.flatMap_singleton]
  | log level message fields _ ih => exact ih

end Site

namespace Bindings

variable (bindings : Bindings) (name : String) (handle : SymbolHandle)

theorem names_insert :
    (bindings.insert name handle).map Prod.fst =
      if name ∈ bindings.map Prod.fst then bindings.map Prod.fst
      else bindings.map Prod.fst ++ [name] := by
  have known : bindings.any (·.1 = name) = true ↔ name ∈ bindings.map Prod.fst := by
    simp [List.any_eq_true, List.mem_map]
  unfold insert
  by_cases member : name ∈ bindings.map Prod.fst
  · rw [if_pos (known.mpr member), if_pos member, List.map_map]
    apply List.map_congr_left
    intro entry _
    by_cases same : entry.1 = name <;> simp [same]
  · rw [if_neg (mt known.mp member), if_neg member, List.map_append]
    rfl

theorem lookup_replace (other : String) :
    (bindings.map fun entry => if entry.1 = name then (name, handle) else entry).lookup other =
      if other = name ∧ name ∈ bindings.map Prod.fst then some handle
      else bindings.lookup other := by
  induction bindings with
  | nil => simp
  | cons entry rest ih =>
      obtain ⟨first, place⟩ := entry
      by_cases own : first = name
      · subst own
        by_cases same : other = first
        · simp [same]
        · simp [List.lookup_cons, same, ih, beq_eq_false_iff_ne.mpr same]
      · have names : name ∈ ((first, place) :: rest).map Prod.fst ↔ name ∈ rest.map Prod.fst := by
          rw [List.map_cons, List.mem_cons, or_iff_right (Ne.symm own)]
        rw [List.map_cons, if_neg own]
        by_cases same : other = first
        · simp [own, same]
        · simp only [List.lookup_cons, beq_eq_false_iff_ne.mpr same, names, ih]

theorem lookup_insert (other : String) :
    (bindings.insert name handle).lookup other =
      if other = name then some handle else bindings.lookup other := by
  unfold insert
  split
  case isTrue known =>
    have member : name ∈ bindings.map Prod.fst := by
      simpa [List.any_eq_true, List.mem_map] using known
    rw [lookup_replace]
    simp only [member, and_true]
  case isFalse unknown =>
    have absent : bindings.lookup name = none := by
      simp only [List.lookup_eq_none_iff, bne_iff_ne]
      intro entry member same
      exact unknown (List.any_eq_true.mpr ⟨entry, member, decide_eq_true same.symm⟩)
    rw [List.lookup_append]
    by_cases same : other = name
    · simp [same, absent]
    · simp [List.lookup_cons, same, beq_eq_false_iff_ne.mpr same]

/-- What is known once some names were found one after another: every name once, in the order in
which they came first, each with the place where it was found last. -/
structure Lists (bindings : Bindings) (found : List (String × SymbolHandle)) : Prop where
  names : bindings.map Prod.fst = (found.map Prod.fst).eraseDups
  handles : ∀ name, bindings.lookup name = found.reverse.lookup name

theorem Lists.nil : Lists [] [] where
  names := rfl
  handles _ := rfl

variable {bindings} {found : List (String × SymbolHandle)}

theorem Lists.insert (lists : bindings.Lists found) :
    (bindings.insert name handle).Lists (found ++ [(name, handle)]) where
  names := by
    rw [names_insert, lists.names, List.map_append, List.eraseDups_append]
    by_cases known : name ∈ found.map Prod.fst
    · rw [if_pos (List.mem_eraseDups.mpr known)]
      simp [List.removeAll, known]
    · rw [if_neg (mt List.mem_eraseDups.mp known)]
      simp [List.removeAll, known, List.eraseDups_cons]
  handles other := by
    rw [lookup_insert, lists.handles, List.reverse_append]
    by_cases same : other = name
    · simp [same]
    · simp [List.lookup_cons, same, beq_eq_false_iff_ne.mpr same]

end Bindings

/-- How a lookup ends that finds nothing, and what becomes of what it was made for. -/
inductive Unresolved {α : Type} (name : String) :
    Reply (Option SymbolHandle) → Reply (Except SessionError α) → Prop where
  | missing : Unresolved name (.returned none) (.returned (.error (.symbolNotFound name)))
  | gaveUp (panic : Panic) : Unresolved name (.panicked panic) (.panicked panic)

/-- The deeds that resolve names after others were found, and what comes out: all are found, or the
first that is not found ends it. -/
inductive Resolves (known : List (String × SymbolHandle)) (names : List String) :
    List Deed → Reply (Except SessionError Bindings) → Prop where
  | all {found : List (String × SymbolHandle)} {bindings : Bindings} :
      found.map Prod.fst = names → bindings.Lists (known ++ found) →
      Resolves known names (found.map Deed.resolved) (.returned (.ok bindings))
  | stopped {found : List (String × SymbolHandle)} {name : String} {rest : List String}
      {reply : Reply (Option SymbolHandle)} {result : Reply (Except SessionError Bindings)} :
      names = found.map Prod.fst ++ name :: rest → Unresolved name reply result →
      Resolves known names (found.map Deed.resolved ++ [.lookUp name reply]) result

/-- The deeds that fill slots, and what comes out: all are filled, or the first that is not found
ends it. -/
inductive Fills (slots : List (String × Address)) :
    List Deed → Reply (Except SessionError Unit) → Prop where
  | all {filled : List ((String × Address) × SymbolHandle)} : filled.map Prod.fst = slots →
      Fills slots (filled.flatMap Deed.filled) (.returned (.ok ()))
  | stopped {filled : List ((String × Address) × SymbolHandle)} {slot : String × Address}
      {rest : List (String × Address)} {reply : Reply (Option SymbolHandle)}
      {result : Reply (Except SessionError Unit)} :
      slots = filled.map Prod.fst ++ slot :: rest → Unresolved slot.1 reply result →
      Fills slots (filled.flatMap Deed.filled ++ [.lookUp slot.1 reply]) result

theorem Resolves.next {known : List (String × SymbolHandle)} {names : List String}
    {deeds : List Deed} {result : Reply (Except SessionError Bindings)}
    {found : String × SymbolHandle} (others : Resolves (known ++ [found]) names deeds result) :
    Resolves known (found.1 :: names) (.resolved found :: deeds) result := by
  cases others with
  | @all later bindings same lists =>
      rw [List.append_assoc] at lists
      exact @Resolves.all _ _ (found :: later) _ (congrArg (List.cons _) same) lists
  | @stopped later name rest reply _ same unresolved =>
      exact @Resolves.stopped _ _ (found :: later) _ _ _ _ (congrArg (List.cons _) same) unresolved

theorem Fills.next {slots : List (String × Address)} {deeds : List Deed}
    {result : Reply (Except SessionError Unit)} {slot : (String × Address) × SymbolHandle}
    (others : Fills slots deeds result) :
    Fills (slot.1 :: slots) (Deed.filled slot ++ deeds) result := by
  cases others with
  | @all later same =>
      exact @Fills.all _ (slot :: later) (congrArg (List.cons _) same)
  | @stopped later next rest reply _ same unresolved =>
      exact @Fills.stopped _ (slot :: later) _ _ _ _ (congrArg (List.cons _) same) unresolved

/-- A symbol that is asked for is looked up once; what that found decides. -/
theorem Site.getSymbol_cases (engine : Engine η σ) (name : String) (site : Site η σ) :
    (∃ handle, (site.lookUp engine name).1 = .returned (some handle) ∧
      site.getSymbol engine name = (.returned (.ok handle), (site.lookUp engine name).2)) ∨
    ((site.lookUp engine name).1 = .returned none ∧
      site.getSymbol engine name =
        (.returned (.error (.symbolNotFound name)), (site.lookUp engine name).2)) ∨
    ∃ panic, (site.lookUp engine name).1 = .panicked panic ∧
      site.getSymbol engine name = (.panicked panic, (site.lookUp engine name).2) := by
  unfold getSymbol
  rcases site.lookUp engine name with ⟨⟨_ | handle⟩ | panic, after⟩
  · exact .inr (.inl ⟨rfl, rfl⟩)
  · exact .inl ⟨handle, rfl, rfl⟩
  · exact .inr (.inr ⟨panic, rfl, rfl⟩)

namespace Generator

variable {engine : Engine η σ} {start site : Site η σ} {deeds : List Deed}

theorem resolve_does (names : List String) {bindings : Bindings}
    {known : List (String × SymbolHandle)} (does : start.Does engine deeds site)
    (lists : bindings.Lists known) :
    ∃ more, start.Does engine (deeds ++ more) (resolve engine names bindings site).2 ∧
      Resolves known names more (resolve engine names bindings site).1 := by
  -- What is known grows by the first name, and the deeds by its lookup.
  induction names generalizing bindings known deeds site with
  | nil =>
      refine ⟨[], by rwa [List.append_nil], ?_⟩
      exact @Resolves.all _ _ [] bindings rfl (by rwa [List.append_nil])
  | cons name rest ih =>
      have looked := does.lookUp name
      rw [resolve]
      rcases site.getSymbol_cases engine name with
        ⟨handle, found, answered⟩ | ⟨missing, answered⟩ | ⟨panic, gaveUp, answered⟩
      · rw [answered]
        obtain ⟨more, does', resolves⟩ := ih looked (lists.insert name handle)
        refine ⟨.resolved (name, handle) :: more, ?_, resolves.next⟩
        rwa [found, List.append_assoc] at does'
      · rw [answered]
        exact ⟨_, looked, @Resolves.stopped _ _ [] name rest _ _ rfl (missing ▸ .missing)⟩
      · rw [answered]
        exact ⟨_, looked, @Resolves.stopped _ _ [] name rest _ _ rfl (gaveUp ▸ .gaveUp panic)⟩

theorem fill_does (slots : List (String × Address)) (does : start.Does engine deeds site) :
    ∃ more, start.Does engine (deeds ++ more) (fill engine slots site).2 ∧
      Fills slots more (fill engine slots site).1 := by
  induction slots generalizing deeds site with
  | nil => exact ⟨[], by rwa [List.append_nil], @Fills.all _ [] rfl⟩
  | cons slot rest ih =>
      obtain ⟨name, value⟩ := slot
      have looked := does.lookUp name
      rw [fill]
      rcases site.getSymbol_cases engine name with
        ⟨handle, found, answered⟩ | ⟨missing, answered⟩ | ⟨panic, gaveUp, answered⟩
      · rw [answered]
        obtain ⟨more, does', fills⟩ := ih (looked.fill handle value)
        have filled := @Fills.next _ _ _ ((name, value), handle) fills
        refine ⟨Deed.filled ((name, value), handle) ++ more, ?_, filled⟩
        rwa [found, List.append_assoc, List.append_assoc] at does'
      · rw [answered]
        exact ⟨_, looked, @Fills.stopped _ [] (name, value) rest _ _ rfl (missing ▸ .missing)⟩
      · rw [answered]
        exact ⟨_, looked, @Fills.stopped _ [] (name, value) rest _ _ rfl (gaveUp ▸ .gaveUp panic)⟩

/-- The deeds of the binding of an unbound generator, what comes out, and the generator afterwards:
everything is found and the generator is bound, or something is not found and it stays as it is. -/
inductive Binds (generator : Generator) :
    List Deed → Reply (Except SessionError Bindings) → Generator → Prop where
  | bound {found : List (String × SymbolHandle)}
      {filled : List ((String × Address) × SymbolHandle)} {bindings : Bindings} :
      found.map Prod.fst = generator.symbols → filled.map Prod.fst = generator.hostFunctions →
      bindings.Lists found →
      Binds generator (found.map Deed.resolved ++ filled.flatMap Deed.filled)
        (.returned (.ok bindings)) { generator with bound := some bindings }
  /-- An exported symbol is not found. -/
  | unresolved {found : List (String × SymbolHandle)} {name : String} {rest : List String}
      {reply : Reply (Option SymbolHandle)} {result : Reply (Except SessionError Bindings)} :
      generator.symbols = found.map Prod.fst ++ name :: rest → Unresolved name reply result →
      Binds generator (found.map Deed.resolved ++ [.lookUp name reply]) result generator
  /-- A slot is not found. -/
  | unfilled {found : List (String × SymbolHandle)}
      {filled : List ((String × Address) × SymbolHandle)} {slot : String × Address}
      {rest : List (String × Address)} {reply : Reply (Option SymbolHandle)}
      {result : Reply (Except SessionError Bindings)} :
      found.map Prod.fst = generator.symbols →
      generator.hostFunctions = filled.map Prod.fst ++ slot :: rest →
      Unresolved slot.1 reply result →
      Binds generator
        (found.map Deed.resolved ++ filled.flatMap Deed.filled ++ [.lookUp slot.1 reply])
        result generator

theorem Binds.ok_iff {generator bound : Generator} {result : Reply (Except SessionError Bindings)}
    (binds : generator.Binds deeds result bound) :
    (∃ bindings, result = .returned (.ok bindings)) ↔
      ∀ name reply, .lookUp name reply ∈ deeds → ∃ handle, reply = .returned (some handle) := by
  have missed {name : String} {reply : Reply (Option SymbolHandle)}
      (unresolved : Unresolved name reply result) (last : .lookUp name reply ∈ deeds) :
      (∃ bindings, result = .returned (.ok bindings)) ↔
        ∀ name reply, .lookUp name reply ∈ deeds → ∃ handle, reply = .returned (some handle) := by
    constructor
    · rintro ⟨bindings, rfl⟩
      cases unresolved
    · intro found
      obtain ⟨handle, rfl⟩ := found name reply last
      cases unresolved
  cases binds with
  | @bound found filled bindings =>
      apply iff_of_true ⟨bindings, rfl⟩
      intro name reply member
      rcases List.mem_append.mp member with looked | stored
      · obtain ⟨_, -, same⟩ := List.mem_map.mp looked
        cases same
        exact ⟨_, rfl⟩
      · obtain ⟨slot, -, inside⟩ := List.mem_flatMap.mp stored
        simp only [Deed.filled, List.mem_cons, Deed.lookUp.injEq, List.not_mem_nil, or_false,
          reduceCtorEq] at inside
        exact ⟨_, inside.2⟩
  | unresolved _ unresolved => exact missed unresolved List.mem_concat_self
  | unfilled _ _ unresolved => exact missed unresolved List.mem_concat_self

variable (engine) {generator : Generator} (site)

theorem bind_does (unbound : generator.bound = none) :
    ∃ deeds, site.Does engine deeds (generator.bind engine site).2.2 ∧
      generator.Binds deeds (generator.bind engine site).1 (generator.bind engine site).2.1 := by
  have fresh : site.Does engine [] site := .nothing
  obtain ⟨lookups, looked, resolves⟩ := resolve_does generator.symbols fresh Bindings.Lists.nil
  rw [List.nil_append] at looked
  rw [bind, unbound]
  dsimp only
  generalize resolve engine generator.symbols [] site = resolution at looked resolves ⊢
  obtain ⟨reply, after⟩ := resolution
  cases resolves with
  | stopped same unresolved =>
      cases unresolved with
      | missing => exact ⟨_, looked, .unresolved same .missing⟩
      | gaveUp panic => exact ⟨_, looked, .unresolved same (.gaveUp panic)⟩
  | all same lists =>
      obtain ⟨stores, stored, fills⟩ := fill_does generator.hostFunctions looked
      dsimp only at stored fills ⊢
      generalize fill engine generator.hostFunctions after = filling at stored fills ⊢
      obtain ⟨reply, last⟩ := filling
      cases fills with
      | all filled => exact ⟨_, stored.log .., .bound same filled lists⟩
      | stopped filled unresolved =>
          rw [← List.append_assoc] at stored
          cases unresolved with
          | missing => exact ⟨_, stored, .unfilled same filled .missing⟩
          | gaveUp panic => exact ⟨_, stored, .unfilled same filled (.gaveUp panic)⟩

/-- Binding an unbound generator looks up the exported symbols in order and then the slots, each of
which is filled at once, and asks for nothing else.  If everything is found, the symbols come out
and stay with the generator; the first name that is not found is what comes out otherwise, nothing
is looked up or filled after it, and the generator remains unbound.  The memory holds what was
filled last, and everywhere else what it held before. -/
theorem bind_resolves_then_fills (unbound : generator.bound = none) :
    ∃ deeds, site.Does engine deeds (generator.bind engine site).2.2 ∧
      generator.Binds deeds (generator.bind engine site).1 (generator.bind engine site).2.1 ∧
      ((∃ bindings, (generator.bind engine site).1 = .returned (.ok bindings)) ↔
        ∀ name reply, .lookUp name reply ∈ deeds → ∃ handle, reply = .returned (some handle)) ∧
      (generator.bind engine site).2.2.host.journal.answers site.session.id =
        site.host.journal.answers site.session.id ++ deeds.filterMap Deed.answer? ∧
      (engine.LooksOnly → ∀ place, (generator.bind engine site).2.2.host.memory.byte place =
        site.host.memory.latest (deeds.flatMap Deed.cells) place) := by
  obtain ⟨deeds, does, binds⟩ := bind_does engine site unbound
  refine ⟨deeds, does, binds, binds.ok_iff, does.answers.1, fun looksOnly place => ?_⟩
  rw [does.memory_eq looksOnly, Memory.byte_storeAll]

end Generator

/-- An engine that answers its lookups in the order that it was told. -/
def Engine.told : Engine Unit (List (Option SymbolHandle)) where
  perform {kind} _ replies machine :=
    let reply : Reply kind.Answer := match kind with
      | .status => .returned .ok
      | .done => .returned ()
      | .lookup => .returned replies.head?.join
      | .messages => .returned []
    (reply, replies.tail, machine)

/-- A symbol that is exported twice stays where it was found last, the second slot covers the upper
half of the first, and nothing is done for the slot behind the one that is missing. -/
theorem Generator.bind_resolves_then_fills_sample :
    let generator : Generator := { declarations := [
      { symbols := ["f", "g", "f"] },
      { hostFunctions := [("first", 0x1122334455667788), ("second", 0x99aabbccddeeff00)] },
      { hostFunctions := [("third", 0x3333333333333333), ("fourth", 0x4444444444444444)] }] }
    let handles : List SymbolHandle := [⟨64, by decide⟩, ⟨68, by decide⟩, ⟨72, by decide⟩,
      ⟨76, by decide⟩, ⟨80, by decide⟩]
    let site : Site Unit (List (Option SymbolHandle)) := {
      host := { memory := .zeroed 1, shared := () }
      session := { id := 1, mode := .execute, delivery := .queued, pool := .ok 1,
                   engine := handles.map some ++ [none] } }
    let after := (generator.bind Engine.told site).2.2
    Engine.told.LooksOnly ∧ generator.bound = none ∧
    ∃ deeds, site.Does Engine.told deeds after ∧
      generator.Binds deeds (.returned (.error (.symbolNotFound "third"))) generator ∧
      (deeds.filterMap Deed.answer?).length = 6 ∧
      (∀ place, after.host.memory.byte place =
        site.host.memory.latest (deeds.flatMap Deed.cells) place) ∧
      after.host.memory.read 76 12 =
        [0x88, 0x77, 0x66, 0x55, 0x00, 0xff, 0xee, 0xdd, 0xcc, 0xbb, 0xaa, 0x99] := by
  intro generator handles site after
  have looksOnly : Engine.told.LooksOnly := fun _ _ _ => rfl
  obtain ⟨deeds, does, binds, -, asked, stored⟩ :=
    bind_resolves_then_fills Engine.told site (rfl : generator.bound = none)
  have lookups : after.host.journal.answers 1 = deeds.filterMap Deed.answer? := asked
  have six : (after.host.journal.answers 1).length = 6 := by decide +kernel
  rw [lookups] at six
  exact ⟨looksOnly, rfl, deeds, does, binds, six, stored looksOnly, by decide +kernel⟩

end CompileSession
