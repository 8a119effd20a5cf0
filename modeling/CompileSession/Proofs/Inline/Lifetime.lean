import CompileSession.Proofs.Inline.Bindings
import CompileSession.Proofs.Inline.Layout

/-!
# A generator over its life

A generator is added to, asked for its text and bound, in any order and to any sessions.  Until a
binding succeeds every one starts afresh; the first one that does is the answer from then on, to
whatever session and whatever was added since.  The text knows nothing of all this.
-/

namespace CompileSession

namespace Generator

/-- Something that is done with a generator.  A binding names the engine and the site that it finds,
so in between anything may have happened to the sessions. -/
inductive Use where
  | extend (addition : Addition)
  | code
  | bind {η σ : Type} (engine : Engine η σ) (site : Site η σ)
  | bound

/-- What comes of it. -/
inductive Outcome where
  | extended
  | code (text : String)
  | bind (reply : Reply (Except SessionError Bindings))
  | bound (bindings : Option Bindings)

/-- What somebody adds who does this. -/
def Use.additions : Use → List Addition
  | .extend addition => [addition]
  | _ => []

/-- The symbols that came out of a binding, if it succeeded. -/
def Outcome.bindings? : Outcome → Option Bindings
  | .bind (.returned (.ok bindings)) => some bindings
  | _ => none

theorem Outcome.bindings?_bind {reply : Reply (Except SessionError Bindings)}
    {bindings : Bindings} :
    (Outcome.bind reply).bindings? = some bindings ↔ reply = .returned (.ok bindings) := by
  rcases reply with (error | found) | panic <;> simp [Outcome.bindings?]

def use (generator : Generator) : Use → Outcome × Generator
  | .extend addition => (.extended, generator.extend addition)
  | .code => (.code generator.code, generator)
  | .bind engine site =>
    let (reply, generator, _) := generator.bind engine site
    (.bind reply, generator)
  | .bound => (.bound generator.bound, generator)

def useAll (generator : Generator) : List Use → List Outcome × Generator
  | [] => ([], generator)
  | use :: rest =>
    let (outcome, generator) := generator.use use
    let (outcomes, generator) := generator.useAll rest
    (outcome :: outcomes, generator)

variable {η σ : Type} {engine : Engine η σ} {site : Site η σ} {generator : Generator}

theorem bind_of_bound {bindings : Bindings} (bound : generator.bound = some bindings) :
    generator.bind engine site = (.returned (.ok bindings), generator, site) := by
  rw [bind, bound]

/-- A binding that starts afresh: it succeeds and stays, or nothing has changed. -/
theorem bind_of_unbound (engine : Engine η σ) (site : Site η σ)
    (unbound : generator.bound = none) :
    (∃ bindings, (generator.bind engine site).1 = .returned (.ok bindings) ∧
      (generator.bind engine site).2.1 = { generator with bound := some bindings }) ∨
    ((∀ bindings, (generator.bind engine site).1 ≠ .returned (.ok bindings)) ∧
      (generator.bind engine site).2.1 = generator) := by
  obtain ⟨deeds, -, binds⟩ := bind_does engine site unbound
  generalize (generator.bind engine site).1 = reply at binds ⊢
  generalize (generator.bind engine site).2.1 = after at binds ⊢
  cases binds with
  | bound => exact .inl ⟨_, rfl, rfl⟩
  | unresolved _ unresolved =>
      refine .inr ⟨?_, rfl⟩
      rintro bindings rfl
      cases unresolved
  | unfilled _ _ unresolved =>
      refine .inr ⟨?_, rfl⟩
      rintro bindings rfl
      cases unresolved

/-- What is known after a use: what was known before or else what came out of it. -/
theorem bound_use (generator : Generator) (use : Use) :
    (generator.use use).2.bound = generator.bound.or (generator.use use).1.bindings? := by
  cases use with
  | extend addition =>
      change (generator.extend addition).bound = generator.bound.or none
      rw [extend_eq, Option.or_none]
  | code => exact (Option.or_none ..).symm
  | bound => exact (Option.or_none ..).symm
  | bind engine site =>
      change (generator.bind engine site).2.1.bound =
        generator.bound.or (Outcome.bind (generator.bind engine site).1).bindings?
      cases bound : generator.bound with
      | some bindings =>
          rw [bind_of_bound bound]
          exact bound
      | none =>
          rcases bind_of_unbound engine site bound with ⟨bindings, reply, after⟩ | ⟨failed, after⟩
          · rw [reply, after]
            rfl
          · rw [after, bound, Option.none_or]
            refine (Option.eq_none_iff_forall_ne_some.mpr fun bindings => ?_).symm
            exact mt Outcome.bindings?_bind.mp (failed bindings)

/-- A generator as if it had never been bound. -/
def released (generator : Generator) : Generator :=
  { generator with bound := none }

/-- A use adds to the texts what it says, whether or not the generator is bound. -/
theorem released_use (generator : Generator) (use : Use) :
    (generator.use use).2.released = generator.released.extendAll use.additions := by
  cases use with
  | extend addition =>
      change (generator.extend addition).released = generator.released.extend addition
      rw [extend_eq, extend_eq]
      rfl
  | code => rfl
  | bound => rfl
  | bind engine site =>
      change (generator.bind engine site).2.1.released = generator.released
      cases bound : generator.bound with
      | some bindings => rw [bind_of_bound bound]
      | none =>
          rcases bind_of_unbound engine site bound with ⟨bindings, -, after⟩ | ⟨-, after⟩
          · rw [after]
            rfl
          · rw [after]

theorem code_bind : (generator.bind engine site).2.1.code = generator.code := by
  have released : (generator.bind engine site).2.1.released = generator.released :=
    generator.released_use (.bind engine site)
  exact (congrArg code released :)

theorem useAll_cons (generator : Generator) (use : Use) (rest : List Use) :
    generator.useAll (use :: rest) =
      ((generator.use use).1 :: ((generator.use use).2.useAll rest).1,
        ((generator.use use).2.useAll rest).2) :=
  rfl

theorem bound_useAll (generator : Generator) (uses : List Use) :
    (generator.useAll uses).2.bound =
      generator.bound.or ((generator.useAll uses).1.findSome? Outcome.bindings?) := by
  induction uses generalizing generator with
  | nil => exact (Option.or_none ..).symm
  | cons use rest ih =>
      have later := ih (generator.use use).2
      rw [bound_use, Option.or_assoc] at later
      refine later.trans ?_
      rw [useAll_cons, List.findSome?_cons]
      cases (generator.use use).1.bindings? <;> rfl

theorem released_useAll (generator : Generator) (uses : List Use) :
    (generator.useAll uses).2.released =
      generator.released.extendAll (uses.flatMap Use.additions) := by
  induction uses generalizing generator with
  | nil => rfl
  | cons use rest ih =>
      rw [useAll_cons, ih, released_use, List.flatMap_cons, extendAll, extendAll, extendAll,
        List.foldl_append]

/-- What a generator knows is what the first binding found that succeeded, and nothing before.  From
then on every binding is answered with it at once: nothing is looked up or stored, and neither the
site nor the generator changes, whatever has been added meanwhile.  A binding that fails leaves the
generator as it is; one that is the first to succeed finds the symbols of the declarations that
there are.  No binding has to do with the text. -/
theorem first_binding_stays (uses : List Use) :
    let outcomes := (({} : Generator).useAll uses).1
    let generator := (({} : Generator).useAll uses).2
    (generator.bound = outcomes.findSome? Outcome.bindings? ∧
      (generator.use .bound).1 = .bound (outcomes.findSome? Outcome.bindings?)) ∧
    (∀ bindings, outcomes.findSome? Outcome.bindings? = some bindings → ∀ more : List Use,
      (generator.useAll more).2.bound = some bindings ∧
      ∀ {η σ : Type} (engine : Engine η σ) (site : Site η σ),
        (generator.useAll more).2.bind engine site =
          (.returned (.ok bindings), (generator.useAll more).2, site)) ∧
    (∀ {η σ : Type} (engine : Engine η σ) (site : Site η σ),
      ((∀ bindings, (generator.bind engine site).1 ≠ .returned (.ok bindings)) →
        (generator.bind engine site).2.1 = generator) ∧
      (generator.bound = none → ∃ deeds,
        site.Does engine deeds (generator.bind engine site).2.2 ∧
        generator.Binds deeds (generator.bind engine site).1 (generator.bind engine site).2.1) ∧
      (generator.bind engine site).2.1.code = generator.code) ∧
    (generator.use .code).1 =
      .code (({} : Generator).extendAll (uses.flatMap Use.additions)).code := by
  intro outcomes generator
  have known : generator.bound = outcomes.findSome? Outcome.bindings? :=
    ({} : Generator).bound_useAll uses
  refine ⟨⟨known, congrArg Outcome.bound known⟩, ?_, ?_, ?_⟩
  · intro bindings first more
    have stays : (generator.useAll more).2.bound = some bindings := by
      rw [bound_useAll, known, first, Option.some_or]
    exact ⟨stays, fun _ _ => bind_of_bound stays⟩
  · intro η σ engine site
    refine ⟨fun failed => ?_, bind_does engine site, code_bind⟩
    cases bound : generator.bound with
    | some bindings => rw [bind_of_bound bound]
    | none =>
        rcases bind_of_unbound engine site bound with ⟨bindings, found, -⟩ | ⟨-, after⟩
        · exact absurd found (failed bindings)
        · exact after
  · exact congrArg (fun texts => Outcome.code texts.code) (({} : Generator).released_useAll uses)

end Generator

end CompileSession
