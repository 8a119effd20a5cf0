import CompileSession.Proofs.Session.Congruence

/-!
# Runs without futures

Futures are told what becomes of units and have no say in it.  A run goes on in the same way
whichever futures are dropped on its way.
-/

namespace CompileSession

variable {η σ : Type}

/-- Whether a move leaves all futures to those who hold them. -/
def Move.keepsFutures : Move → Bool
  | .dropFuture _ => false
  | _ => true

def Session.withoutFutures (session : Session σ) : Session σ :=
  { session with futures := [] }

def Site.withoutFutures (site : Site η σ) : Site η σ :=
  { site with session := site.session.withoutFutures }

def Scene.withoutFutures (scene : Scene η σ) : Scene η σ :=
  { scene with site := scene.site.withoutFutures }

/-- Sessions cannot tell sites apart that differ in futures only. -/
theorem congruence_withoutFutures (engine : Engine η σ) :
    Congruence engine fun site other => site.withoutFutures = other.withoutFutures where
  session {site other} same := by
    have session : site.session.withoutFutures = other.session.withoutFutures :=
      (congrArg Site.session same :)
    refine ⟨site.session.id, other.session.futures, ?_⟩
    change { other.session.withoutFutures with futures := other.session.futures } = _
    rw [← session]
    rfl
  linking {site other} same := by
    have host : site.host = other.host := (congrArg Site.host same :)
    rw [host]
  record {site other} entry uniform same := by
    change site.withoutFutures.record (entry site.withoutFutures.session.id) =
      other.withoutFutures.record (entry other.withoutFutures.session.id)
    rw [same]
  perform {site other} kind ticket call same := by
    refine ⟨?_, ?_⟩
    · exact (congrArg (fun site => (site.perform engine ticket call).1) same.symm :)
    · exact (congrArg (fun site => (site.perform engine ticket call).2) same :)
  setUnits {site other} units same := by
    change site.withoutFutures.setUnits units = other.withoutFutures.setUnits units
    rw [same]
  mapFutures {site other} change same := same

namespace Scene

variable {engine : Engine η σ}

/-- A run can do without the moves that drop futures. -/
theorem follow?_filter {scene after : Scene η σ} {site : Site η σ} {schedule : List Move}
    (alike : scene.site.withoutFutures = site.withoutFutures)
    (followed : scene.follow? engine schedule = some after) :
    ∃ final, follow? engine { scene with site } (schedule.filter Move.keepsFutures) =
        some { after with site := final } ∧
      after.site.withoutFutures = final.withoutFutures := by
  induction schedule generalizing scene site with
  | nil =>
      cases followed
      exact ⟨site, rfl, alike⟩
  | cons move schedule ih =>
      obtain ⟨next, moved, continued⟩ := Option.bind_eq_some_iff.mp followed
      by_cases keeps : move.keepsFutures = true
      · obtain ⟨final, also, kept⟩ := (congruence_withoutFutures engine).move? alike moved
        obtain ⟨last, reached, same⟩ := ih kept continued
        refine ⟨last, ?_, same⟩
        rw [List.filter_cons_of_pos keeps]
        exact Option.bind_eq_some_iff.mpr ⟨_, also, reached⟩
      · cases move with
        | dropFuture ticket =>
            cases moved
            rw [List.filter_cons_of_neg keeps]
            exact @ih { scene with
              site := { scene.site with session := scene.session.dropFuture ticket } } site alike
              continued
        | _ => exact absurd rfl keeps

/-- Futures can be dropped at any time. -/
theorem follow?_of_filter {scene after : Scene η σ} {site : Site η σ} {schedule : List Move}
    (alike : scene.site.withoutFutures = site.withoutFutures)
    (followed : scene.follow? engine (schedule.filter Move.keepsFutures) = some after) :
    ∃ final, follow? engine { scene with site } schedule = some { after with site := final } ∧
      after.site.withoutFutures = final.withoutFutures := by
  induction schedule generalizing scene site with
  | nil =>
      cases followed
      exact ⟨site, rfl, alike⟩
  | cons move schedule ih =>
      by_cases keeps : move.keepsFutures = true
      · rw [List.filter_cons_of_pos keeps] at followed
        obtain ⟨next, moved, continued⟩ := Option.bind_eq_some_iff.mp followed
        obtain ⟨final, also, kept⟩ := (congruence_withoutFutures engine).move? alike moved
        obtain ⟨last, reached, same⟩ := ih kept continued
        exact ⟨last, Option.bind_eq_some_iff.mpr ⟨_, also, reached⟩, same⟩
      · cases move with
        | dropFuture ticket =>
            rw [List.filter_cons_of_neg keeps] at followed
            exact @ih scene { site with session := site.session.dropFuture ticket } alike followed
        | _ => exact absurd rfl keeps

/-- Whichever futures are dropped on the way, a run goes on in the same way. -/
theorem follow?_withoutFutures {start finish : Scene η σ} {schedule other : List Move}
    (followed : start.follow? engine schedule = some finish)
    (same : other.filter Move.keepsFutures = schedule.filter Move.keepsFutures) :
    ∃ rest, start.follow? engine other = some rest ∧
      rest.withoutFutures = finish.withoutFutures := by
  obtain ⟨bare, erased, forgotten⟩ := follow?_filter rfl followed
  rw [← same] at erased
  obtain ⟨final, reached, equal⟩ := follow?_of_filter rfl erased
  refine ⟨_, reached, ?_⟩
  simp only [withoutFutures, ← equal, ← forgotten]

end Scene

end CompileSession
