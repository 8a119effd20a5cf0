import CompileSession.Proofs.Session.Congruence
import CompileSession.Proofs.Session.Delivering

/-!
# Completions that give up

A completion that gives up on a worker, or while it brings a rejection, leaves a note in the log and
nothing else: the run is the one in which it returns.  A completion that gives up while it is
delivered to a caller takes the caller with it.
-/

namespace CompileSession

variable {η σ : Type}

/-- Whether an entry is the note that a completion has given up away from the callers. -/
def Entry.isPanicNote : Entry → Bool
  | .event noted => noted = { level := .warn, message := "async compile completion panicked" }
  | _ => false

namespace Move

/-- Whether a move lets a completion give up that runs away from the callers. -/
def givesUpAway : Move → Bool
  | .complete _ panics => panics
  | _ => false

/-- The move after which a completion returns that would have given up away from the callers. -/
def calmed : Move → Move
  | .complete position _ => .complete position false
  | move => move

theorem calmed_eq {move : Move} (calm : move.givesUpAway = false) : move.calmed = move := by
  cases move with
  | complete position panics => exact congrArg (Move.complete position) calm.symm
  | _ => rfl

end Move

namespace Site

/-- A site with another journal. -/
def withJournal (journal : Journal) (site : Site η σ) : Site η σ :=
  { site with host := { site.host with journal } }

/-- No engine sees the journal, and what is added to it does not depend on it. -/
theorem perform_withJournal (engine : Engine η σ) {kind : AnswerKind} (ticket : Option Nat)
    (call : Call kind) (site : Site η σ) :
    ∃ more : Journal, (site.perform engine ticket call).2.host.journal = site.host.journal ++ more ∧
      ∀ journal, (site.withJournal journal).perform engine ticket call =
        ((site.perform engine ticket call).1,
          (site.perform engine ticket call).2.withJournal (journal ++ more)) := by
  refine ⟨_, List.append_assoc .., ?_⟩
  intro journal
  rw [← List.append_assoc]
  rfl

/-- Two sites differ in nothing but that at the first one so many more completions were noted to
have given up. -/
structure Louder (notes : Nat) (site other : Site η σ) : Prop where
  same : other = site.withJournal other.host.journal
  entries : site.host.journal.filter (fun entry => !entry.isPanicNote) =
    other.host.journal.filter fun entry => !entry.isPanicNote
  panicNotes : site.host.journal.countP Entry.isPanicNote =
    other.host.journal.countP Entry.isPanicNote + notes

namespace Louder

variable {notes : Nat} {site other : Site η σ}

theorem refl (site : Site η σ) : Louder 0 site site :=
  ⟨rfl, rfl, rfl⟩

/-- What is added to both journals makes no difference. -/
theorem append (louder : Louder notes site other) (more : Journal) :
    Louder notes (site.withJournal (site.host.journal ++ more))
      (other.withJournal (other.host.journal ++ more)) where
  same := by
    rw [louder.same]
    rfl
  entries := by
    simp only [withJournal, List.filter_append, louder.entries]
  panicNotes := by
    simp only [withJournal, List.countP_append, louder.panicNotes]
    omega

/-- What is changed on both sides beside the journal makes no difference. -/
theorem change (louder : Louder notes site other) (update : Site η σ → Site η σ)
    (kept : ∀ site, (update site).host.journal = site.host.journal)
    (blind : ∀ site journal, update (site.withJournal journal) =
      (update site).withJournal journal) : Louder notes (update site) (update other) where
  same := by
    rw [kept, ← blind, ← louder.same]
  entries := by
    rw [kept, kept, louder.entries]
  panicNotes := by
    rw [kept, kept, louder.panicNotes]

/-- A completion that gives up leaves a note and nothing else. -/
theorem notePanic (louder : Louder notes site other) : Louder (notes + 1) site.notePanic other where
  same := louder.same
  entries := by
    refine Eq.trans ?_ louder.entries
    simp [Site.notePanic, log, Host.log, Machine.log, Machine.record, Entry.isPanicNote]
  panicNotes := by
    have counted := louder.panicNotes
    simp [Site.notePanic, log, Host.log, Machine.log, Machine.record, Entry.isPanicNote]
    omega

end Louder

/-- Sessions cannot tell how many completions were noted to have given up. -/
theorem congruence_louder (engine : Engine η σ) (notes : Nat) :
    Congruence engine (Louder (η := η) (σ := σ) notes) where
  session {site other} louder := by
    refine ⟨site.session.id, site.session.futures, ?_⟩
    rw [louder.same]
    rfl
  linking louder := by
    rw [louder.same]
    rfl
  record {site other} entry _ louder := by
    have number : other.session.id = site.session.id := by
      rw [louder.same]
      rfl
    rw [number]
    exact louder.append [entry site.session.id]
  perform {site other} kind ticket call louder := by
    obtain ⟨more, added, performed⟩ := perform_withJournal engine ticket call site
    rw [louder.same, performed]
    refine ⟨rfl, rfl, ?_, ?_⟩
    · simp only [added, withJournal, List.filter_append, louder.entries]
    · simp only [added, withJournal, List.countP_append, louder.panicNotes]
      omega
  setUnits units louder := louder.change (Site.setUnits units) (fun _ => rfl) fun _ _ => rfl
  mapFutures change louder := louder.change (Site.mapFutures change) (fun _ => rfl) fun _ _ => rfl

end Site

namespace Scene

variable {engine : Engine η σ}

/-- Where a completion gives up away from the callers, it could have returned as well. -/
theorem complete?_calmed {scene after : Scene η σ} {site : Site η σ} {notes position : Nat}
    (louder : scene.site.Louder notes site) (moved : scene.complete? position true = some after) :
    ∃ final, complete? position false { scene with site } = some { after with site := final } ∧
      after.site.Louder (notes + 1) final := by
  obtain ⟨activation, found, rfl⟩ := Option.map_eq_some_iff.mp moved
  exact ⟨site, Option.map_eq_some_iff.mpr ⟨activation, found, rfl⟩, louder.notePanic⟩

/-- A run in which completions give up away from the callers is, but for the notes about it, the run
in which they return. -/
theorem follow?_calmed {scene after : Scene η σ} {site : Site η σ} {notes : Nat}
    {schedule : List Move} (louder : scene.site.Louder notes site)
    (followed : scene.follow? engine schedule = some after) :
    ∃ final, follow? engine { scene with site } (schedule.map Move.calmed) =
        some { after with site := final } ∧
      after.site.Louder (notes + schedule.countP Move.givesUpAway) final := by
  induction schedule generalizing scene site notes with
  | nil =>
      cases followed
      exact ⟨site, rfl, louder⟩
  | cons move schedule ih =>
      obtain ⟨next, moved, continued⟩ := Option.bind_eq_some_iff.mp followed
      have step : ∃ final, move? engine { scene with site } move.calmed =
            some { next with site := final } ∧
          next.site.Louder (notes + if move.givesUpAway then 1 else 0) final := by
        cases away : move.givesUpAway with
        | false =>
            rw [Move.calmed_eq away]
            exact (Site.congruence_louder engine notes).move? louder moved
        | true =>
            cases move with
            | complete position panics =>
                obtain rfl : panics = true := away
                exact complete?_calmed louder moved
            | _ => cases away
      obtain ⟨middle, calmed, kept⟩ := step
      obtain ⟨final, reached, louder⟩ := ih kept continued
      refine ⟨final, Option.bind_eq_some_iff.mpr ⟨_, calmed, reached⟩, ?_⟩
      rw [List.countP_cons, Nat.add_comm (List.countP _ schedule), ← Nat.add_assoc]
      exact louder

end Scene

namespace Site

/-- A completion that gives up while it is delivered takes the caller with it, and what is behind it
stays in the queue.  Away from the callers a completion that gives up leaves a note in the log, and
everything else goes on as if it had returned. -/
theorem giving_up_unwinds_callers_only (site : Site η σ) (engine : Engine η σ) :
    (∃ units entered, site.outlet.Passes site.deliverCompletions.2.outlet units entered ∧
      (((∀ unit ∈ units, unit.givesUp = false) ∧
          site.deliverCompletions.1 = .returned units.length ∧
          site.deliverCompletions.2.session.queue = []) ∨
        ∃ before last, units = before ++ [last] ∧ (∀ unit ∈ before, unit.givesUp = false) ∧
          last.givesUp = true ∧
          site.deliverCompletions.1 = .panicked (.completion site.session.id last.ticket))) ∧
    site.deliverCompletionsTimeout = site.deliverCompletions ∧
    ∀ start finish : Scene η σ, ∀ schedule, start.follow? engine schedule = some finish →
      ∃ calm, start.follow? engine (schedule.map Move.calmed) =
          some { finish with site := calm } ∧
        finish.site.Louder (schedule.countP Move.givesUpAway) calm := by
  refine ⟨?_, site.deliverCompletionsTimeout_eq, ?_⟩
  · obtain ⟨units, ends⟩ := site.deliverCompletions_ends
    obtain ⟨entered, passes⟩ := ends.passes
    exact ⟨units, entered, passes, ends.cases⟩
  · intro start finish schedule followed
    obtain ⟨calm, reached, louder⟩ := Scene.follow?_calmed (.refl start.site) followed
    rw [Nat.zero_add] at louder
    exact ⟨calm, reached, louder⟩

theorem giving_up_unwinds_callers_only_sample :
    ∃ finish, (Scene.idle (sample .execute .worker)).follow? Engine.content
        [.submit "first" (.callback [] true), .submit "second" .future, .takeUp 0, .compile,
          .finish 0, .complete 0 true, .takeUp 0, .compile, .finish 0] = some finish ∧
      ∃ calm, (Scene.idle (sample .execute .worker)).follow? Engine.content
          [.submit "first" (.callback [] true), .submit "second" .future, .takeUp 0, .compile,
            .finish 0, .complete 0 false, .takeUp 0, .compile, .finish 0] =
            some { finish with site := calm } ∧
        finish.site.Louder 1 calm := by
  obtain ⟨-, -, away⟩ :=
    (sample .execute .worker).giving_up_unwinds_callers_only Engine.content
  have followed : (Scene.idle (sample .execute .worker)).follow? Engine.content
      [.submit "first" (.callback [] true), .submit "second" .future, .takeUp 0, .compile,
        .finish 0, .complete 0 true, .takeUp 0, .compile, .finish 0] = some _ := rfl
  exact ⟨_, followed, away _ _ _ followed⟩

/-- The caller is not told how many completions were invoked, and that of the second unit was not.
-/
theorem giving_up_leaves_queue :
    sampleQueue.session.queue.map FinishedJob.ticket = [0, 1] ∧
      sampleQueue.deliverCompletions.1 = .panicked (.completion 1 0) ∧
      sampleQueue.deliverCompletions.2.session.queue.map FinishedJob.ticket = [1] ∧
      sampleQueue.deliverCompletionsTimeout.1 = .panicked (.completion 1 0) ∧
      sampleQueue.deliverCompletionsTimeout.2.session.queue.map FinishedJob.ticket = [1] :=
  ⟨rfl, rfl, rfl, rfl, rfl⟩

end Site

end CompileSession
