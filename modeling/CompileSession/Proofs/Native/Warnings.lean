import CompileSession.Proofs.Native.Collecting
import CompileSession.Proofs.Session.Warnings

/-!
# Warnings in sessions on a library

A library's engine logs what it is told by the library, but never in the name of a session.  So
whatever the library does, all warnings about failures are those that sessions owe.
-/

namespace CompileSession

open Native

variable {ν : Type} (code : ForeignCode ν)

theorem Log.Event.warning?_of_fields {session : Nat} {event : Event} (bare : event.fields = []) :
    event.warning? session = none := by
  unfold warning?
  rw [bare]
  exact if_neg (fun named => by cases named.2)

/-- An engine on a library never warns in the name of a session. -/
theorem Native.Binding.engine_silent (session : Nat) (failure : Int) :
    ¬ (Binding.engine code).Utters session failure := by
  rintro ⟨kind, call, binding, machine, event, empty, heard, warns⟩
  by_cases messages : kind = .messages
  · subst kind
    cases call with
    | takeDiagnostics =>
        have unchanged : Entry.event event ∈ machine.journal := heard
        rw [empty] at unchanged
        cases unchanged
  · obtain ⟨added, journal, bare⟩ :=
      (Binding.answer_serves code binding machine call messages).fields_eq_nil
    have inside : Entry.event event ∈ added := by
      have answered : Entry.event event ∈
          (Binding.answer code call binding machine).2.2.journal := heard
      rw [journal, empty] at answered
      exact answered
    rw [Log.Event.warning?_of_fields (bare event inside)] at warns
    cases warns

/-- In a session on a library there are as many warnings with a code as there are failures with that
code of calls that have returned to their callers. -/
theorem Scene.library_warnings {binding : Binding} {config : SessionConfig}
    {host : Host (Shared ν)} {schedule : List Move} {finish : Scene (Shared ν) Binding}
    (followed :
      (idle (Session.createConfigured (Binding.engine code) binding config host).2).follow?
        (Binding.engine code) schedule = some finish) (failure : Int) :
    ∃ added, finish.site.host.journal = host.journal ++ added ∧
      (added.marks host.nextSession).count (.failure failure) =
        (added.marks host.nextSession).count (.warning failure) + finish.owed.count failure := by
  obtain ⟨-, added, journal, owing⟩ := follow?_owes followed
  exact ⟨added, journal, owing.count_eq (Binding.engine_silent code host.nextSession) failure⟩

end CompileSession
