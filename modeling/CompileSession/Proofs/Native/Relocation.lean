import CompileSession.Proofs.Program.Footprint

/-!
# When a program is relocated

An engine remembers whether a relocation has succeeded.  What it remembers is told by the native
calls that it has made: a run relocates as long as none of them was a relocation that succeeded, and
never again after that.
-/

namespace CompileSession.Native

variable {ν : Type}

/-- The relocation of a context, with the code that it gave. -/
def Exchange.relocation (context : Address) (code : Int32) : Exchange :=
  ⟨.relocate context NativeCall.anyPlace, code⟩

/-- Some relocation of a context has succeeded. -/
def Relocated (context : Address) (made : List Exchange) : Prop :=
  ∃ code : Int32, Exchange.relocation context code ∈ made ∧ 0 ≤ code

/-- What has become of an engine that has made some native calls since.  Between its calls the
machine is at everybody's disposal, so that each call may find it in any state. -/
inductive Binding.Lives (code : ForeignCode ν) (start : Binding) :
    List Exchange → Binding → Prop where
  | fresh : Lives code start [] start
  | answered {made more : List Exchange} {now : Binding} {kind : AnswerKind} (call : Call kind)
      (machine : Machine (Shared ν)) :
      Lives code start made now →
      exchanges (answer code call now machine).2.2.journal = exchanges machine.journal ++ more →
      Lives code start (made ++ more) (answer code call now machine).2.1

/-- All relocations among some native calls are those of one context. -/
def RelocatesOnly (context : Address) (made : List Exchange) : Prop :=
  ∀ exchange ∈ made, exchange.relocates = true →
    ∃ code : Int32, exchange = .relocation context code ∧ 0 ≤ code

theorem any_relocates_iff {context : Address} {made : List Exchange}
    (own : RelocatesOnly context made) :
    made.any Exchange.relocates = true ↔ Relocated context made := by
  rw [List.any_eq_true]
  constructor
  · rintro ⟨exchange, member, relocates⟩
    obtain ⟨code, rfl, succeeded⟩ := own exchange member relocates
    exact ⟨code, member, succeeded⟩
  · rintro ⟨code, member, succeeded⟩
    exact ⟨_, member, decide_eq_true succeeded⟩

theorem RelocatesOnly.append {context : Address} {first second : List Exchange}
    (left : RelocatesOnly context first) (right : RelocatesOnly context second) :
    RelocatesOnly context (first ++ second) :=
  List.forall_mem_append.mpr ⟨left, right⟩

theorem Harmless.relocatesOnly {made : List Exchange} (harmless : Harmless made)
    (context : Address) : RelocatesOnly context made := by
  intro exchange member relocates
  exact absurd relocates (List.any_eq_false.mp harmless.any_relocates exchange member)

theorem Ran.relocatesOnly {context : Address} {argc : Int32} {relocated : Bool}
    {made : List Exchange} {status : Status} (ran : Ran context argc relocated made status) :
    RelocatesOnly context made := by
  induction ran with
  | relocationFailed failed =>
      refine List.forall_mem_singleton.mpr fun relocates => ?_
      rw [Status.isErr_eq_not_isOk] at failed
      simp_all [Exchange.relocates]
  | relocated succeeded _ ih =>
      exact List.forall_mem_cons.mpr ⟨fun _ => ⟨_, rfl, of_decide_eq_true succeeded⟩, ih⟩
  | noMain =>
      refine List.forall_mem_singleton.mpr fun relocates => ?_
      exact absurd relocates Bool.false_ne_true
  | main =>
      refine List.forall_mem_cons.mpr ⟨fun relocates => ?_,
        List.forall_mem_singleton.mpr fun relocates => ?_⟩
      · exact absurd relocates Bool.false_ne_true
      · exact absurd relocates Bool.false_ne_true

namespace Binding

variable {code : ForeignCode ν} {start now : Binding} {made : List Exchange}

theorem translate_relocatesOnly (binding : Binding) (before : Plant ν) {kind : AnswerKind}
    (call : Call kind) :
    RelocatesOnly binding.context (binding.translate code call before).2.1 := by
  cases executes : call.executes with
  | false => exact (harmless_translate code binding executes before).relocatesOnly _
  | true =>
      cases call with
      | relocate => exact List.forall_mem_singleton.mpr fun done => ⟨_, rfl, of_decide_eq_true done⟩
      | run argc =>
          exact (Script.ran_program code binding.library.image _ binding.context binding.relocated
            argc).relocatesOnly
      | _ => cases executes

/-- An engine keeps everything but its memory of a relocation, and that is what its native calls
tell. -/
theorem Lives.note_eq (lives : Lives code start made now) :
    now = start.note made ∧ RelocatesOnly start.context made := by
  -- That all relocations are its own is needed to read the engine's memory off its calls.
  induction lives with
  | fresh => exact ⟨start.note_nil.symm, List.forall_mem_nil _⟩
  | @answered made more now kind call machine _ journal ih =>
      obtain ⟨same, own⟩ := ih
      have follows := follows_answer code call now machine
      obtain rfl : more = (now.translate code call (plant machine)).2.1 :=
        List.append_cancel_left (journal.symm.trans follows.exchanges_eq)
      have context : now.context = start.context := (congrArg Binding.context same).trans rfl
      refine ⟨?_, own.append (context ▸ now.translate_relocatesOnly (plant machine) call)⟩
      rw [note_append, ← same]
      exact follows.binding_eq

theorem relocated_of_create {library : Library} {machine after : Machine (Shared ν)}
    (created : create code library machine = (.ok start, after)) : start.relocated = false := by
  unfold create at created
  dsimp only at created
  split at created
  · cases created
  · cases created
    rfl

/-- The native calls of a run are those of a program that is relocated if the engine remembers it
so, and the engine remembers them. -/
theorem answer_run (code : ForeignCode ν) (binding : Binding) (argc : Int32)
    (machine : Machine (Shared ν)) :
    ∃ more,
      exchanges (answer code (.run argc) binding machine).2.2.journal =
          exchanges machine.journal ++ more ∧
        Ran binding.context argc binding.relocated more
          (answer code (.run argc) binding machine).1 ∧
        (answer code (.run argc) binding machine).2.1 = binding.note more := by
  have follows := follows_answer code (.run argc) binding machine
  refine ⟨_, follows.exchanges_eq, ?_, follows.binding_eq⟩
  rw [follows.answer]
  exact Script.ran_program code binding.library.image (plant machine) binding.context
    binding.relocated argc

/-- An engine remembers exactly whether one of its relocations has succeeded.  A relocation that it
is asked for is always passed on.  A run relocates first if and only if none has succeeded; if that
fails, its code is the answer, nothing else is called, and the next run is in the same place again.
Once there is a relocated program, a run looks for its main function, fails if there is none, and
otherwise answers what that returns. -/
theorem relocates_until_success {library : Library} {machine after : Machine (Shared ν)}
    (created : create code library machine = (.ok start, after))
    (lives : Lives code start made now) :
    (now.relocated = true ↔ Relocated start.context made) ∧
    (∀ machine, ∃ given : Int32,
      exchanges (answer code .relocate now machine).2.2.journal =
          exchanges machine.journal ++ [.relocation start.context given] ∧
        (answer code .relocate now machine).1 = ⟨given⟩) ∧
    ∀ argc machine, ∃ more,
      exchanges (answer code (.run argc) now machine).2.2.journal =
          exchanges machine.journal ++ more ∧
        (Relocated start.context made →
          Ran start.context argc true more (answer code (.run argc) now machine).1) ∧
        (¬ Relocated start.context made → ∃ given later,
          more = .relocation start.context given :: later ∧
          ((given < 0 ∧ later = [] ∧ (answer code (.run argc) now machine).1 = ⟨given⟩ ∧
              (answer code (.run argc) now machine).2.1.relocated = false) ∨
            (0 ≤ given ∧
              Ran start.context argc true later (answer code (.run argc) now machine).1 ∧
              (answer code (.run argc) now machine).2.1.relocated = true))) := by
  obtain ⟨same, own⟩ := lives.note_eq
  have context : now.context = start.context := (congrArg Binding.context same).trans rfl
  have remembers : now.relocated = true ↔ Relocated start.context made := by
    rw [← any_relocates_iff own, same, note, relocated_of_create created, Bool.false_or]
  refine ⟨remembers, ?_, ?_⟩
  · intro machine
    have follows := follows_answer code .relocate now machine
    rw [← context]
    exact ⟨_, follows.exchanges_eq, follows.answer⟩
  · intro argc machine
    obtain ⟨more, journal, ran, noted⟩ := answer_run code now argc machine
    generalize answer code (.run argc) now machine = result at journal ran noted ⊢
    obtain ⟨status, later, machine⟩ := result
    rw [context] at ran
    refine ⟨more, journal, ?_, ?_⟩
    · intro succeeded
      rw [remembers.mpr succeeded] at ran
      exact ran
    · intro unrelocated
      have forgetful : now.relocated = false := by
        rw [← Bool.not_eq_true, remembers]
        exact unrelocated
      have remembered : later.relocated = more.any Exchange.relocates := by
        refine (congrArg Binding.relocated noted).trans ?_
        rw [note, forgetful, Bool.false_or]
      rw [forgetful] at ran
      cases ran with
      | @relocationFailed given failed =>
          refine ⟨given, [], rfl, .inl ⟨of_decide_eq_true failed, rfl, rfl, ?_⟩⟩
          rw [Status.isErr_eq_not_isOk, Bool.not_eq_true'] at failed
          exact remembered.trans ((Bool.or_false _).trans failed)
      | relocated succeeded ran =>
          refine ⟨_, _, rfl, .inr ⟨of_decide_eq_true succeeded, ran, ?_⟩⟩
          exact remembered.trans (Bool.or_eq_true_iff.mpr (.inl succeeded))

/-- A library that relocates at the second attempt only. -/
def wavering : ForeignCode Nat where
  openImage _ _ := .ok 0
  missing? _ _ _ := none
  invoke {kind} _ call attempts memory :=
    { result :=
        match kind, call with
        | .address, _ => (64 : Address)
        | .code, .relocate _ _ => if attempts = 1 then 0 else -1
        | .code, _ => (42 : Int32)
        | .nothing, _ => ()
      state :=
        match call with
        | .relocate _ _ => attempts + 1
        | _ => attempts
      memory
      reports := [] }

/-- A relocation that fails after one that succeeded is not remembered. -/
theorem relocates_until_success_sample :
    let machine (attempts : Nat) : Machine (Shared Nat) :=
      { memory := .zeroed 1, shared := { foreign := attempts } }
    ∃ start after now made,
      create wavering ⟨"libtcc.so", 0⟩ (machine 0) = (.ok start, after) ∧
      Lives wavering start made now ∧
      made = [.relocation 64 (-1), .relocation 64 0, .relocation 64 (-1)] ∧
      now.relocated = true ∧ (now.relocated = true ↔ Relocated start.context made) ∧
      ∃ more, exchanges (answer wavering (.run 3) now (machine 3)).2.2.journal = [] ++ more ∧
        (Relocated start.context made →
          Ran start.context 3 true more (answer wavering (.run 3) now (machine 3)).1) ∧
        (answer wavering (.run 3) now (machine 3)).1 = ⟨42⟩ := by
  intro machine
  have created : create wavering ⟨"libtcc.so", 0⟩ (machine 0) = (.ok _, _) := rfl
  have failed : Lives wavering ⟨⟨"libtcc.so", 0⟩, 64, 0, false⟩ [.relocation 64 (-1)] _ :=
    .answered (.run 3) (machine 0) .fresh rfl
  have relocated : Lives wavering _ ([.relocation 64 (-1)] ++ [.relocation 64 0]) _ :=
    .answered .relocate (machine 1) failed rfl
  have again : Lives wavering _ (_ ++ [.relocation 64 (-1)]) _ :=
    .answered .relocate (machine 2) relocated rfl
  obtain ⟨remembers, -, runs⟩ := relocates_until_success created again
  obtain ⟨more, journal, ran, -⟩ := runs 3 (machine 3)
  exact ⟨_, _, _, _, created, again, rfl, rfl, remembers, more, journal, ran, rfl⟩

end Binding

end CompileSession.Native
