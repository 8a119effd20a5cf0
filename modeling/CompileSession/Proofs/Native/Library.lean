import CompileSession.Native.Library

/-!
# Looking for a library

A library is looked for without any native call.  All that happens meanwhile is that events are
logged, and that the default library is remembered once it was found.
-/

namespace CompileSession.Native

variable {ν : Type}

/-- Events were logged on a machine, and nothing else was done with it. -/
inductive Logs (machine : Machine (Shared ν)) : Machine (Shared ν) → Prop where
  | nothing : Logs machine machine
  | log {after : Machine (Shared ν)} (level : Log.Level) (message : String)
      (fields : List (String × Log.Value)) :
      Logs machine after → Logs machine (after.log level message fields)

theorem Logs.trans {machine middle after : Machine (Shared ν)} (first : Logs machine middle)
    (second : Logs middle after) : Logs machine after := by
  induction second with
  | nothing => exact first
  | log level message fields _ ih => exact ih.log level message fields

namespace Library

variable (code : ForeignCode ν) (machine : Machine (Shared ν))

theorem load_logs (path : String) : Logs machine (load code path machine).2 := by
  unfold load
  split
  · exact .nothing
  · split
    · exact .nothing
    · split
      · exact .nothing
      · exact Logs.nothing.log ..

theorem loadFirst_logs (places : List String) :
    Logs machine (loadFirst code places machine).2 := by
  induction places generalizing machine with
  | nil => exact .nothing
  | cons place rest ih =>
      have tried := load_logs code machine place
      unfold loadFirst
      split
      case h_1 library after loaded =>
        rw [loaded] at tried
        exact tried
      case h_2 error after loaded =>
        rw [loaded] at tried
        exact (tried.log ..).trans (ih _)

theorem locate_logs (environment : Environment) :
    Logs machine (locate code environment machine).2 := by
  unfold locate
  split
  · exact load_logs ..
  · have found := loadFirst_logs code machine usualPlaces
    split
    case h_1 library after loaded =>
      rw [loaded] at found
      exact found
    case h_2 after loaded =>
      rw [loaded] at found
      exact found

theorem byDefault_logs (environment : Environment) :
    ∃ after default, Logs machine after ∧ (byDefault code environment machine).2 =
      { after with shared := { after.shared with default } } := by
  unfold byDefault
  split
  case h_1 => exact ⟨machine, machine.shared.default, .nothing, rfl⟩
  case h_2 =>
    have found := locate_logs code machine environment
    split
    case h_1 error after located =>
      rw [located] at found
      exact ⟨after, after.shared.default, found, rfl⟩
    case h_2 library after located =>
      rw [located] at found
      exact ⟨after, some library, found, rfl⟩

end Library

end CompileSession.Native
