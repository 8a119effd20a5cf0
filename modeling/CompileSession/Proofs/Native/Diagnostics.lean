import CompileSession.Native.Process
import CompileSession.Proofs.Native.Collecting
import CompileSession.Proofs.Session.Desk
import CompileSession.Proofs.Session.Works
import Mathlib.Data.List.GetD
import Mathlib.Data.List.Nodup

/-!
# Whose messages a session takes

Every engine has a sink of its own.  What a session has taken out of the sink and what is still in
it are the messages that were reported there, in order.  That is kept by everything that can happen
in a process, as long as the libraries report to no sink that they were not told of.  If they pass
along the sink that the reporting context was given, these are the messages of that context; those
that come without a sink are lost.
-/

namespace CompileSession

open Native

private theorem split_append {α : Type} {items more before later : List α} {item : α}
    (split : items ++ more = before ++ item :: later) :
    (∃ rest, items = before ++ item :: rest) ∨
      ∃ middle, before = items ++ middle ∧ more = middle ++ item :: later := by
  rcases List.append_eq_append_iff.mp split with ⟨middle, first, second⟩ | ⟨middle, first, second⟩
  · exact .inr ⟨middle, first, second⟩
  · cases middle with
    | nil => exact .inr ⟨[], by simpa using first.symm, second.symm⟩
    | cons head rest =>
        obtain ⟨rfl, rfl⟩ := List.cons.inj second
        exact .inl ⟨rest, first⟩

/-- The session that took messages out of its sink, if one did. -/
def Entry.taker? : Entry → Option Nat
  | @Entry.engineCall owner _ .messages .takeDiagnostics (.returned _) => some owner
  | _ => none

/-- A session takes messages out of its sink. -/
def Entry.take (session : Nat) (ticket : Option Nat) (messages : List String) : Entry :=
  .engineCall session ticket .takeDiagnostics (.returned messages)

theorem Entry.take_inj {first second : Nat} {ticket other : Option Nat}
    {messages more : List String}
    (same : Entry.take first ticket messages = Entry.take second other more) :
    first = second ∧ messages = more := by
  cases same
  exact ⟨rfl, rfl⟩

@[simp] theorem Entry.taken_take (session : Nat) (ticket : Option Nat) (messages : List String) :
    (Entry.take session ticket messages).taken session = messages :=
  if_pos rfl

theorem Entry.taken_eq_nil {entry : Entry} {session : Nat} (other : entry.taker? ≠ some session) :
    entry.taken session = [] := by
  unfold Entry.taken
  split
  case h_1 owner ticket messages =>
    rw [if_neg]
    rintro rfl
    exact other rfl
  case h_2 => rfl

theorem Entry.taker?_of_ofMachine {entry : Entry} (ofMachine : entry.ofMachine = true) :
    entry.taker? = none := by
  cases entry with
  | event | nativeCall => rfl
  | _ => cases ofMachine

theorem Entry.taker?_engineCall {kind : AnswerKind} (others : kind ≠ .messages) (session : Nat)
    (ticket : Option Nat) (call : Call kind) (reply : Reply kind.Answer) :
    (Entry.engineCall session ticket call reply).taker? = none := by
  cases call with
  | takeDiagnostics => exact absurd rfl others
  | _ => rfl

theorem Entry.silent_of_isOwn {entry : Entry} (own : entry.isOwn = true) :
    entry.reports = [] ∧ entry.channel? = none ∧ entry.taker? = none := by
  cases entry with
  | engineCall | nativeCall => cases own
  | _ => exact ⟨rfl, rfl, rfl⟩

namespace Journal

/-- Whether every report with a sink came with one that is known as that of its context, or had been
set up for it before. -/
def attributedAfter (known : List Channel) : Journal → Bool
  | [] => true
  | entry :: rest =>
    let known := known ++ entry.channel?.toList
    entry.reports.all (fun report =>
      report.sink.all fun sink => { context := report.context, sink } ∈ known) &&
      attributedAfter known rest

/-- Whether every report with a sink came with one that had been set up before for its context. -/
def attributed (journal : Journal) : Bool :=
  journal.attributedAfter []

/-- Whenever a session took messages, it was given what had been reported to its sink and not been
taken before. -/
def TakesAll (session sink : Nat) (journal : Journal) : Prop :=
  ∀ before ticket messages later, journal = before ++ Entry.take session ticket messages :: later →
    before.taken session ++ messages = before.reported sink

theorem attributedAfter_append (known : List Channel) (first second : Journal) :
    attributedAfter known (first ++ second) =
      (attributedAfter known first && attributedAfter (known ++ first.channels) second) := by
  induction first generalizing known with
  | nil => simp [attributedAfter]
  | cons entry rest ih => simp [attributedAfter, ih, Bool.and_assoc]

theorem attributed_of_prefix {first second : Journal} (earlier : first <+: second)
    (attributed : second.attributed = true) : first.attributed = true := by
  obtain ⟨rest, rfl⟩ := earlier
  rw [Journal.attributed, attributedAfter_append, Bool.and_eq_true] at attributed
  exact attributed.1

/-- Nothing is reported to a sink that is not set up. -/
theorem reported_eq_nil {known : List Channel} {journal : Journal} {sink : Nat}
    (attributed : journal.attributedAfter known = true)
    (unknown : ∀ channel ∈ known ++ journal.channels, channel.sink ≠ sink) :
    journal.reported sink = [] := by
  induction journal generalizing known with
  | nil => rfl
  | cons entry rest ih =>
      simp only [attributedAfter, Bool.and_eq_true, List.all_eq_true] at attributed
      rw [channels_cons, ← List.append_assoc] at unknown
      rw [reported_cons, ih attributed.2 unknown, List.append_nil, List.filterMap_eq_nil_iff]
      intro report member
      have known := attributed.1 report member
      obtain ⟨context, owner, message⟩ := report
      cases owner with
      | none => rfl
      | some owner =>
          simp only [Option.all_some, decide_eq_true_eq] at known
          have other : owner ≠ sink := unknown _ (List.mem_append_left _ known)
          cases message with
          | none => rfl
          | some message => exact if_neg other

/-- A report with a sink came on a channel that was set up. -/
theorem channel_mem {known : List Channel} {journal : Journal}
    (attributed : journal.attributedAfter known = true) {report : Report} {sink : Nat}
    (member : report ∈ journal.reports) (given : report.sink = some sink) :
    { context := report.context, sink } ∈ known ++ journal.channels := by
  induction journal generalizing known with
  | nil => cases member
  | cons entry rest ih =>
      simp only [attributedAfter, Bool.and_eq_true, List.all_eq_true] at attributed
      rw [channels_cons, ← List.append_assoc]
      rw [reports, List.flatMap_cons, List.mem_append] at member
      rcases member with here | later
      · have listed := attributed.1 report here
        rw [given, Option.all_some, decide_eq_true_eq] at listed
        exact List.mem_append_left _ listed
      · exact ih attributed.2 later

/-- Where neither contexts nor sinks are shared, what was reported to the sink of a channel is what
was reported on its context. -/
theorem reported_eq_reportedOn {journal part : Journal} {channel : Channel}
    (attributed : journal.attributed = true)
    (contexts : (journal.channels.map Channel.context).Nodup)
    (sinks : (journal.channels.map Channel.sink).Nodup) (own : channel ∈ journal.channels)
    (inside : ∀ report ∈ part.reports, report ∈ journal.reports) :
    part.reported channel.sink = part.reportedOn channel.context := by
  have same : part.reported channel.sink =
      part.reports.filterMap (Report.textFor? channel.sink) :=
    List.filterMap_flatMap.symm
  rw [same]
  apply List.filterMap_congr
  intro report member
  obtain ⟨context, owner, message⟩ := report
  cases owner with
  | none => simp [Report.textFor?, Report.textOn?]
  | some owner =>
      have linked : { context, sink := owner } ∈ journal.channels :=
        channel_mem attributed (inside _ member) rfl
      have agree : owner = channel.sink ↔ context = channel.context := by
        constructor
        · intro shared
          exact congrArg Channel.context (List.inj_on_of_nodup_map sinks linked own shared)
        · intro shared
          exact congrArg Channel.sink (List.inj_on_of_nodup_map contexts linked own shared)
      cases message with
      | none => simp [Report.textFor?, Report.textOn?]
      | some message => simp [Report.textFor?, Report.textOn?, agree]

theorem taken_eq_nil {journal : Journal} {session : Nat}
    (others : ∀ entry ∈ journal, entry.taker? ≠ some session) : journal.taken session = [] :=
  List.flatMap_eq_nil_iff.mpr fun entry member => Entry.taken_eq_nil (others entry member)

theorem TakesAll.append {session sink : Nat} {journal added : Journal}
    (takes : journal.TakesAll session sink)
    (others : ∀ entry ∈ added, entry.taker? ≠ some session) :
    (journal ++ added).TakesAll session sink := by
  intro before ticket messages later split
  rcases split_append split with ⟨rest, earlier⟩ | ⟨middle, -, new⟩
  · exact takes before ticket messages rest earlier
  · refine absurd rfl (others (Entry.take session ticket messages) ?_)
    rw [new]
    exact List.mem_append_right _ List.mem_cons_self

/-- Nothing is taken twice: without a report in between the second time gives nothing. -/
theorem TakesAll.second_eq_nil {session sink : Nat} {journal : Journal}
    (takes : journal.TakesAll session sink) {before between later : Journal}
    {ticket other : Option Nat} {first second : List String}
    (split : journal = before ++ Entry.take session ticket first ::
      (between ++ Entry.take session other second :: later))
    (unreported : between.reported sink = []) : second = [] := by
  have earlier := takes before ticket first _ split
  have whole := takes (before ++ Entry.take session ticket first :: between) other second later
    (by rw [split, List.append_assoc, List.cons_append])
  have nothing : (Entry.take session ticket first).reports = [] := rfl
  rw [taken_append, taken_cons, Entry.taken_take, reported_append, reported_cons, nothing,
    unreported, ← List.append_assoc, earlier] at whole
  simp only [List.filterMap_nil, List.append_nil, List.append_assoc,
    List.append_right_eq_self] at whole
  exact (List.append_eq_nil_iff.mp whole).2

end Journal

namespace Native

variable {ν : Type}

def Binding.channel (binding : Binding) : Channel where
  context := binding.context
  sink := binding.sink

/-- Every engine has a sink of its own, and so has every session.  Nothing was taken out of the
sinks of idle engines; what was taken out of the others went to their sessions. -/
structure Tidy (host : Host (Shared ν)) (owners : List (Nat × Channel)) (idle : List Channel) :
    Prop where
  sinks_eq : host.journal.channels.map Channel.sink = List.range host.shared.sinks.length
  known : ∀ channel ∈ owners.map Prod.snd ++ idle, channel ∈ host.journal.channels
  apart : ((owners.map Prod.snd ++ idle).map Channel.sink).Nodup
  numbers : (owners.map Prod.fst).Nodup
  numbered : ∀ owner ∈ owners, owner.1 < host.nextSession
  takers : ∀ entry ∈ host.journal, ∀ session, host.nextSession ≤ session →
    entry.taker? ≠ some session
  idle_eq : ∀ channel ∈ idle,
    host.shared.sinks.getD channel.sink [] = host.journal.reported channel.sink
  owned_eq : ∀ owner ∈ owners,
    host.journal.taken owner.1 ++ host.shared.sinks.getD owner.2.sink [] =
      host.journal.reported owner.2.sink
  takes : ∀ owner ∈ owners, host.journal.TakesAll owner.1 owner.2.sink

/-- An engine keeps its context and its sink. -/
theorem Binding.channel_perform (code : ForeignCode ν) {kind : AnswerKind} (call : Call kind)
    (ticket : Option Nat) (site : Site (Shared ν) Binding) :
    (site.perform (Binding.engine code) ticket call).2.session.engine.channel =
      site.session.engine.channel := by
  have follows := follows_answer code call site.session.engine
    { site.host.toMachine with journal := [] }
  exact (congrArg Binding.channel follows.binding_eq).trans rfl

namespace Tidy

variable {host after : Host (Shared ν)} {owners : List (Nat × Channel)} {idle : List Channel}

theorem sink_lt (tidy : Tidy host owners idle) {channel : Channel}
    (member : channel ∈ host.journal.channels) : channel.sink < host.shared.sinks.length := by
  have listed := List.mem_map_of_mem (f := Channel.sink) member
  rw [tidy.sinks_eq] at listed
  exact List.mem_range.mp listed

theorem sink_ne_of_idle (tidy : Tidy host owners idle) {owner : Nat × Channel}
    {channel : Channel} (owned : owner ∈ owners) (resting : channel ∈ idle) :
    owner.2.sink ≠ channel.sink := by
  have apart := tidy.apart
  rw [List.map_append, List.nodup_append] at apart
  exact apart.2.2 _ (List.mem_map_of_mem (List.mem_map_of_mem owned)) _
    (List.mem_map_of_mem resting)

theorem eq_of_sink (tidy : Tidy host owners idle) {first second : Nat × Channel}
    (member : first ∈ owners) (memberToo : second ∈ owners)
    (same : first.2.sink = second.2.sink) : first = second := by
  have apart := tidy.apart
  rw [List.map_append, List.nodup_append, List.map_map] at apart
  exact List.inj_on_of_nodup_map apart.1 member memberToo same

theorem eq_of_number (tidy : Tidy host owners idle) {first second : Nat × Channel}
    (member : first ∈ owners) (memberToo : second ∈ owners) (same : first.1 = second.1) :
    first = second :=
  List.inj_on_of_nodup_map tidy.numbers member memberToo same

/-- What is collected goes to the sinks, new ones included, and is what was reported. -/
theorem extend (tidy : Tidy host owners idle) {added : Journal} {fresh : List Channel}
    (journal_eq : after.journal = host.journal ++ added)
    (sinks_eq : after.shared.sinks =
      addTo (host.shared.sinks ++ fresh.map fun _ => []) added.reported)
    (next_eq : after.nextSession = host.nextSession) (linked : added.channels = fresh)
    (numbered : (host.journal.channels ++ fresh).map Channel.sink =
      List.range (host.shared.sinks.length + fresh.length))
    (untaken : ∀ entry ∈ added, entry.taker? = none)
    (unreported : ∀ channel ∈ fresh, host.journal.reported channel.sink = []) :
    Tidy after owners (idle ++ fresh) := by
  have nobody (session : Nat) : ∀ entry ∈ added, entry.taker? ≠ some session := by
    intro entry member same
    cases (untaken entry member).symm.trans same
  have channels : after.journal.channels = host.journal.channels ++ fresh := by
    rw [journal_eq, Journal.channels_append, linked]
  have all : (host.journal.channels.map Channel.sink ++ fresh.map Channel.sink).Nodup := by
    rw [← List.map_append, numbered]
    exact List.nodup_range
  rw [List.nodup_append] at all
  have held {channel : Channel} (member : channel ∈ host.journal.channels ++ fresh) :
      after.shared.sinks.getD channel.sink [] =
        (host.shared.sinks ++ fresh.map fun _ => []).getD channel.sink [] ++
          added.reported channel.sink := by
    have inside : channel.sink < host.shared.sinks.length + fresh.length := by
      have listed := List.mem_map_of_mem (f := Channel.sink) member
      rw [numbered] at listed
      exact List.mem_range.mp listed
    rw [sinks_eq, getD_addTo]
    rwa [List.length_append, List.length_map]
  have old {channel : Channel} (member : channel ∈ owners.map Prod.snd ++ idle) :
      after.shared.sinks.getD channel.sink [] =
        host.shared.sinks.getD channel.sink [] ++ added.reported channel.sink := by
    have known := tidy.known channel member
    rw [held (List.mem_append_left _ known), List.getD_append _ _ _ _ (tidy.sink_lt known)]
  have new {channel : Channel} (member : channel ∈ fresh) :
      after.shared.sinks.getD channel.sink [] = added.reported channel.sink := by
    have outside : host.shared.sinks.length ≤ channel.sink := by
      by_contra inside
      have listed : channel.sink ∈ host.journal.channels.map Channel.sink := by
        rw [tidy.sinks_eq]
        exact List.mem_range.mpr (Nat.lt_of_not_le inside)
      exact all.2.2 _ listed _ (List.mem_map_of_mem member) rfl
    rw [held (List.mem_append_right _ member), List.getD_append_right _ _ _ _ outside]
    simp [List.getD_eq_getElem?_getD]
  refine {
    sinks_eq := ?_, known := ?_, apart := ?_, numbers := tidy.numbers, numbered := ?_,
    takers := ?_, idle_eq := ?_, owned_eq := ?_, takes := ?_ }
  · rw [channels, numbered, sinks_eq, length_addTo, List.length_append, List.length_map]
  · rw [channels, ← List.append_assoc]
    intro channel member
    rcases List.mem_append.mp member with before | added
    · exact List.mem_append_left _ (tidy.known channel before)
    · exact List.mem_append_right _ added
  · rw [← List.append_assoc, List.map_append, List.nodup_append]
    refine ⟨tidy.apart, all.2.1, ?_⟩
    intro sink listed
    obtain ⟨channel, member, rfl⟩ := List.mem_map.mp listed
    exact all.2.2 _ (List.mem_map_of_mem (tidy.known channel member))
  · rw [next_eq]
    exact tidy.numbered
  · rw [journal_eq, next_eq]
    intro entry member session later
    rcases List.mem_append.mp member with before | added
    · exact tidy.takers entry before session later
    · exact nobody session entry added
  · intro channel member
    rw [journal_eq, Journal.reported_append]
    rcases List.mem_append.mp member with before | added
    · rw [old (List.mem_append_right _ before), tidy.idle_eq channel before]
    · rw [new added, unreported channel added, List.nil_append]
  · intro owner member
    rw [old (List.mem_append_left _ (List.mem_map_of_mem member)), journal_eq,
      Journal.taken_append, Journal.taken_eq_nil (nobody owner.1), List.append_nil,
      Journal.reported_append, ← tidy.owned_eq owner member, List.append_assoc]
  · intro owner member
    rw [journal_eq]
    exact (tidy.takes owner member).append (nobody owner.1)

/-- What is collected goes to the sinks, and is what was reported. -/
theorem collect (tidy : Tidy host owners idle) (added : Journal)
    (journal_eq : after.journal = host.journal ++ added)
    (sinks_eq : after.shared.sinks = addTo host.shared.sinks added.reported)
    (next_eq : after.nextSession = host.nextSession) (unlinked : added.channels = [])
    (untaken : ∀ entry ∈ added, entry.taker? = none) : Tidy after owners idle := by
  have extended := tidy.extend journal_eq (by rw [sinks_eq, List.map_nil, List.append_nil]) next_eq
    unlinked (by rw [List.append_nil, tidy.sinks_eq]; rfl) untaken (List.forall_mem_nil _)
  rwa [List.append_nil] at extended

/-- A new channel is set up for an engine that is idle then. -/
theorem link (tidy : Tidy host owners idle) {added : Journal} {channel : Channel}
    (own : channel.sink = host.shared.sinks.length) (linked : added.channels = [channel])
    (journal_eq : after.journal = host.journal ++ added)
    (sinks_eq : after.shared.sinks = addTo (host.shared.sinks ++ [[]]) added.reported)
    (next_eq : after.nextSession = host.nextSession)
    (untaken : ∀ entry ∈ added, entry.taker? = none)
    (unreported : host.journal.reported channel.sink = []) :
    Tidy after owners (idle ++ [channel]) := by
  refine tidy.extend journal_eq sinks_eq next_eq linked ?_ untaken ?_
  · rw [List.map_append, tidy.sinks_eq, List.map_singleton, own, List.length_singleton,
      List.range_succ]
  · exact List.forall_mem_singleton.mpr unreported

/-- A session takes out of its sink what it is given. -/
theorem take (tidy : Tidy host owners idle) {session : Nat} {channel : Channel}
    (ticket : Option Nat) (own : (session, channel) ∈ owners)
    (journal_eq : after.journal = host.journal ++
      [Entry.take session ticket (host.shared.sinks.getD channel.sink [])])
    (sinks_eq : after.shared.sinks = host.shared.sinks.modify channel.sink fun _ => [])
    (next_eq : after.nextSession = host.nextSession) : Tidy after owners idle := by
  have quiet (sink : Nat) : after.journal.reported sink = host.journal.reported sink := by
    rw [journal_eq, Journal.reported_append]
    exact List.append_nil _
  have channels : after.journal.channels = host.journal.channels := by
    rw [journal_eq, Journal.channels_append]
    exact List.append_nil _
  have buffer (other : Nat) : after.shared.sinks.getD other [] =
      if channel.sink = other then [] else host.shared.sinks.getD other [] := by
    rw [sinks_eq, getD_empty]
  have taken (other : Nat) : after.journal.taken other = host.journal.taken other ++
      if session = other then host.shared.sinks.getD channel.sink [] else [] := by
    rw [journal_eq, Journal.taken_append]
    exact congrArg _ (List.append_nil _)
  refine {
    sinks_eq := ?_, known := ?_, apart := tidy.apart, numbers := tidy.numbers, numbered := ?_,
    takers := ?_, idle_eq := ?_, owned_eq := ?_, takes := ?_ }
  · rw [channels, sinks_eq, List.length_modify, tidy.sinks_eq]
  · rw [channels]
    exact tidy.known
  · rw [next_eq]
    exact tidy.numbered
  · rw [journal_eq, next_eq]
    intro entry member number later
    rcases List.mem_append.mp member with old | new
    · exact tidy.takers entry old number later
    · rw [List.mem_singleton.mp new]
      rintro ⟨⟩
      exact absurd (tidy.numbered _ own) (Nat.not_lt.mpr later)
  · intro other member
    have different : channel.sink ≠ other.sink := tidy.sink_ne_of_idle own member
    rw [buffer, if_neg different, quiet, tidy.idle_eq other member]
  · intro owner member
    have before := tidy.owned_eq owner member
    by_cases same : session = owner.1
    · obtain rfl : (session, channel) = owner := tidy.eq_of_number own member same
      rw [taken, if_pos rfl, buffer, if_pos rfl, quiet, List.append_nil]
      exact before
    · have different : channel.sink ≠ owner.2.sink := by
        intro shared
        exact same (congrArg Prod.fst (tidy.eq_of_sink own member shared))
      rw [taken, if_neg same, buffer, if_neg different, quiet, List.append_nil]
      exact before
  · intro owner member
    rw [journal_eq]
    intro before _ messages later split
    rcases split_append split with ⟨rest, earlier⟩ | ⟨middle, rfl, new⟩
    · exact tidy.takes owner member _ _ _ _ earlier
    · obtain ⟨rfl, -, first⟩ := Scene.eq_of_singleton new
      obtain ⟨same, rfl⟩ := Entry.take_inj first.symm
      obtain rfl : (session, channel) = owner := tidy.eq_of_number own member same
      rw [List.append_nil]
      exact tidy.owned_eq _ own

/-- Nothing is lost by not keeping an engine or a session in mind. -/
theorem sublist (tidy : Tidy host owners idle) {fewer : List (Nat × Channel)}
    {others : List Channel} (owned : fewer.Sublist owners) (resting : others.Sublist idle) :
    Tidy host fewer others where
  sinks_eq := tidy.sinks_eq
  known channel member := tidy.known channel (((owned.map _).append resting).subset member)
  apart := tidy.apart.sublist (((owned.map _).append resting).map _)
  numbers := tidy.numbers.sublist (owned.map _)
  numbered owner member := tidy.numbered owner (owned.subset member)
  takers := tidy.takers
  idle_eq channel member := tidy.idle_eq channel (resting.subset member)
  owned_eq owner member := tidy.owned_eq owner (owned.subset member)
  takes owner member := tidy.takes owner (owned.subset member)

/-- An idle engine goes to a session with a new number. -/
theorem give {before later : List Channel} {channel : Channel}
    (tidy : Tidy host owners (before ++ channel :: later)) :
    Tidy { host with nextSession := host.nextSession + 1 }
      (owners ++ [(host.nextSession, channel)]) (before ++ later) := by
  have perm : ((owners ++ [(host.nextSession, channel)]).map Prod.snd ++ (before ++ later)).Perm
      (owners.map Prod.snd ++ (before ++ channel :: later)) := by
    rw [List.map_append, List.append_assoc]
    have given : (channel :: (before ++ later)).Perm (before ++ channel :: later) :=
      List.perm_middle.symm
    exact given.append_left _
  have nobody : ∀ entry ∈ host.journal, entry.taker? ≠ some host.nextSession :=
    fun entry member => tidy.takers entry member _ (Nat.le_refl _)
  refine {
    sinks_eq := tidy.sinks_eq, known := ?_, apart := ?_, numbers := ?_, numbered := ?_,
    takers := ?_, idle_eq := ?_, owned_eq := ?_, takes := ?_ }
  · intro other member
    exact tidy.known other (perm.subset member)
  · exact ((perm.map _).nodup_iff).mpr tidy.apart
  · rw [List.map_append, List.nodup_append]
    refine ⟨tidy.numbers, List.nodup_singleton _, ?_⟩
    rintro number listed _ new rfl
    obtain ⟨owner, member, rfl⟩ := List.mem_map.mp listed
    rw [List.map_singleton, List.mem_singleton] at new
    exact Nat.ne_of_lt (tidy.numbered owner member) new
  · intro owner member
    rcases List.mem_append.mp member with old | new
    · exact Nat.lt_succ_of_lt (tidy.numbered owner old)
    · rw [List.mem_singleton.mp new]
      exact Nat.lt_succ_self _
  · intro entry member session later
    exact tidy.takers entry member session (Nat.le_of_succ_le later)
  · intro other member
    exact tidy.idle_eq other (List.perm_middle.symm.subset (List.mem_cons_of_mem _ member))
  · intro owner member
    rcases List.mem_append.mp member with old | new
    · exact tidy.owned_eq owner old
    · rw [List.mem_singleton.mp new, Journal.taken_eq_nil nobody]
      exact tidy.idle_eq channel (List.mem_append_right _ List.mem_cons_self)
  · intro owner member
    rcases List.mem_append.mp member with old | new
    · exact tidy.takes owner old
    · rw [List.mem_singleton.mp new]
      intro first ticket messages rest split
      refine absurd rfl (nobody (Entry.take host.nextSession ticket messages) ?_)
      rw [split]
      exact List.mem_append_right _ List.mem_cons_self

/-- Whatever an engine is asked, messages stay with their session. -/
theorem perform {code : ForeignCode ν} {site : Site (Shared ν) Binding} {kind : AnswerKind}
    (ticket : Option Nat) (call : Call kind)
    (own : (site.session.id, site.session.engine.channel) ∈ owners)
    (tidy : Tidy site.host owners idle) :
    Tidy (site.perform (Binding.engine code) ticket call).2.host owners idle := by
  by_cases messages : kind = .messages
  · subst kind
    cases call with
    | takeDiagnostics =>
        exact tidy.take ticket own (congrArg (· ++ _) (List.append_nil _)) rfl rfl
  · obtain ⟨added, unlinked, collected⟩ := (Binding.answer_serves code site.session.engine
      { site.host.toMachine with journal := [] } call messages).collects
    have kept : added.filter Entry.ofMachine = added :=
      List.filter_eq_self.mpr collected.ofMachine
    let entry := Entry.engineCall site.session.id ticket call
      (site.perform (Binding.engine code) ticket call).1
    have untaken : entry.taker? = none := Entry.taker?_engineCall messages ..
    refine tidy.collect (added ++ [entry]) ?_ ?_ rfl ?_ ?_
    · have journal : (site.perform (Binding.engine code) ticket call).2.host.journal =
          site.host.journal ++ (Binding.answer code call site.session.engine
            { site.host.toMachine with journal := [] }).2.2.journal.filter Entry.ofMachine ++
              [entry] := rfl
      rw [journal, collected.journal_eq, List.nil_append, kept, List.append_assoc]
    · refine collected.sinks_eq.trans (congrArg _ ?_)
      funext sink
      rw [Journal.reported_append]
      exact (List.append_nil _).symm
    · rw [Journal.channels_append, unlinked]
      rfl
    · refine List.forall_mem_append.mpr ⟨?_, List.forall_mem_singleton.mpr untaken⟩
      exact fun other member => Entry.taker?_of_ofMachine (collected.ofMachine other member)

theorem record (tidy : Tidy host owners idle) (entry : Entry) (own : entry.isOwn = true) :
    Tidy (host.record entry) owners idle := by
  obtain ⟨quiet, unlinked, untaken⟩ := Entry.silent_of_isOwn own
  refine tidy.collect [entry] rfl ?_ rfl ?_ (List.forall_mem_singleton.mpr untaken)
  · have nothing : (fun sink => Journal.reported sink [entry]) = fun _ => [] := by
      funext sink
      rw [Journal.reported_cons, quiet]
      rfl
    rw [nothing]
    exact (addTo_nil _).symm
  · rw [Journal.channels_cons, unlinked]
    rfl

/-- What is done at a session leaves everything tidy, and the session its number and channel. -/
theorem works {code : ForeignCode ν} {site after : Site (Shared ν) Binding}
    (works : site.Works (Binding.engine code) after)
    (own : (site.session.id, site.session.engine.channel) ∈ owners)
    (tidy : Tidy site.host owners idle) :
    (after.session.id, after.session.engine.channel) =
        (site.session.id, site.session.engine.channel) ∧ Tidy after.host owners idle := by
  induction works with
  | refl => exact ⟨rfl, tidy⟩
  | record entry _ quiet ih => exact ⟨ih.1, ih.2.record entry quiet⟩
  | change session _ id engine ih =>
      refine ⟨?_, ih.2⟩
      rw [← ih.1, id, engine]
  | @perform middle _ ticket call _ ih =>
      refine ⟨?_, ih.2.perform ticket call (ih.1 ▸ own)⟩
      have channel := Binding.channel_perform code call ticket middle
      exact (congrArg (Prod.mk middle.session.id) channel).trans ih.1

end Tidy

namespace Process

/-- The sessions of a process with their channels. -/
def owners (process : Process ν) : List (Nat × Channel) :=
  process.casts.map fun cast => (cast.session.id, cast.session.engine.channel)

/-- Every session of a process is given the messages that were reported for it. -/
def Tidy (process : Process ν) : Prop :=
  Native.Tidy process.host process.owners (process.engines.map Binding.channel)

variable {code : ForeignCode ν} {process after : Process ν}

theorem tidy_initial (foreign : ν) (memory : Memory) (dynamicLinking : Bool) :
    (initial foreign memory dynamicLinking).Tidy where
  sinks_eq := rfl
  known := List.forall_mem_nil _
  apart := List.nodup_nil
  numbers := List.nodup_nil
  numbered := List.forall_mem_nil _
  takers := List.forall_mem_nil _
  idle_eq := List.forall_mem_nil _
  owned_eq := List.forall_mem_nil _
  takes := List.forall_mem_nil _

theorem Tidy.move? (tidy : process.Tidy) {index : Nat} {move : Move}
    (moved : process.move? code index move = some after) : after.Tidy := by
  simp only [Process.move?, Option.map_eq_some_iff, Option.bind_eq_some_iff] at moved
  obtain ⟨cast, found, scene, moved, rfl⟩ := moved
  obtain ⟨before, later, split, set, -⟩ := Scene.exists_split found
  have own : (cast.session.id, cast.session.engine.channel) ∈ process.owners :=
    List.mem_map_of_mem (List.mem_of_getElem? found)
  have works := Scene.move?_works moved
  obtain ⟨same, kept⟩ := Native.Tidy.works works own tidy
  have owners : (process.casts.set index scene.cast).map
      (fun cast => (cast.session.id, cast.session.engine.channel)) = process.owners := by
    rw [set, Process.owners, split, List.map_append, List.map_append, List.map_cons, List.map_cons]
    exact congrArg (_ ++ · :: _) same
  unfold Process.Tidy Process.owners
  rw [owners]
  exact kept

theorem Tidy.createSession? (tidy : process.Tidy) {position : Nat} {config : SessionConfig}
    (made : process.createSession? code position config = some after) : after.Tidy := by
  simp only [Process.createSession?, Option.map_eq_some_iff] at made
  obtain ⟨binding, found, rfl⟩ := made
  obtain ⟨before, later, split, -, erase⟩ := Scene.exists_split found
  obtain ⟨start, number, own, same, works⟩ :=
    Session.createConfigured_works (Binding.engine code) binding config process.host
  generalize Session.createConfigured (Binding.engine code) binding config process.host = result
    at works
  obtain ⟨reply, site⟩ := result
  have given : Native.Tidy start.host
      (process.owners ++ [(start.session.id, start.session.engine.channel)])
      ((before ++ later).map Binding.channel) := by
    rw [same, number, own, List.map_append]
    apply Native.Tidy.give
    rw [← List.map_cons, ← List.map_append, ← split]
    exact tidy
  obtain ⟨kept, tidied⟩ := Native.Tidy.works works
    (List.mem_append_right _ (List.mem_singleton.mpr rfl)) given
  rw [← kept, ← erase] at tidied
  have forgotten := tidied.sublist (List.sublist_append_left ..) (List.Sublist.refl _)
  dsimp only
  split
  · unfold Process.Tidy Process.owners
    rw [List.map_append]
    exact tidied
  · exact forgotten

theorem Tidy.setMachine (tidy : process.Tidy) {machine : Machine (Shared ν)}
    (collects : Collects process.host.toMachine machine) : (process.setMachine machine).Tidy := by
  obtain ⟨added, unlinked, collected⟩ := collects
  exact Native.Tidy.collect tidy added collected.journal_eq collected.sinks_eq rfl unlinked
    fun entry member => Entry.taker?_of_ofMachine (collected.ofMachine entry member)

theorem Tidy.keepEngine (tidy : process.Tidy)
    {created : Except EngineError Binding × Machine (Shared ν)}
    (brought : Brought process.host.toMachine created)
    (attributed : (process.keepEngine created).host.journal.attributed = true) :
    (process.keepEngine created).Tidy := by
  cases brought with
  | failed collects => exact tidy.setMachine collects
  | @linked binding middle machine added collects own linked collected =>
      have halfway : Native.Tidy (process.setMachine middle).host process.owners
          (process.engines.map Binding.channel) := tidy.setMachine collects
      have journal : machine.journal = middle.journal ++ added := collected.journal_eq
      have unreported : middle.journal.reported binding.sink = [] := by
        apply Journal.reported_eq_nil
          (Journal.attributed_of_prefix ⟨added, journal.symm⟩ attributed)
        intro channel listed
        have below : channel.sink < middle.shared.sinks.length := halfway.sink_lt listed
        rw [own]
        exact Nat.ne_of_lt below
      have kept : Native.Tidy (process.setMachine machine).host process.owners
          (process.engines.map Binding.channel ++ [binding.channel]) :=
        halfway.link own linked journal collected.sinks_eq rfl
          (fun entry member => Entry.taker?_of_ofMachine (collected.ofMachine entry member))
          unreported
      rw [← List.map_singleton, ← List.map_append] at kept
      exact kept

/-- Everything that can happen in a process leaves it tidy, if no message was reported to a sink
that was not set up. -/
theorem Tidy.act? (tidy : process.Tidy) {act : Act} (acted : process.act? code act = some after)
    (attributed : after.host.journal.attributed = true) : after.Tidy := by
  cases act with
  | createEngine library =>
      cases acted
      exact tidy.keepEngine (Binding.create_brought code library (.refl _)) attributed
  | createDefaultEngine environment =>
      cases acted
      exact tidy.keepEngine (Binding.createByDefault_brought code environment _) attributed
  | createSession position config => exact tidy.createSession? acted
  | move index move => exact tidy.move? acted
  | callFunction library function argc =>
      cases acted
      exact tidy.setMachine ((Collects.refl _).invoke code library rfl)
  | writeSymbol handle type value =>
      cases acted
      exact tidy.setMachine ((Collects.refl _).memory _)

theorem keepEngine_grows {created : Except EngineError Binding × Machine (Shared ν)}
    (brought : Brought process.host.toMachine created) :
    process.host.journal <+: (process.keepEngine created).host.journal := by
  cases brought with
  | failed collects => exact collects.journal_grows
  | linked collects _ _ collected =>
      exact collects.journal_grows.trans ⟨_, collected.journal_eq.symm⟩

theorem act?_grows {act : Act} (acted : process.act? code act = some after) :
    process.host.journal <+: after.host.journal := by
  cases act with
  | createEngine library =>
      cases acted
      exact keepEngine_grows (Binding.create_brought code library (.refl _))
  | createDefaultEngine environment =>
      cases acted
      exact keepEngine_grows (Binding.createByDefault_brought code environment _)
  | createSession position config =>
      simp only [Process.act?, Process.createSession?, Option.map_eq_some_iff] at acted
      obtain ⟨binding, found, rfl⟩ := acted
      obtain ⟨start, -, -, same, works⟩ :=
        Session.createConfigured_works (Binding.engine code) binding config process.host
      have grown := works.journal_grows
      rw [same] at grown
      split <;> exact grown
  | move index move =>
      simp only [Process.act?, Process.move?, Option.map_eq_some_iff,
        Option.bind_eq_some_iff] at acted
      obtain ⟨cast, found, scene, moved, rfl⟩ := acted
      exact (Scene.move?_works moved).journal_grows
  | callFunction library function argc =>
      cases acted
      exact ((Collects.refl _).invoke code library rfl).journal_grows
  | writeSymbol handle type value =>
      cases acted
      exact List.prefix_rfl

theorem follow?_grows {start finish : Process ν} {acts : List Act}
    (followed : start.follow? code acts = some finish) :
    start.host.journal <+: finish.host.journal := by
  induction acts generalizing start with
  | nil =>
      cases followed
      exact List.prefix_rfl
  | cons act rest ih =>
      obtain ⟨middle, acted, followed⟩ := Option.bind_eq_some_iff.mp followed
      exact (act?_grows acted).trans (ih followed)

theorem follow?_tidy {start finish : Process ν} {acts : List Act} (tidy : start.Tidy)
    (followed : start.follow? code acts = some finish)
    (attributed : finish.host.journal.attributed = true) : finish.Tidy := by
  induction acts generalizing start with
  | nil =>
      cases followed
      exact tidy
  | cons act rest ih =>
      obtain ⟨middle, acted, followed⟩ := Option.bind_eq_some_iff.mp followed
      exact ih (tidy.act? acted (Journal.attributed_of_prefix (follow?_grows followed) attributed))
        followed

/-- A library whose contexts report every text that they are to compile, with a byte behind it that
is not text and with more behind a zero byte; a report that lacks the message comes before and one
that lacks the sink comes after. -/
def echoing : ForeignCode Nat where
  openImage _ _ := .ok 0
  missing? _ _ _ := none
  invoke {kind} _ call made memory :=
    { result :=
        match kind with
        | .address => UInt64.ofNat (made + 1)
        | .code => (0 : Int32)
        | .nothing => ()
      state :=
        match call with
        | .new => made + 1
        | _ => made
      memory
      reports :=
        match call with
        | .compileString context source =>
          let sink := context.toNat - 1
          [⟨context, some sink, none⟩,
            ⟨context, some sink, some (source.bytes ++ [0xFF, 0x21, 0, 0x21])⟩,
            ⟨context, none, some [0x78]⟩]
        | _ => [] }

/-- However sessions and libraries come in each other's way: what a session has taken and what is
still in its sink are the messages that were reported on its context, in order, but for those that
came without a sink; whenever it takes messages it is given those that it was not given before; and
no two sessions share a context or a sink.  Contexts are never given back to their libraries, so no
two of them have the same address. -/
theorem diagnostics_accounted {foreign : ν} {memory : Memory} {dynamicLinking : Bool}
    {acts : List Act} {finish : Process ν}
    (followed : (initial foreign memory dynamicLinking).follow? code acts = some finish)
    (attributed : finish.host.journal.attributed = true)
    (contexts : (finish.host.journal.channels.map Channel.context).Nodup) :
    (∀ cast ∈ finish.casts,
      cast.session.engine.channel ∈ finish.host.journal.channels ∧
      (∃ held, finish.host.shared.sinks[cast.session.engine.sink]? = some held ∧
        finish.host.journal.taken cast.session.id ++ held =
          finish.host.journal.reportedOn cast.session.engine.context) ∧
      (∀ (before : Journal) ticket messages later,
        finish.host.journal = before ++ Entry.take cast.session.id ticket messages :: later →
          before.taken cast.session.id ++ messages =
            before.reportedOn cast.session.engine.context) ∧
      ∀ (before : Journal) ticket first (between : Journal) other second later,
        finish.host.journal = before ++ Entry.take cast.session.id ticket first ::
          (between ++ Entry.take cast.session.id other second :: later) →
        between.reportedOn cast.session.engine.context = [] → second = []) ∧
    finish.casts.Pairwise (fun first second => first.session.id ≠ second.session.id ∧
      first.session.engine.context ≠ second.session.engine.context ∧
      first.session.engine.sink ≠ second.session.engine.sink) ∧
    (finish.host.journal.channels.map Channel.sink).Nodup := by
  have tidy := follow?_tidy (tidy_initial foreign memory dynamicLinking) followed attributed
  have sinks : (finish.host.journal.channels.map Channel.sink).Nodup := by
    rw [Native.Tidy.sinks_eq tidy]
    exact List.nodup_range
  have owned {cast : Cast Binding} (member : cast ∈ finish.casts) :
      (cast.session.id, cast.session.engine.channel) ∈ finish.owners :=
    List.mem_map_of_mem member
  have known {cast : Cast Binding} (member : cast ∈ finish.casts) :
      cast.session.engine.channel ∈ finish.host.journal.channels :=
    Native.Tidy.known tidy _ (List.mem_append_left _ (List.mem_map_of_mem (owned member)))
  refine ⟨?_, ?_, sinks⟩
  · intro cast member
    have takes := Native.Tidy.takes tidy _ (owned member)
    have told {part : Journal}
        (inside : ∀ report ∈ part.reports, report ∈ finish.host.journal.reports) :
        part.reported cast.session.engine.sink =
          part.reportedOn cast.session.engine.context :=
      Journal.reported_eq_reportedOn attributed contexts sinks (known member) inside
    refine ⟨known member, ⟨_, List.getElem?_eq_getElem (Native.Tidy.sink_lt tidy (known member)),
      ?_⟩, ?_, ?_⟩
    · have accounted := Native.Tidy.owned_eq tidy _ (owned member)
      rw [List.getD_eq_getElem _ _ (Native.Tidy.sink_lt tidy (known member))] at accounted
      exact accounted.trans (told fun _ => id)
    · intro before ticket messages later split
      have inside : ∀ report ∈ before.reports, report ∈ finish.host.journal.reports := by
        intro report listed
        rw [split, Journal.reports, List.flatMap_append]
        exact List.mem_append_left _ listed
      rw [← told inside]
      exact takes before ticket messages later split
    · intro before ticket first between other second later split unreported
      have inside : ∀ report ∈ between.reports, report ∈ finish.host.journal.reports := by
        intro report listed
        rw [split, Journal.reports, List.flatMap_append, List.flatMap_cons, List.flatMap_append]
        exact List.mem_append_right _ (List.mem_append_right _ (List.mem_append_left _ listed))
      exact takes.second_eq_nil split ((told inside).trans unreported)
  · have numbers := Native.Tidy.numbers tidy
    have apart := Native.Tidy.apart tidy
    rw [List.map_append, List.nodup_append] at apart
    simp only [owners, List.map_map, List.Nodup, List.pairwise_map] at numbers apart
    refine (List.Pairwise.and_mem.mp (numbers.and apart.1)).imp ?_
    rintro first second ⟨here, there, different, separate⟩
    refine ⟨different, ?_, separate⟩
    intro shared
    exact separate (congrArg Channel.sink
      (List.inj_on_of_nodup_map contexts (known here) (known there) shared))

/-- Two sessions on one library compile, and the first one takes its messages. -/
def conversation : List Act :=
  [.createEngine ⟨"libtcc.so", 0⟩, .createEngine ⟨"libtcc.so", 0⟩,
    .createSession 0 {}, .createSession 0 {},
    .move 0 (.ask 1 (.compileString "a")), .move 1 (.ask 2 (.compileString "b")),
    .move 0 (.acquire 0), .move 1 (.acquire 0), .move 1 (.answer 0), .move 0 (.answer 0),
    .move 0 (.tell 0), .move 0 (.ask 1 .takeDiagnostics), .move 0 (.acquire 0),
    .move 0 (.answer 0)]

theorem diagnostics_accounted_sample :
    ∃ finish, (initial 0 (.zeroed 1) true).follow? echoing conversation = some finish ∧
      finish.host.journal.attributed = true ∧
      (finish.host.journal.channels.map Channel.context).Nodup ∧
      finish.casts.map (fun cast => (cast.session.id, cast.session.engine.context)) =
        [(1, 1), (2, 2)] ∧
      finish.host.journal.taken 1 = ["a\ufffd!"] ∧
      finish.host.shared.sinks = [[], ["b\ufffd!"]] ∧
      ∀ cast ∈ finish.casts, ∃ held,
        finish.host.shared.sinks[cast.session.engine.sink]? = some held ∧
          finish.host.journal.taken cast.session.id ++ held =
            finish.host.journal.reportedOn cast.session.engine.context := by
  have followed : (initial 0 (.zeroed 1) true).follow? echoing conversation = some _ := rfl
  obtain ⟨accounted, -⟩ := diagnostics_accounted followed rfl (by decide +kernel)
  exact ⟨_, followed, rfl, by decide +kernel, rfl, by decide +kernel, by decide +kernel,
    fun cast member => (accounted cast member).2.1⟩

/-- Two messages are reported on the context of the second session.  The one that comes without a
sink is not among those that it has taken or can take. -/
theorem message_without_sink_lost :
    ∃ finish, (initial 0 (.zeroed 1) true).follow? echoing conversation = some finish ∧
      (finish.host.journal.reports.filter (·.context = 2)).map
          (fun report => (report.sink, report.message)) =
        [(some 1, none), (some 1, some [0x62, 0xFF, 0x21, 0, 0x21]), (none, some [0x78])] ∧
      (finish.host.journal.reports.filter (·.context = 2)).filterMap (fun report =>
          report.message.map fun message => Text.decodeLossy (message.takeWhile (· ≠ 0))) =
        ["b\ufffd!", "x"] ∧
      finish.casts.map (fun cast => (cast.session.id, cast.session.engine.channel)) =
        [(1, { context := 1, sink := 0 }), (2, { context := 2, sink := 1 })] ∧
      finish.host.journal.taken 2 = [] ∧
      finish.host.shared.sinks[1]? = some ["b\ufffd!"] :=
  ⟨_, rfl, by decide +kernel, by decide +kernel, rfl, by decide +kernel, by decide +kernel⟩

end Process

end Native

end CompileSession
