import CompileSession.Proofs.Session.Congruence
import CompileSession.Proofs.Session.Counter
import CompileSession.Session.Ensemble

/-!
# Sessions do not interfere

What a party sees of its session depends on what the party does and on its own engine.  A run in
which others do things in between is compared with the run in which they do nothing: session numbers
and the machine may differ, but the session, what callers were told and what the session noted about
itself do not.
-/

namespace CompileSession

variable {η σ : Type}

/-- An engine whose answers depend only on the calls that were made to it: neither they nor what
becomes of its own state depend on the machine. -/
def Engine.SelfContained (engine : Engine η σ) : Prop :=
  ∀ {kind : AnswerKind} (call : Call kind) (state : σ) (machine other : Machine η),
    (engine.perform call state other).1 = (engine.perform call state machine).1 ∧
      (engine.perform call state other).2.1 = (engine.perform call state machine).2.1

namespace Journal

/-- What a session noted about itself: the calls to its engine and how they ended, what became of
its units, and what callers were told about deliveries. -/
def own (session : Nat) (journal : Journal) : List Entry :=
  journal.filterMap (Entry.own? session)

theorem own_concat (session : Nat) (journal : Journal) (entry : Entry) :
    own session (journal ++ [entry]) = own session journal ++ (entry.own? session).toList :=
  filterMap_concat ..

theorem own_perform {kind : AnswerKind} (session owner : Nat) (before journal : Journal)
    (ticket : Option Nat) (call : Call kind) (reply : Reply kind.Answer) :
    own session (before ++ journal.filter Entry.ofMachine ++
        [.engineCall owner ticket call reply]) =
      own session before ++
        ((Entry.engineCall owner ticket call reply).own? session).toList := by
  have quiet (entry : Entry) (ofMachine : entry.ofMachine = true) : entry.own? session = none := by
    cases entry <;> first | rfl | cases ofMachine
  rw [own_concat, own, List.filterMap_append, filterMap_ofMachine quiet, List.append_nil]
  rfl

end Journal

namespace Site

/-- A site that differs from another one only in what its session cannot know: the session's number
and the machine. -/
structure Twin (site other : Site η σ) : Prop where
  session : other.session = { site.session with id := other.session.id }
  linking : other.host.dynamicLinking = site.host.dynamicLinking
  entries : other.host.journal.own other.session.id = site.host.journal.own site.session.id

theorem congruence_twin {engine : Engine η σ} (selfContained : engine.SelfContained) :
    Congruence engine (Twin (η := η) (σ := σ)) where
  session twin := ⟨_, _, twin.session⟩
  linking twin := twin.linking
  record {site other} entry uniform twin := by
    refine ⟨twin.session, twin.linking, ?_⟩
    have noted (site : Site η σ) : (site.record (entry site.session.id)).host.journal.own
        site.session.id = site.host.journal.own site.session.id ++ ((entry 0).own? 0).toList := by
      refine (Journal.own_concat ..).trans ?_
      rw [uniform, if_pos rfl]
    exact (noted other).trans ((congrArg (· ++ _) twin.entries).trans (noted site).symm)
  perform {site other} kind ticket call twin := by
    obtain ⟨reply, state⟩ := selfContained call site.session.engine
      { site.host.toMachine with journal := [] } { other.host.toMachine with journal := [] }
    have own : other.session.engine = site.session.engine := by rw [twin.session]
    have answered :
        (other.perform engine ticket call).1 = (site.perform engine ticket call).1 := by
      simp only [Site.perform, own]
      exact reply
    refine ⟨answered, ?_, twin.linking, ?_⟩
    · have session (site : Site η σ) : (site.perform engine ticket call).2.session =
          { site.session with engine := (engine.perform call site.session.engine
            { site.host.toMachine with journal := [] }).2.1 } := rfl
      rw [session, session, own, state, twin.session]
    · have noted (site : Site η σ) :
          (site.perform engine ticket call).2.host.journal.own site.session.id =
            site.host.journal.own site.session.id ++
              [.engineCall 0 ticket call (site.perform engine ticket call).1] := by
        refine (Journal.own_perform ..).trans ?_
        rw [Entry.own?, if_pos rfl]
        rfl
      refine (noted other).trans ?_
      rw [answered, twin.entries]
      exact (noted site).symm
  setUnits {site other} units twin := by
    refine ⟨?_, twin.linking, twin.entries⟩
    rw [Site.setUnits, twin.session]
    rfl
  mapFutures {site other} change twin := by
    refine ⟨?_, twin.linking, twin.entries⟩
    rw [Site.mapFutures, twin.session]
    rfl

/-- What has happened between two points is seen by one session only. -/
structure Away (base site : Site η σ) : Prop where
  number : site.session.id = base.session.id
  next : site.host.nextSession = base.host.nextSession
  linking : site.host.dynamicLinking = base.host.dynamicLinking
  entries : ∀ session, session ≠ base.session.id →
    site.host.journal.own session = base.host.journal.own session

theorem Away.refl (site : Site η σ) : site.Away site :=
  ⟨rfl, rfl, rfl, fun _ _ => rfl⟩

theorem congruence_away (engine : Engine η σ) (base : Site η σ) :
    Congruence engine fun site other => other = site ∧ base.Away site where
  session {site other} kept := ⟨_, _, congrArg Site.session kept.1⟩
  linking kept := by rw [kept.1]
  record {site other} entry uniform kept := by
    obtain ⟨rfl, away⟩ := kept
    refine ⟨rfl, away.number, away.next, away.linking, ?_⟩
    intro session different
    refine (Journal.own_concat ..).trans ?_
    rw [uniform, if_neg (away.number ▸ different.symm), Option.toList_none, List.append_nil]
    exact away.entries session different
  perform {site other} kind ticket call kept := by
    obtain ⟨rfl, away⟩ := kept
    refine ⟨rfl, rfl, away.number, away.next, away.linking, ?_⟩
    intro session different
    refine (Journal.own_perform ..).trans ?_
    rw [Entry.own?, if_neg (away.number ▸ different.symm), Option.toList_none, List.append_nil]
    exact away.entries session different
  setUnits units kept := by
    obtain ⟨rfl, away⟩ := kept
    exact ⟨rfl, away.number, away.next, away.linking, away.entries⟩
  mapFutures change kept := by
    obtain ⟨rfl, away⟩ := kept
    exact ⟨rfl, away.number, away.next, away.linking, away.entries⟩

end Site

section

variable (engine : Engine η σ) (state : σ) (mode : OutputMode) (workers : UInt64)
  (delivery : Delivery) (config : SessionConfig) (host : Host η)

theorem away_create :
    (Session.unmade state mode workers delivery host).Away
      (Session.create engine state mode workers delivery host).2 :=
  (Session.create_alike (Site.congruence_away engine _) mode workers delivery
    ⟨rfl, Site.Away.refl _⟩).2.2

theorem away_createConfigured :
    (Session.unmade state config.mode config.workers config.delivery host).Away
      (Session.createConfigured engine state config host).2 :=
  (Session.createConfigured_alike (Site.congruence_away engine _) config
    ⟨rfl, Site.Away.refl _⟩).2.2

theorem away_move? {scene after : Scene η σ} {move : Move}
    (moved : scene.move? engine move = some after) : scene.site.Away after.site := by
  obtain ⟨final, -, -, away⟩ :=
    (Site.congruence_away engine scene.site).move? ⟨rfl, Site.Away.refl _⟩ moved
  exact away

end

/-- A session without its number. -/
def Cast.anonymous (cast : Cast σ) : Cast σ :=
  { cast with session := { cast.session with id := 0 } }

theorem Cast.eq_of_anonymous {cast other : Cast σ} (same : other.anonymous = cast.anonymous) :
    ∃ id, other = { cast with session := { cast.session with id } } := by
  refine ⟨other.session.id, ?_⟩
  change { other.anonymous with
    session := { other.anonymous.session with id := other.session.id } } = _
  rw [same]
  rfl

theorem Site.Twin.anonymous {site other : Site η σ} (twin : site.Twin other) (cast : Cast σ) :
    Cast.anonymous { cast with session := other.session } =
      Cast.anonymous { cast with session := site.session } := by
  simp only [Cast.anonymous]
  rw [twin.session]

/-- What a party sees. -/
structure View (σ : Type) where
  /-- How the making of its session ended. -/
  made : Reply (Except SessionError Unit)
  /-- Its session with its queue, its engine and its futures, what callers are in the middle of,
  what the engine answered and what callers were told. -/
  cast : Option (Cast σ)
  /-- What its session noted about itself. -/
  entries : List Entry

namespace Ensemble

def view (party : Nat) (ensemble : Ensemble η σ) : Option (View σ) :=
  (ensemble.members party).map fun member =>
    { made := member.made
      cast := member.cast.map Cast.anonymous
      entries := ensemble.host.journal.own member.number }

/-- Every member has a number of its own, and nothing was noted yet about sessions to come. -/
structure Sound (ensemble : Ensemble η σ) : Prop where
  numbered : ∀ {party member}, ensemble.members party = some member →
    member.number < ensemble.host.nextSession
  distinct : ∀ {party other member neighbour}, ensemble.members party = some member →
    ensemble.members other = some neighbour → member.number = neighbour.number → party = other
  named : ∀ {party member cast}, ensemble.members party = some member →
    member.cast = some cast → cast.session.id = member.number
  unused : ∀ {session}, ensemble.host.nextSession ≤ session →
    ensemble.host.journal.own session = []

/-- What a party may do to an ensemble: it leaves a host and a member of its own behind, and nothing
of what is noted about others is lost or new. -/
structure Step (party : Nat) (ensemble : Ensemble η σ) (host : Host η) (member : Member σ) :
    Prop where
  linking : host.dynamicLinking = ensemble.host.dynamicLinking
  grows : ensemble.host.nextSession ≤ host.nextSession
  numbered : member.number < host.nextSession
  apart : ∀ {other neighbour}, other ≠ party → ensemble.members other = some neighbour →
    neighbour.number ≠ member.number
  named : ∀ {cast}, member.cast = some cast → cast.session.id = member.number
  entries : ∀ {session}, session ≠ member.number →
    host.journal.own session = ensemble.host.journal.own session

variable {engines : Nat → Engine η σ} {ensemble after : Ensemble η σ} {party : Nat}

theorem members_put_self (host : Host η) (member : Member σ) :
    (ensemble.put party host member).members party = some member :=
  if_pos rfl

theorem members_put_other {other : Nat} (different : other ≠ party) (host : Host η)
    (member : Member σ) : (ensemble.put party host member).members other = ensemble.members other :=
  if_neg different

theorem view_put_self (host : Host η) (member : Member σ) :
    (ensemble.put party host member).view party = some {
      made := member.made
      cast := member.cast.map Cast.anonymous
      entries := host.journal.own member.number } := by
  rw [view, members_put_self]
  rfl

/-- What a party does changes nothing about what another one sees. -/
theorem Step.view_put {host : Host η} {member : Member σ} (step : Step party ensemble host member)
    {other : Nat} (different : other ≠ party) :
    (ensemble.put party host member).view other = ensemble.view other := by
  rw [view, view, members_put_other different]
  refine Option.map_congr fun neighbour present => ?_
  have kept : host.journal.own neighbour.number = ensemble.host.journal.own neighbour.number :=
    step.entries (step.apart different present)
  exact congrArg (View.mk _ _) kept

theorem Step.sound {host : Host η} {member : Member σ} (step : Step party ensemble host member)
    (sound : ensemble.Sound) : (ensemble.put party host member).Sound where
  numbered {other neighbour} present := by
    by_cases same : other = party
    · subst other
      rw [members_put_self] at present
      cases present
      exact step.numbered
    · rw [members_put_other same] at present
      exact Nat.lt_of_lt_of_le (sound.numbered present) step.grows
  distinct {first second member neighbour} present also equal := by
    by_cases here : first = party <;> by_cases there : second = party
    · exact here.trans there.symm
    · subst first
      rw [members_put_self] at present
      rw [members_put_other there] at also
      cases present
      exact absurd equal.symm (step.apart there also)
    · subst second
      rw [members_put_other here] at present
      rw [members_put_self] at also
      cases also
      exact absurd equal (step.apart here present)
    · rw [members_put_other here] at present
      rw [members_put_other there] at also
      exact sound.distinct present also equal
  named {other neighbour cast} present made := by
    by_cases same : other = party
    · subst other
      rw [members_put_self] at present
      cases present
      exact step.named made
    · rw [members_put_other same] at present
      exact sound.named present made
  unused {session} later := by
    have different : session ≠ member.number :=
      Nat.ne_of_gt (Nat.lt_of_lt_of_le step.numbered later)
    exact (step.entries different).trans (sound.unused (Nat.le_trans step.grows later))

theorem plain_site (made : Reply Unit × Site η σ) : (plain made).2 = made.2 := by
  obtain ⟨reply, site⟩ := made
  cases reply <;> rfl

/-- A party that comes takes the next number. -/
theorem Sound.step_enter (sound : ensemble.Sound) {base : Site η σ}
    {made : Reply (Except SessionError Unit) × Site η σ}
    (host : base.host = { ensemble.host with nextSession := ensemble.host.nextSession + 1 })
    (number : base.session.id = ensemble.host.nextSession) (away : base.Away made.2) :
    ∃ next member, ensemble.enter party made = ensemble.put party next member ∧
      Step party ensemble next member := by
  have same : made.2.session.id = ensemble.host.nextSession := away.number.trans number
  have next : made.2.host.nextSession = ensemble.host.nextSession + 1 := by
    rw [away.next, host]
  refine ⟨_, _, rfl, ?_, ?_, ?_, ?_, ?_, ?_⟩
  · rw [away.linking, host]
  · omega
  · dsimp only
    omega
  · intro other neighbour _ present
    have earlier := sound.numbered present
    dsimp only
    omega
  · intro cast present
    dsimp only at present
    split at present
    · cases present
      rfl
    · cases present
  · intro session different
    rw [away.entries session (number.trans same.symm ▸ different), host]

/-- Whatever a party does to an ensemble is a step of its own. -/
theorem Sound.step_act? (sound : ensemble.Sound) {act : Act σ}
    (acted : ensemble.act? engines act = some after) :
    ∃ host member, after = ensemble.put act.party host member ∧
      Step act.party ensemble host member := by
  cases act with
  | create party state mode workers delivery =>
      simp only [act?, Option.ite_none_right_eq_some, Option.some.injEq] at acted
      obtain ⟨absent, rfl⟩ := acted
      refine sound.step_enter
        (show (Session.unmade state mode workers delivery ensemble.host).host = _ from rfl) rfl ?_
      rw [plain_site]
      exact away_create ..
  | configure party state config =>
      simp only [act?, Option.ite_none_right_eq_some, Option.some.injEq] at acted
      obtain ⟨absent, rfl⟩ := acted
      exact sound.step_enter rfl rfl (away_createConfigured ..)
  | move party move =>
      simp only [act?, move?] at acted
      split at acted
      case h_1 number made cast present =>
        obtain ⟨scene, moved, rfl⟩ := Option.map_eq_some_iff.mp acted
        have away := away_move? _ moved
        have named : cast.session.id = number := sound.named present rfl
        refine ⟨_, _, rfl, away.linking, Nat.le_of_eq away.next.symm, ?_, ?_, ?_, ?_⟩
        · have earlier := sound.numbered present
          exact away.next ▸ earlier
        · intro other neighbour different also equal
          exact different (sound.distinct also present equal)
        · intro later found
          cases found
          exact away.number.trans named
        · intro session different
          exact away.entries session (named ▸ different)
      case h_2 => cases acted

/-- Sessions that were made alike are seen alike. -/
theorem view_enter_eq (other : Ensemble η σ)
    {first second : Reply (Except SessionError Unit) × Site η σ}
    (same : second.1 = first.1 ∧ first.2.Twin second.2) :
    (other.enter party second).view party = (ensemble.enter party first).view party := by
  obtain ⟨made, twin⟩ := same
  simp only [enter, view_put_self, made, twin.entries]
  split
  · simp only [Option.map_some]
    rw [twin.anonymous { session := first.2.session }]
  · rfl

theorem plain_alike {first second : Reply Unit × Site η σ}
    (same : second.1 = first.1 ∧ first.2.Twin second.2) :
    (plain second).1 = (plain first).1 ∧ (plain first).2.Twin (plain second).2 := by
  rcases reply_cases same with
    ⟨⟨⟩, site, other, rfl, rfl, twin⟩ | ⟨panic, site, other, rfl, rfl, twin⟩ <;> exact ⟨rfl, twin⟩

theorem members_eq_none_iff : ensemble.members party = none ↔ ensemble.view party = none :=
  Option.map_eq_none_iff.symm

section

variable {other : Ensemble η σ} (sound : ensemble.Sound) (also : other.Sound)
  (linking : other.host.dynamicLinking = ensemble.host.dynamicLinking)

include sound also linking

theorem move?_alike {engine : Engine η σ} (selfContained : engine.SelfContained) {move : Move}
    (seen : other.view party = ensemble.view party)
    (acted : ensemble.move? engine party move = some after) :
    ∃ final, other.move? engine party move = some final ∧ final.view party = after.view party := by
  simp only [move?] at acted
  split at acted
  case h_2 => cases acted
  case h_1 number made cast present =>
    obtain ⟨scene, moved, rfl⟩ := Option.map_eq_some_iff.mp acted
    have here : ensemble.view party = some {
        made, cast := some cast.anonymous, entries := ensemble.host.journal.own number } := by
      rw [view, present]
      rfl
    obtain ⟨⟨name, ended, acting⟩, found, same⟩ := Option.map_eq_some_iff.mp (seen.trans here)
    simp only [View.mk.injEq, Option.map_eq_some_iff] at same
    obtain ⟨rfl, ⟨actor, rfl, anonymous⟩, entries⟩ := same
    obtain ⟨id, rfl⟩ := Cast.eq_of_anonymous anonymous
    have named : cast.session.id = number := sound.named present rfl
    have called : id = name := also.named found rfl
    subst named called
    have twin : (cast.scene ensemble.host).site.Twin ⟨other.host, { cast.session with id }⟩ :=
      ⟨rfl, linking, entries⟩
    obtain ⟨final, possible, kept⟩ := (Site.congruence_twin selfContained).move? twin moved
    have numbered : final.session.id = id := (away_move? _ possible).number
    have numbered' : scene.site.session.id = cast.session.id := (away_move? _ moved).number
    have noted := kept.entries
    rw [numbered, numbered'] at noted
    refine ⟨other.put party final.host
      { number := id, made := ended, cast := some { scene.cast with session := final.session } },
      ?_, ?_⟩
    · simp only [move?, found]
      exact Option.map_eq_some_iff.mpr ⟨_, possible, rfl⟩
    · rw [view_put_self, view_put_self, noted]
      exact congrArg (fun cast => some (View.mk _ (some cast) _)) (kept.anonymous scene.cast)

/-- What a party does is possible in every ensemble in which the party sees the same, and it then
sees the same again. -/
theorem act?_alike {act : Act σ} (selfContained : (engines act.party).SelfContained)
    (seen : other.view act.party = ensemble.view act.party)
    (acted : ensemble.act? engines act = some after) :
    ∃ final, other.act? engines act = some final ∧
      final.view act.party = after.view act.party := by
  have congruence := Site.congruence_twin selfContained
  have unmade (state : σ) (mode : OutputMode) (workers : UInt64) (delivery : Delivery) :
      (Session.unmade state mode workers delivery ensemble.host).Twin
        (Session.unmade state mode workers delivery other.host) :=
    ⟨rfl, linking, (also.unused (Nat.le_refl _)).trans (sound.unused (Nat.le_refl _)).symm⟩
  cases act with
  | create party state mode workers delivery =>
      simp only [act?, Option.ite_none_right_eq_some, Option.some.injEq,
        Option.isNone_iff_eq_none, members_eq_none_iff] at acted ⊢
      obtain ⟨absent, rfl⟩ := acted
      refine ⟨_, ⟨seen.trans absent, rfl⟩, view_enter_eq other (plain_alike ?_)⟩
      exact Session.create_alike congruence mode workers delivery (unmade ..)
  | configure party state config =>
      simp only [act?, Option.ite_none_right_eq_some, Option.some.injEq,
        Option.isNone_iff_eq_none, members_eq_none_iff] at acted ⊢
      obtain ⟨absent, rfl⟩ := acted
      refine ⟨_, ⟨seen.trans absent, rfl⟩, view_enter_eq other ?_⟩
      exact Session.createConfigured_alike congruence config (unmade ..)
  | move party move => exact move?_alike sound also linking selfContained seen acted

/-- Of what is done in a run, a party sees what it does itself. -/
theorem follow?_alike {finish : Ensemble η σ} {acts : List (Act σ)}
    (selfContained : (engines party).SelfContained)
    (seen : other.view party = ensemble.view party)
    (followed : ensemble.follow? engines acts = some finish) :
    ∃ alone, other.follow? engines (acts.filter (·.party = party)) = some alone ∧
      alone.view party = finish.view party := by
  induction acts generalizing ensemble other with
  | nil =>
      cases followed
      exact ⟨other, rfl, seen⟩
  | cons act acts ih =>
      obtain ⟨middle, acted, continued⟩ := Option.bind_eq_some_iff.mp followed
      obtain ⟨host, member, rfl, step⟩ := sound.step_act? acted
      by_cases own : act.party = party
      · subst own
        obtain ⟨next, possible, same⟩ := act?_alike sound also linking selfContained seen acted
        obtain ⟨host', member', rfl, step'⟩ := also.step_act? possible
        obtain ⟨alone, reached, agrees⟩ := ih (step.sound sound) (step'.sound also)
          (step'.linking.trans (linking.trans step.linking.symm)) same continued
        refine ⟨alone, ?_, agrees⟩
        rw [List.filter_cons_of_pos (by simp)]
        exact Option.bind_eq_some_iff.mpr ⟨_, possible, reached⟩
      · rw [List.filter_cons_of_neg (by simpa using own)]
        refine ih (step.sound sound) also (linking.trans step.linking.symm) ?_ continued
        rw [step.view_put (Ne.symm own)]
        exact seen

end

end Ensemble

/-- A party whose engine answers by the calls made to it sees the same in every run, whatever other
parties do in between, as in the run in which they do nothing: how the making of its session ended,
what callers were told, what the engine answered, its queue and its futures, and, in order, the
calls to its engine, what became of its units, and what callers were told about deliveries. -/
theorem sessions_isolated {engines : Nat → Engine η σ} {host : Host η} {party : Nat}
    {acts : List (Ensemble.Act σ)} {finish : Ensemble η σ}
    (selfContained : (engines party).SelfContained)
    (unused : ∀ session, host.nextSession ≤ session → host.journal.own session = [])
    (followed : ({ host } : Ensemble η σ).follow? engines acts = some finish) :
    ∃ alone, ({ host } : Ensemble η σ).follow? engines (acts.filter (·.party = party)) =
        some alone ∧ alone.view party = finish.view party := by
  have sound : ({ host } : Ensemble η σ).Sound :=
    ⟨nofun, nofun, nofun, unused _⟩
  exact Ensemble.follow?_alike sound sound rfl selfContained rfl followed

theorem sessions_isolated_sample :
    Engine.content.SelfContained ∧
    (∀ session, 1 ≤ session → (Site.sample .execute .queued).host.journal.own session = []) ∧
    ∃ finish, ({ host := (Site.sample .execute .queued).host } : Ensemble Unit Unit).follow?
        (fun _ => Engine.content)
        [.configure 1 () {}, .create 0 () .execute 2 .queued, .move 1 (.submit "theirs" .future),
          .move 0 (.submit "ours" (.callback [] true)), .move 1 (.takeUp 0), .move 0 (.takeUp 0),
          .move 0 .compile, .move 1 .compile, .move 0 (.finish 0), .move 1 .close,
          .move 0 .beginDelivery, .move 1 (.finish 0), .move 0 (.deliverNext 0),
          .move 0 (.completeDelivery 0 true)] = some finish ∧
      ∃ alone, ({ host := (Site.sample .execute .queued).host } : Ensemble Unit Unit).follow?
          (fun _ => Engine.content)
          [.create 0 () .execute 2 .queued, .move 0 (.submit "ours" (.callback [] true)),
            .move 0 (.takeUp 0), .move 0 .compile, .move 0 (.finish 0), .move 0 .beginDelivery,
            .move 0 (.deliverNext 0), .move 0 (.completeDelivery 0 true)] = some alone ∧
        alone.view 0 = finish.view 0 := by
  have selfContained : Engine.content.SelfContained := fun _ _ _ _ => ⟨rfl, rfl⟩
  have followed : ({ host := (Site.sample .execute .queued).host } : Ensemble Unit Unit).follow?
      (fun _ => Engine.content)
      [.configure 1 () {}, .create 0 () .execute 2 .queued, .move 1 (.submit "theirs" .future),
        .move 0 (.submit "ours" (.callback [] true)), .move 1 (.takeUp 0), .move 0 (.takeUp 0),
        .move 0 .compile, .move 1 .compile, .move 0 (.finish 0), .move 1 .close,
        .move 0 .beginDelivery, .move 1 (.finish 0), .move 0 (.deliverNext 0),
        .move 0 (.completeDelivery 0 true)] = some _ := rfl
  obtain ⟨alone, reached, agrees⟩ :=
    @sessions_isolated _ _ (fun _ => Engine.content) _ 0 _ _ selfContained (fun _ _ => rfl) followed
  exact ⟨selfContained, fun _ _ => rfl, _, followed, alone, reached, agrees⟩

end CompileSession
