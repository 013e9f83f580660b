import Copresence.Services.ReapStale

/-! What one call of `reapStale` removes, reports and leaves, exactly. -/
namespace Copresence

open Collections

namespace SessionRegistry

/-- The flags stored for `pid` in the session of `sid`, if there are any. -/
def dirty? (registry : SessionRegistry) (sid : SessionId) (pid : ParticipantId) :
    Option PresenceDirty :=
  (registry.get sid).bind fun session => session.dirty.get? pid

/-- Removed are the stale participants and nobody else, with the sessions that
lose their last one. -/
structure Reaps (ttlMs now : Int) (before after : SessionRegistry)
    (reaped : List ReapedParticipant) : Prop where
  present : ∀ sid pid, (after.participant? sid pid).isSome = true ↔
    ∃ participant, before.participant? sid pid = some participant ∧
      now - participant.lastSeenAt ≤ ttlMs
  once : reaped.Nodup
  listed : ∀ one, one ∈ reaped ↔
    ∃ participant, before.participant? one.sid one.pid = some participant ∧
      ¬ now - participant.lastSeenAt ≤ ttlMs ∧ one.lastSeenAt = participant.lastSeenAt
  entries : ∀ sid pid participant, after.participant? sid pid = some participant →
    before.participant? sid pid = some participant ∧ after.dirty? sid pid = before.dirty? sid pid
  unflagged : ∀ one ∈ reaped, after.dirty? one.sid one.pid = none
  dropped : ∀ sid session, before.get sid = some session →
    (after.get sid = none ↔ (∃ one ∈ reaped, one.sid = sid) ∧
      ∀ pid participant, session.participants.get? pid = some participant →
        ¬ now - participant.lastSeenAt ≤ ttlMs)
  untouched : ∀ sid, (∀ one ∈ reaped, one.sid ≠ sid) → after.get sid = before.get sid
  rewritten : ∀ sid session next, before.get sid = some session → after.get sid = some next →
    next.sid = session.sid ∧ next.createdAt = session.createdAt

section Swept

variable {registry : SessionRegistry} {ttlMs now : Int} {sid : SessionId} {session : Session}

theorem participant?_reapStale (seated : registry.Seated) (pid : ParticipantId) :
    (registry.reapStale ttlMs now).1.participant? sid pid =
      (registry.participant? sid pid).filter fun participant => ¬ participant.Stale ttlMs now := by
  rw [participant?_eq, entryOf_reapStale seated, participant?_eq]
  cases registry.entryOf sid pid with
  | none => rfl
  | some entry =>
      by_cases stale : entry.participant.Stale ttlMs now
      · simp [Option.filter, stale]
      · simp [Option.filter, stale]

theorem get_reapStale_of_some (h : registry.get sid = some session) :
    (registry.reapStale ttlMs now).1.get sid = reapedEntry ttlMs now session (some session) := by
  rw [get_reapStale, h]
  rfl

/-- What stays stored is the session without the stale participants. -/
theorem eq_of_reapedEntry {next : Session}
    (h : reapedEntry ttlMs now session (some session) = some next) :
    next = (reapSession ttlMs now session).1 := by
  unfold reapedEntry at h
  dsimp only at h
  split at h
  · next same => rw [same, Option.some.inj h]
  · split at h
    · cases h
    · exact (Option.some.inj h).symm

theorem isEmpty_reapSession_iff (seated : session.Seated) :
    isEmpty (reapSession ttlMs now session).1 = true ↔
      ∀ pid participant, session.participants.get? pid = some participant →
        participant.Stale ttlMs now := by
  rw [isEmpty, decide_eq_true_eq, JsMap.size_eq_zero_iff]
  apply forall_congr'
  intro pid
  rw [← Session.entryOf_map_participant, reapSession_entryOf seated]
  cases hp : session.participants.get? pid with
  | none => simp [Session.entryOf, hp]
  | some participant =>
      rw [Session.entryOf_of_get hp]
      by_cases stale : participant.Stale ttlMs now
      · simp [Option.filter, stale]
      · simp [Option.filter, stale]

/-- A session goes when somebody in it is stale and nobody is not. -/
theorem reapedEntry_eq_none_iff (seated : session.Seated) :
    reapedEntry ttlMs now session (some session) = none ↔
      (∃ pid participant, session.participants.get? pid = some participant ∧
        participant.Stale ttlMs now) ∧
      ∀ pid participant, session.participants.get? pid = some participant →
        participant.Stale ttlMs now := by
  have somebody : (reapSession ttlMs now session).1 ≠ session ↔
      ∃ pid participant, session.participants.get? pid = some participant ∧
        participant.Stale ttlMs now := by
    rw [Ne, reapSession_eq_self_iff seated, List.eq_nil_iff_forall_not_mem, not_forall]
    apply exists_congr
    intro pid
    rw [not_not, mem_stalePids seated]
  rw [← somebody, ← isEmpty_reapSession_iff seated]
  unfold reapedEntry
  dsimp only
  split
  · next same => simp [same]
  · next changed =>
      split
      · next empty => simp [changed, empty]
      · next left => simp [left]

/-- A session nobody in it is stale stays as it is. -/
theorem reapedEntry_of_fresh (seated : session.Seated)
    (fresh : ∀ pid participant, session.participants.get? pid = some participant →
      ¬ participant.Stale ttlMs now) :
    reapedEntry ttlMs now session (some session) = some session := by
  have same : (reapSession ttlMs now session).1 = session := by
    rw [reapSession_eq_self_iff seated, List.eq_nil_iff_forall_not_mem]
    intro pid hm
    obtain ⟨participant, hp, stale⟩ := (mem_stalePids seated).mp hm
    exact fresh pid participant hp stale
  unfold reapedEntry
  dsimp only
  rw [if_pos same]

/-- A sweep over sessions in which nobody is stale does nothing. -/
theorem foldl_reapInto_of_fresh {sessions : List Session}
    (fresh : ∀ session ∈ sessions, ∀ participant ∈ session.participants.values,
      ¬ participant.Stale ttlMs now) (state : SessionRegistry × List ReapedParticipant) :
    sessions.foldl (reapInto ttlMs now) state = state := by
  induction sessions with
  | nil => rfl
  | cons session sessions ih =>
      rw [List.forall_mem_cons] at fresh
      have nobody : staleOf ttlMs now session.participants.values = [] := by
        rw [staleOf, List.filter_eq_nil_iff]
        intro participant hp
        simpa using fresh.1 participant hp
      have turn : reapSession ttlMs now session = (session, []) := by
        rw [reapSession_eq, nobody]
        rfl
      have idle : reapInto ttlMs now state session = state := by
        rw [reapInto, turn]
        simp
      rw [List.foldl_cons, idle, ih fresh.2]

/-- A second sweep at the same time does nothing. -/
theorem reapStale_reapStale (seated : registry.Seated) :
    (registry.reapStale ttlMs now).1.reapStale ttlMs now =
      ((registry.reapStale ttlMs now).1, []) := by
  apply foldl_reapInto_of_fresh
  intro session hm participant hp stale
  obtain ⟨pid, hp⟩ := JsMap.mem_values_iff.mp hp
  have here := participant?_of_get (mem_all_iff.mp hm) pid
  rw [participant?_reapStale seated, hp] at here
  have fresh := (Option.filter_eq_some_iff.mp here).2
  simp [stale] at fresh

/-- A session loses somebody exactly when somebody in it is stale. -/
theorem exists_reaped_iff (seated : registry.Seated) (h : registry.get sid = some session) :
    (∃ one ∈ (registry.reapStale ttlMs now).2, one.sid = sid) ↔
      ∃ pid participant, session.participants.get? pid = some participant ∧
        participant.Stale ttlMs now := by
  constructor
  · rintro ⟨one, hm, rfl⟩
    obtain ⟨participant, there, stale, _⟩ := (mem_reapStale_iff seated ttlMs now one).mp hm
    exact ⟨one.pid, participant, (participant?_of_get h one.pid).symm.trans there, stale⟩
  · rintro ⟨pid, participant, hp, stale⟩
    refine ⟨⟨sid, pid, participant.lastSeenAt⟩, ?_, rfl⟩
    apply (mem_reapStale_iff seated ttlMs now _).mpr
    exact ⟨participant, (participant?_of_get h pid).trans hp, stale, rfl⟩

/-- The flags of whoever stays are as they were. -/
theorem dirty?_reapStale_of_fresh (seated : registry.Seated) {pid : ParticipantId}
    {participant : Participant} (there : registry.participant? sid pid = some participant)
    (fresh : ¬ participant.Stale ttlMs now) :
    (registry.reapStale ttlMs now).1.dirty? sid pid = registry.dirty? sid pid := by
  obtain ⟨session, hg, hp⟩ := Option.bind_eq_some_iff.mp there
  have stays : pid ∉ (staleOf ttlMs now session.participants.values).map Participant.pid := by
    intro hm
    obtain ⟨other, ho, stale⟩ := (mem_stalePids (seated sid session hg)).mp hm
    rw [hp] at ho
    rw [← Option.some.inj ho] at stale
    exact fresh stale
  rw [dirty?, dirty?, get_reapStale_of_some hg, hg]
  cases hn : reapedEntry ttlMs now session (some session) with
  | none =>
      have gone := ((reapedEntry_eq_none_iff (seated sid session hg)).mp hn).2 pid participant hp
      exact absurd gone fresh
  | some next =>
      rw [Option.bind_some, Option.bind_some, eq_of_reapedEntry hn, reapSession_eq]
      exact removeAll_dirty session stays

/-- Those of whoever is removed are removed. -/
theorem dirty?_reapStale_of_stale (seated : registry.Seated) {pid : ParticipantId}
    {participant : Participant} (there : registry.participant? sid pid = some participant)
    (stale : participant.Stale ttlMs now) :
    (registry.reapStale ttlMs now).1.dirty? sid pid = none := by
  obtain ⟨session, hg, hp⟩ := Option.bind_eq_some_iff.mp there
  rw [dirty?, get_reapStale_of_some hg]
  cases hn : reapedEntry ttlMs now session (some session) with
  | none => rfl
  | some next =>
      rw [Option.bind_some, eq_of_reapedEntry hn, reapSession_eq]
      apply removeAll_dirty_self
      · exact (mem_stalePids (seated _ session hg)).mpr ⟨participant, hp, stale⟩
      · exact JsMap.has_eq_true_iff.mpr ⟨participant, hp⟩

end Swept

theorem reapStale_reaps {registry : SessionRegistry} (seated : registry.Seated)
    (ttlMs now : Int) :
    Reaps ttlMs now registry (registry.reapStale ttlMs now).1
      (registry.reapStale ttlMs now).2 where
  present := by
    intro sid pid
    rw [participant?_reapStale seated, Option.isSome_iff_exists]
    simp [Option.filter_eq_some_iff, Participant.Stale]
  once := (reapStale_nodup seated ttlMs now).of_map
  listed := fun one => mem_reapStale_iff seated ttlMs now one
  entries := by
    intro sid pid participant h
    rw [participant?_reapStale seated, Option.filter_eq_some_iff] at h
    have fresh : ¬ participant.Stale ttlMs now := by simpa using h.2
    exact ⟨h.1, dirty?_reapStale_of_fresh seated h.1 fresh⟩
  unflagged := by
    intro one hm
    obtain ⟨participant, there, stale, _⟩ := (mem_reapStale_iff seated ttlMs now one).mp hm
    exact dirty?_reapStale_of_stale seated there stale
  dropped := by
    intro sid session hg
    rw [get_reapStale_of_some hg, reapedEntry_eq_none_iff (seated sid session hg),
      exists_reaped_iff seated hg]
    rfl
  untouched := by
    intro sid nobody
    cases hg : registry.get sid with
    | none => rw [get_reapStale, hg]; rfl
    | some session =>
        rw [get_reapStale_of_some hg]
        apply reapedEntry_of_fresh (seated sid session hg)
        intro pid participant hp stale
        obtain ⟨one, hm, same⟩ := (exists_reaped_iff seated hg).mpr ⟨pid, participant, hp, stale⟩
        exact nobody one hm same
  rewritten := by
    intro sid session next hg hNext
    rw [get_reapStale_of_some hg] at hNext
    rw [eq_of_reapedEntry hNext, reapSession_eq]
    exact ⟨removeAll_sid session _, removeAll_createdAt session _⟩

/-- One sweep removes exactly the stale participants, and a second one at the
same time finds nobody. -/
theorem reapStale_exact {registry : SessionRegistry} (seated : registry.Seated)
    (ttlMs now : Int) :
    Reaps ttlMs now registry (registry.reapStale ttlMs now).1
        (registry.reapStale ttlMs now).2 ∧
      (registry.reapStale ttlMs now).1.reapStale ttlMs now =
        ((registry.reapStale ttlMs now).1, []) :=
  ⟨reapStale_reaps seated ttlMs now, reapStale_reapStale seated⟩

def alice : ParticipantId := ⟨"a", nonempty_a⟩

def bob : ParticipantId := ⟨"b", nonempty_b⟩

/-- In one session somebody was seen lately, in the other nobody. -/
def visited : SessionRegistry :=
  (empty.save (addParticipant (addParticipant (createSession ⟨"s", nonempty_s⟩ 0) alice 0) bob 9000)).save
    (addParticipant (createSession ⟨"t", nonempty_t⟩ 0) bob 0)

theorem visited_wellFormed : visited.WellFormed :=
  (empty_wellFormed.save
    (((Session.WellFormed.createSession _ 0).addParticipant alice 0).addParticipant bob 9000)).save
    ((Session.WellFormed.createSession _ 0).addParticipant bob 0)

theorem visited_reaped :
    (visited.reapStale 5000 10000).2 =
        [⟨⟨"s", by decide⟩, alice, 0⟩, ⟨⟨"t", by decide⟩, bob, 0⟩] ∧
      Reaps 5000 10000 visited (visited.reapStale 5000 10000).1 (visited.reapStale 5000 10000).2 ∧
      (visited.reapStale 5000 10000).1.reapStale 5000 10000 =
        ((visited.reapStale 5000 10000).1, []) := by
  constructor
  · decide
  · exact reapStale_exact visited_wellFormed.seated 5000 10000

end SessionRegistry

end Copresence
