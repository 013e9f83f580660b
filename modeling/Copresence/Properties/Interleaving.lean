import Copresence.Models.SessionSlices
import Copresence.Server.Run
import Mathlib.Order.Defs.LinearOrder

/-! Which orders of events a session can tell apart. Cursor and scroll events
may come in any order and more than once; events of any kind may be interleaved
with those of other participants. -/
namespace Copresence

open Collections

namespace Slice

variable (slice : Slice) {first second : PresenceState → PresenceState}

theorem marked_marked (fields : PresenceDirty) (dirty : Option PresenceDirty) :
    marked fields (some (marked fields dirty)) = marked fields dirty := by
  simp [marked]

theorem marked_comm (fields others : PresenceDirty) (dirty : Option PresenceDirty) :
    marked others (some (marked fields dirty)) = marked fields (some (marked others dirty)) := by
  simp [marked, Bool.or_right_comm]

/-- Two writes of one field are one write of what they compose to. -/
theorem write_write (fields : PresenceDirty)
    (no_return : ∀ presence, second (first presence) = presence → first presence = presence) :
    (slice.write first fields).write second fields = slice.write (second ∘ first) fields := by
  rcases slice with ⟨_ | participant, dirty⟩
  · rfl
  · by_cases one : first participant.presence = participant.presence
    · simp [write, one]
    · have both : second (first participant.presence) ≠ participant.presence :=
        fun h => one (no_return _ h)
      by_cases two : second (first participant.presence) = first participant.presence
      · simp [write, one, two]
      · simp [write, one, two, both, marked_marked]

/-- Writes of two fields that do not see each other may be swapped. -/
theorem write_comm (fields others : PresenceDirty)
    (comm : ∀ presence, second (first presence) = first (second presence))
    (unseen : ∀ presence, second (first presence) = first presence ↔ second presence = presence)
    (blind : ∀ presence, first (second presence) = second presence ↔ first presence = presence) :
    (slice.write first fields).write second others =
      (slice.write second others).write first fields := by
  rcases slice with ⟨_ | participant, dirty⟩
  · rfl
  · by_cases one : first participant.presence = participant.presence
    · by_cases two : second participant.presence = participant.presence
      · simp [write, one, two]
      · simp [write, one, two, (blind _).mpr one]
    · by_cases two : second participant.presence = participant.presence
      · simp [write, one, two, (unseen _).mpr two]
      · have one' : ¬first (second participant.presence) = second participant.presence :=
          fun h => one ((blind _).mp h)
        have two' : ¬first (second participant.presence) = first participant.presence :=
          fun h => two ((unseen _).mp ((comm _).trans h))
        simp only [write, one, two, one', two', if_false, comm, marked_comm fields]

end Slice

/-- Equal participant, type and number come with equal coordinates. -/
def SessionEvent.Consistent : SessionEvent → SessionEvent → Prop
  | .cursor first, .cursor second =>
    first.pid = second.pid → first.seq = second.seq → first.x = second.x ∧ first.y = second.y
  | .scroll first, .scroll second =>
    first.pid = second.pid → first.seq = second.seq →
      first.scrollX = second.scrollX ∧ first.scrollY = second.scrollY
  | _, _ => True

theorem SessionEvent.Consistent.same_point {first second : SessionEvent}
    (consistent : first.Consistent second) (pid : first.pid = second.pid)
    {field : PresenceField} {point other : ℚ × ℚ} (one : first.writes = some (field, point))
    (two : second.writes = some (field, other)) (seq : first.seq = second.seq) :
    point = other := by
  cases first with
  | cursor first =>
      cases second with
      | cursor second =>
          cases one
          cases two
          exact Prod.ext (consistent pid seq).1 (consistent pid seq).2
      | scroll second => cases one; cases two
      | _ => cases two
  | scroll first =>
      cases second with
      | scroll second =>
          cases one
          cases two
          exact Prod.ext (consistent pid seq).1 (consistent pid seq).2
      | cursor second => cases one; cases two
      | _ => cases two
  | _ => cases one

theorem Slice.act_comm (slice : Slice) {first second : SessionEvent} (one : first.IsPresence)
    (two : second.IsPresence) (pid : first.pid = second.pid) (consistent : first.Consistent second) :
    (slice.act first).act second = (slice.act second).act first := by
  obtain ⟨⟨field, point⟩, hOne⟩ := one.writes
  obtain ⟨⟨other, position⟩, hTwo⟩ := two.writes
  rw [act_of_writes _ hOne, act_of_writes _ hTwo, act_of_writes _ hOne, act_of_writes _ hTwo]
  by_cases same : other = field
  · subst same
    rw [slice.write_write _ fun presence => other.write_no_return presence point _ position _,
      slice.write_write _ fun presence => other.write_no_return presence position _ point _]
    congr 1
    funext presence
    exact other.write_comm presence point _ position _ (consistent.same_point pid hOne hTwo)
  · apply slice.write_comm
    · exact fun presence => field.write_comm_of_ne presence point _ other position _ same
    · exact fun presence => field.write_eq_self_of_ne presence point _ other position _ same
    · exact fun presence =>
        other.write_eq_self_of_ne presence position _ field point _ (Ne.symm same)

/-- A lossy event applied twice in a row is applied once. -/
theorem Slice.act_absorb (slice : Slice) {event : SessionEvent} (lossy : event.IsPresence) :
    (slice.act event).act event = slice.act event := by
  obtain ⟨⟨field, point⟩, hw⟩ := lossy.writes
  rw [act_of_writes _ hw, act_of_writes _ hw,
    slice.write_write _ fun presence => field.write_no_return presence point _ point _]
  congr 1
  funext presence
  exact field.write_write presence point event.seq

/-- One participant's lossy events, consistent among each other. -/
theorem orderFree_own {events : List SessionEvent} (lossy : ∀ event ∈ events, event.IsPresence)
    (consistent : ∀ first ∈ events, ∀ second ∈ events, first.Consistent second)
    (pid : ParticipantId) :
    Transition.OrderFree Slice.act (Transition.own SessionEvent.pid pid events) where
  comm := by
    intro first one second two slice
    obtain ⟨one, pidOne⟩ := List.mem_filter.mp one
    obtain ⟨two, pidTwo⟩ := List.mem_filter.mp two
    have same : first.pid = second.pid := (of_decide_eq_true pidOne).trans (of_decide_eq_true pidTwo).symm
    exact slice.act_comm (lossy first one) (lossy second two) same (consistent first one second two)
  absorb := by
    intro event h slice
    exact slice.act_absorb (lossy event (List.mem_filter.mp h).1)

/-- The reducer is insensitive to order and repetition of lossy events. -/
theorem applyEvents_of_same_members (session : Session) (events others : List SessionEvent)
    (lossy : ∀ event ∈ events, event.IsPresence)
    (consistent : ∀ first ∈ events, ∀ second ∈ events, first.Consistent second)
    (same : ∀ event, event ∈ events ↔ event ∈ others) :
    (applyEvents session events).SameMaps (applyEvents session others) := by
  apply Session.sameMaps_of_slices
  · rw [applyEvents_sid, applyEvents_sid]
  · rw [applyEvents_createdAt, applyEvents_createdAt]
  · intro pid
    rw [applyEvents_slice, applyEvents_slice]
    apply (orderFree_own lossy consistent pid).run_eq
    intro event
    simp only [Transition.own, List.mem_filter, same]

open Scenario

/-- A late cursor, a scroll and a stranger's cursor, shuffled and repeated. -/
theorem applyEvents_of_same_members_shuffled :
    (applyEvents (applyEvent (createSession session 0) (helloEvent alice 0)).state
        [cursorEvent alice 2 1 1, scrollEvent alice 3 0 5, cursorEvent alice 1 0 0,
          cursorEvent bob 1 1 4]).SameMaps
      (applyEvents (applyEvent (createSession session 0) (helloEvent alice 0)).state
        [cursorEvent bob 1 1 4, cursorEvent alice 1 0 0, scrollEvent alice 3 0 5,
          cursorEvent alice 2 1 1, cursorEvent alice 1 0 0]) := by
  apply applyEvents_of_same_members
  · simp [cursorEvent, scrollEvent, SessionEvent.IsPresence]
  · simp [cursorEvent, scrollEvent, SessionEvent.Consistent, envelope, alice, bob]
  · intro event
    simp only [List.mem_cons, List.not_mem_nil, or_false]
    tauto

/-- The mask each event of a fold reports, in order. -/
def reportedMasks (session : Session) (events : List SessionEvent) :
    List (SessionEvent × FieldMask) :=
  Transition.reports (fun session event => (applyEvent session event).state)
    (fun session event => (applyEvent session event).changed) session events

/-- Only each participant's own order of events matters, both for the session
and for what the events report. -/
theorem applyEvents_of_same_own (session : Session) (events others : List SessionEvent)
    (same : ∀ pid, Transition.own SessionEvent.pid pid events =
      Transition.own SessionEvent.pid pid others) :
    (applyEvents session events).SameMaps (applyEvents session others) ∧
      ∀ pid, (reportedMasks session events).filter (fun reported => reported.1.pid = pid) =
        (reportedMasks session others).filter (fun reported => reported.1.pid = pid) := by
  constructor
  · apply Session.sameMaps_of_slices
    · rw [applyEvents_sid, applyEvents_sid]
    · rw [applyEvents_createdAt, applyEvents_createdAt]
    · intro pid
      rw [applyEvents_slice, applyEvents_slice, same]
  · intro pid
    have own := Transition.reports_own applyEvent_slice applyEvent_changed session
    exact (own events pid).trans (same pid ▸ (own others pid).symm)

theorem applyEvents_of_same_own_swapped :
    (applyEvents (createSession session 0)
        [helloEvent alice 0, helloEvent bob 0, cursorEvent alice 1 1 1, cursorEvent bob 1 0 2]).SameMaps
      (applyEvents (createSession session 0)
        [helloEvent bob 0, cursorEvent bob 1 0 2, helloEvent alice 0, cursorEvent alice 1 1 1]) ∧
      ∀ pid, (reportedMasks (createSession session 0)
          [helloEvent alice 0, helloEvent bob 0, cursorEvent alice 1 1 1,
            cursorEvent bob 1 0 2]).filter (fun reported => reported.1.pid = pid) =
        (reportedMasks (createSession session 0)
          [helloEvent bob 0, cursorEvent bob 1 0 2, helloEvent alice 0,
            cursorEvent alice 1 1 1]).filter (fun reported => reported.1.pid = pid) := by
  apply applyEvents_of_same_own
  intro pid
  have distinct : alice ≠ bob := by decide
  by_cases ha : alice = pid
  · subst ha
    simp [Transition.own, helloEvent, cursorEvent, SessionEvent.pid, envelope, distinct.symm]
  · by_cases hb : bob = pid
    · subst hb
      simp [Transition.own, helloEvent, cursorEvent, SessionEvent.pid, envelope, distinct]
    · simp [Transition.own, helloEvent, cursorEvent, SessionEvent.pid, envelope, ha, hb]

end Copresence
