import Copresence.Controllers.Realtime
import Copresence.Models.SessionSlices
import Copresence.Server.Run
import Copresence.Services.ConvergenceTracker
import Copresence.Services.Flushes

/-! One patch a tick against forwarding every event: a viewer who gets the
roster announcements as they happen and a single patch at the end sees what
the session holds. -/
namespace Copresence

open Collections

/-- What a view that is up to date has of a participant. -/
def simulated (participant : Participant) : SimulatedParticipant where
  color := participant.color
  x := participant.presence.cursor.map CursorPosition.x
  y := participant.presence.cursor.map CursorPosition.y
  scrollX := participant.presence.scroll.map ScrollPosition.x
  scrollY := participant.presence.scroll.map ScrollPosition.y

/-- Equal in this field. -/
def PresenceField.Same : PresenceField → SimulatedParticipant → SimulatedParticipant → Prop
  | cursor, first, second => first.x = second.x ∧ first.y = second.y
  | scroll, first, second => first.scrollX = second.scrollX ∧ first.scrollY = second.scrollY

/-- Up to date but for the flagged fields. -/
structure Trails (flags : PresenceDirty) (participant : Participant)
    (shown : SimulatedParticipant) : Prop where
  color : shown.color = participant.color
  same : ∀ field : PresenceField, field.marked flags = false → field.Same shown (simulated participant)

namespace Slice

/-- What the reducer keeps true of a slice. -/
structure Sound (pid : ParticipantId) (slice : Slice) : Prop where
  keyed : ∀ participant, slice.participant = some participant → participant.pid = pid
  absent : slice.participant = none → slice.dirty = none
  flagged : ∀ participant, slice.participant = some participant → ∀ field : PresenceField,
    field.marked (slice.dirty.getD {}) = true → (field.ofPresence participant.presence).isSome

/-- What a viewer may have of a participant between two ticks. -/
def Pending (slice : Slice) (shown : Option SimulatedParticipant) : Prop :=
  Option.Rel (Trails (slice.dirty.getD {})) slice.participant shown

variable {pid : ParticipantId} {slice : Slice} {shown : Option SimulatedParticipant}

/-- A field is marked when it was, or is now. -/
theorem marked_field (fields : PresenceDirty) (dirty : Option PresenceDirty)
    (field : PresenceField) :
    field.marked (marked fields dirty) = (field.marked (dirty.getD {}) || field.marked fields) := by
  cases field <;> rfl

/-- A change of presence writes the fields it is flagged with and no other. -/
structure Writes (change : PresenceState → PresenceState) (fields : PresenceDirty) : Prop where
  written : ∀ presence, change presence ≠ presence → ∀ field : PresenceField,
    field.marked fields = true → (field.ofPresence (change presence)).isSome
  kept : ∀ presence, ∀ field : PresenceField, field.marked fields = false →
    field.ofPresence (change presence) = field.ofPresence presence

/-- Writing a field is guarded by that field's own number. -/
theorem writes_write (field : PresenceField) (point : ℚ × ℚ) (seq : Int) :
    Writes (fun presence => field.write presence point seq) field.flag where
  written := by
    intro presence changed other flagged
    have takes := (field.write_ne_iff presence point seq).mp changed
    rw [(field.write_of_takes presence point seq takes other).1,
      if_pos ((field.marked_flag other).mp flagged)]
    rfl
  kept := by
    intro presence other unflagged
    exact PresenceField.ofPresence_write_of_unmarked unflagged presence point seq

/-- Fields of equal presence look the same. -/
theorem same_of_ofPresence {first second : Participant} {field : PresenceField}
    (h : field.ofPresence first.presence = field.ofPresence second.presence) :
    field.Same (simulated first) (simulated second) := by
  cases field with
  | cursor =>
      simp only [PresenceField.ofPresence] at h
      cases hf : first.presence.cursor <;> cases hs : second.presence.cursor <;>
        simp_all [PresenceField.Same, simulated]
  | scroll =>
      simp only [PresenceField.ofPresence] at h
      cases hf : first.presence.scroll <;> cases hs : second.presence.scroll <;>
        simp_all [PresenceField.Same, simulated]

section Write

variable {change : PresenceState → PresenceState} {fields : PresenceDirty}

/-- A write that marks what it changes leaves a sound slice. -/
theorem Sound.write (sound : slice.Sound pid) (writes : Writes change fields) :
    (slice.write change fields).Sound pid := by
  rcases slice with ⟨_ | participant, dirty⟩
  · exact sound
  · rw [Slice.write]
    dsimp only
    split
    · exact sound
    · next changed =>
        refine ⟨?_, by simp, ?_⟩
        · intro other h
          rw [← Option.some.inj h]
          exact sound.keyed participant rfl
        · intro other h field flagged
          rw [← Option.some.inj h]
          rw [Option.getD_some, marked_field, Bool.or_eq_true] at flagged
          dsimp only
          cases hf : field.marked fields with
          | true => exact writes.written _ changed field hf
          | false =>
              rw [writes.kept _ field hf]
              exact sound.flagged participant rfl field (flagged.resolve_right (by simp [hf]))

/-- A write leaves pending what the viewer has not been told. -/
theorem Pending.write (pending : slice.Pending shown) (writes : Writes change fields) :
    (slice.write change fields).Pending shown := by
  rcases slice with ⟨_ | participant, dirty⟩
  · exact pending
  · cases pending with
    | some trails =>
        rw [Slice.write]
        dsimp only
        split
        · exact .some trails
        · refine .some ⟨trails.color, ?_⟩
          intro field unflagged
          rw [Option.getD_some, marked_field, Bool.or_eq_false_iff] at unflagged
          have before := trails.same field unflagged.1
          have after : field.Same (simulated participant)
              (simulated { participant with presence := change participant.presence }) :=
            same_of_ofPresence (writes.kept _ field unflagged.2).symm
          cases field with
          | cursor => exact ⟨before.1.trans after.1, before.2.trans after.2⟩
          | scroll => exact ⟨before.1.trans after.1, before.2.trans after.2⟩

end Write

/-- Hearing of a participant again changes nothing that is shown. -/
theorem simulated_helloed (msg : HelloMessage) (old : Option Participant) :
    simulated (helloed msg old) = simulated (old.getD (createParticipant msg.pid msg.ts)) := rfl

/-- An event of its own leaves a participant's slice sound. -/
theorem Sound.act (sound : slice.Sound pid) {event : SessionEvent} (own : event.pid = pid) :
    (slice.act event).Sound pid := by
  cases event with
  | hello msg =>
      refine ⟨?_, by simp [Slice.act], ?_⟩
      · intro participant h
        rw [← Option.some.inj h]
        cases ho : slice.participant with
        | none => exact own
        | some old => exact sound.keyed old ho
      · intro participant h field flagged
        rw [← Option.some.inj h]
        cases ho : slice.participant with
        | none =>
            rw [Slice.act, sound.absent ho] at flagged
            cases field <;> cases flagged
        | some old => exact sound.flagged old ho field flagged
  | cursor msg => exact sound.write (writes_write .cursor (msg.x, msg.y) msg.seq)
  | scroll msg => exact sound.write (writes_write .scroll (msg.scrollX, msg.scrollY) msg.seq)
  | bye msg =>
      rw [Slice.act]
      split
      · exact ⟨by simp, by simp, by simp⟩
      · exact sound

/-- A repeated hello shows nothing new. -/
theorem Pending.hello (pending : slice.Pending shown) {participant : Participant}
    (present : slice.participant = some participant) (msg : HelloMessage) :
    (slice.act (.hello msg)).Pending shown := by
  rw [Pending, present] at pending
  cases pending with
  | some trails =>
      rw [Pending, Slice.act, present]
      refine .some ⟨trails.color, ?_⟩
      intro field unflagged
      rw [simulated_helloed]
      exact trails.same field unflagged

/-- A newcomer has nothing to show but a colour. -/
theorem pending_newcomer (absent : slice.participant = none)
    (msg : HelloMessage) :
    (slice.act (.hello msg)).Pending (some { color := (helloed msg none).color }) := by
  rw [Pending, Slice.act, absent]
  refine .some ⟨rfl, ?_⟩
  intro field _
  cases field <;> exact ⟨rfl, rfl⟩

/-- A viewer shown exactly what the session holds. -/
theorem pending_simulated (slice : Slice) : slice.Pending (slice.participant.map simulated) := by
  rcases slice with ⟨_ | participant, dirty⟩
  · exact .none
  · refine .some ⟨rfl, ?_⟩
    intro field _
    cases field <;> exact ⟨rfl, rfl⟩

/-- Without flags the viewer is shown what the session holds. -/
theorem Pending.of_clean (pending : slice.Pending shown) (clean : slice.dirty = none) :
    shown = slice.participant.map simulated := by
  rcases slice with ⟨_ | participant, dirty⟩
  · cases pending
    rfl
  · cases pending with
    | some trails =>
        next shown =>
        obtain rfl : dirty = none := clean
        have cursor := trails.same .cursor rfl
        have scroll := trails.same .scroll rfl
        rcases shown with ⟨color, x, y, scrollX, scrollY⟩
        simp only [PresenceField.Same] at cursor scroll
        simp [simulated, ← trails.color, cursor, scroll]

end Slice

/-- A session and what one of its members has been shown of it. -/
structure Viewing where
  session : Session
  view : ParticipantView

/-- What a viewer is sent outside the ticks: a welcome for an own hello, a
join for another's that adds a participant, a leave for another's departure. -/
def announcements (viewer : ParticipantId) (now : Int) (session : Session) :
    SessionEvent → List OutboundMessage
  | .hello msg =>
    let next := (applyEvent session (.hello msg)).state
    if msg.pid = viewer then [.welcome (toWelcome next viewer 0 now)]
    else if session.participants.has msg.pid then []
    else
      (next.participants.get? msg.pid).toList.map fun participant =>
        joinMessage session.sid participant now
  | .bye msg =>
    if msg.pid ≠ viewer ∧ session.participants.has msg.pid then
      [leaveMessage session.sid msg.pid now]
    else []
  | _ => []

namespace Viewing

/-- One call of the reducer at a clock time, and its announcements. -/
def step (viewer : ParticipantId) (viewing : Viewing) (timed : Int × SessionEvent) : Viewing where
  session := (applyEvent viewing.session timed.2).state
  view := (announcements viewer timed.1 viewing.session timed.2).foldl ParticipantView.deliver
    viewing.view

/-- The calls between two ticks. -/
def run (viewer : ParticipantId) : Viewing → List (Int × SessionEvent) → Viewing :=
  Transition.run (step viewer)

/-- A tick: the patch, if there is one, then the flags are cleared. -/
def flush (seq now : Int) (viewing : Viewing) : Viewing where
  session := clearDirty viewing.session
  view :=
    match toPatch viewing.session seq now with
    | none => viewing.view
    | some patch => viewing.view.deliver (.patch patch)

/-- The view has the session's roster, colours, cursors and scrolls. -/
def UpToDate (viewing : Viewing) : Prop :=
  ∀ pid, viewing.view.participants.get? pid =
    (viewing.session.participants.get? pid).map simulated

/-- What holds between two ticks. -/
structure Consistent (viewing : Viewing) : Prop where
  sound : ∀ pid, (viewing.session.slice pid).Sound pid
  pending : ∀ pid, (viewing.session.slice pid).Pending (viewing.view.participants.get? pid)

end Viewing

/-- A participant new to a view is shown as the snapshot has it. -/
theorem upserted_none (participant : Participant) :
    SimulatedParticipant.upserted (toParticipantSnapshot participant) none =
      some (simulated participant) := by
  obtain ⟨pid, color, ⟨cursor, _, scroll, _⟩, _⟩ := participant
  cases cursor <;> cases scroll <;> rfl

/-- A patch entry brings a trailing view of its participant up to date. -/
theorem patched_trails {flags : PresenceDirty} {participant : Participant}
    {shown : SimulatedParticipant} (trails : Trails flags participant shown)
    (flagged : ∀ field : PresenceField, field.marked flags = true →
      (field.ofPresence participant.presence).isSome) (pid : ParticipantId) :
    SimulatedParticipant.patched (toParticipantPatch pid flags participant.presence) (some shown) =
      some (simulated participant) := by
  obtain ⟨cursorFlag, scrollFlag⟩ := flags
  obtain ⟨_, color, ⟨cursor, _, scroll, _⟩, _⟩ := participant
  obtain ⟨shownColor, x, y, scrollX, scrollY⟩ := shown
  obtain ⟨hc, same⟩ := trails
  have sameCursor := same .cursor
  have sameScroll := same .scroll
  have hasCursor := flagged .cursor
  have hasScroll := flagged .scroll
  cases cursorFlag <;> cases scrollFlag <;> cases cursor <;> cases scroll <;>
    simp_all [PresenceField.Same, PresenceField.marked, PresenceField.ofPresence, simulated,
      toParticipantPatch, SimulatedParticipant.patched, SimulatedParticipant.moveCursor,
      SimulatedParticipant.moveScroll]

/-- A welcome seeds the view with the session as it is. -/
theorem welcome_get? {session : Session} (sound : ∀ pid, (session.slice pid).Sound pid)
    (pid : ParticipantId) :
    ((toParticipantSnapshots session).foldl upsert JsMap.empty).get? pid =
      (session.participants.get? pid).map simulated := by
  have pids : (toParticipantSnapshots session).map ParticipantSnapshot.pid =
      session.participants.keys := by
    rw [toParticipantSnapshots, List.map_map]
    exact JsMap.values_map_eq_keys fun key participant h => (sound key).keyed participant h
  obtain ⟨inside, outside⟩ := foldl_own_key JsMap.get? upsert_get?
    (pids ▸ session.participants.nodup_keys) JsMap.empty
  cases hp : session.participants.get? pid with
  | none =>
      apply outside
      rw [pids]
      exact JsMap.get?_eq_none_iff.mp hp
  | some participant =>
      have listed : toParticipantSnapshot participant ∈ toParticipantSnapshots session :=
        List.mem_map_of_mem (JsMap.mem_values_iff.mpr ⟨pid, hp⟩)
      have seeded := inside _ listed
      have own : (toParticipantSnapshot participant).pid = pid := (sound pid).keyed participant hp
      rw [own, JsMap.get?_empty, upserted_none] at seeded
      exact seeded

/-- A patch brings every trailing entry up to date. -/
theorem patch_get? {session : Session} {participants : JsMap ParticipantId SimulatedParticipant}
    (sound : ∀ pid, (session.slice pid).Sound pid)
    (pending : ∀ pid, (session.slice pid).Pending (participants.get? pid))
    {seq now : Int} {patch : PatchMessage} (h : toPatch session seq now = some patch)
    (pid : ParticipantId) :
    (patch.patches.foldl applyPatch participants).get? pid =
      (session.participants.get? pid).map simulated := by
  obtain ⟨inside, outside⟩ :=
    foldl_own_key JsMap.get? applyPatch_get? (toPatch_nodup h) participants
  cases hd : session.dirty.get? pid with
  | none =>
      have unlisted : pid ∉ patch.patches.map ParticipantPatch.pid := by
        intro hm
        obtain ⟨entry, he, rfl⟩ := List.mem_map.mp hm
        obtain ⟨flags, participant, hf, _⟩ := (mem_toPatch h).mp he
        rw [hd] at hf
        cases hf
      rw [outside pid unlisted]
      exact (pending pid).of_clean hd
  | some flags =>
      cases hp : session.participants.get? pid with
      | none =>
          have clean := (sound pid).absent hp
          rw [Session.slice, hd] at clean
          cases clean
      | some participant =>
          have listed : toParticipantPatch pid flags participant.presence ∈ patch.patches :=
            (mem_toPatch h).mpr ⟨flags, participant, hd, hp, rfl⟩
          have flagsOf : (session.slice pid).dirty.getD {} = flags := by
            rw [Session.slice, hd, Option.getD_some]
          have flagged := (sound pid).flagged participant hp
          rw [flagsOf] at flagged
          have shownNow := pending pid
          rw [Slice.Pending, flagsOf, Session.slice, hp] at shownNow
          generalize hs : participants.get? pid = shown at shownNow
          cases shownNow with
          | some trails =>
              have brought := inside _ listed
              dsimp only [toParticipantPatch] at brought
              rw [hs] at brought
              rw [brought]
              exact patched_trails trails flagged pid

namespace Viewing

variable {viewer : ParticipantId} {viewing : Viewing}

/-- An event reaches the slice of its own participant. -/
theorem step_slice (timed : Int × SessionEvent) (pid : ParticipantId) :
    (step viewer viewing timed).session.slice pid =
      if pid = timed.2.pid then (viewing.session.slice pid).act timed.2
      else viewing.session.slice pid :=
  applyEvent_slice viewing.session timed.2 pid

/-- Every event leaves every slice sound. -/
theorem Consistent.step_sound (consistent : viewing.Consistent) (timed : Int × SessionEvent)
    (pid : ParticipantId) : ((step viewer viewing timed).session.slice pid).Sound pid := by
  rw [step_slice]
  split
  · next own => exact (consistent.sound pid).act own.symm
  · exact consistent.sound pid

/-- An event nobody is told of leaves the view as it is. -/
theorem Consistent.step_silent (consistent : viewing.Consistent) {timed : Int × SessionEvent}
    (silent : announcements viewer timed.1 viewing.session timed.2 = [])
    (own : ((viewing.session.slice timed.2.pid).act timed.2).Pending
      (viewing.view.participants.get? timed.2.pid)) :
    (step viewer viewing timed).Consistent where
  sound := consistent.step_sound timed
  pending := by
    intro pid
    rw [step_slice, step, silent]
    show Slice.Pending _ (viewing.view.participants.get? pid)
    split
    · next h =>
        rw [h]
        exact own
    · exact consistent.pending pid

/-- A hello is told of by a join if it is a newcomer's. -/
theorem Consistent.step_hello (consistent : viewing.Consistent) (now : Int) (msg : HelloMessage) :
    (step viewer viewing (now, .hello msg)).Consistent := by
  by_cases ours : msg.pid = viewer
  · have told : announcements viewer now viewing.session (.hello msg) =
        [.welcome (toWelcome (applyEvent viewing.session (.hello msg)).state viewer 0 now)] :=
      if_pos ours
    have sound : ∀ pid,
        ((step viewer viewing (now, .hello msg)).session.slice pid).Sound pid :=
      consistent.step_sound (now, .hello msg)
    refine ⟨sound, ?_⟩
    intro pid
    have seeded := welcome_get? sound pid
    rw [step] at seeded ⊢
    rw [told]
    show Slice.Pending _ (((toParticipantSnapshots _).foldl upsert JsMap.empty).get? pid)
    rw [seeded]
    exact Slice.pending_simulated _
  · cases hp : viewing.session.participants.get? msg.pid with
    | some participant =>
        apply consistent.step_silent
        · have present : viewing.session.participants.has msg.pid :=
            JsMap.has_eq_true_iff.mpr ⟨participant, hp⟩
          simp [announcements, ours, present]
        · exact (consistent.pending msg.pid).hello hp msg
    | none =>
        have next : (applyEvent viewing.session (.hello msg)).state.participants.get? msg.pid =
            some (helloed msg none) := by
          rw [applyEvent_hello_get?, if_pos rfl, hp]
        have told : announcements viewer now viewing.session (.hello msg) =
            [joinMessage viewing.session.sid (helloed msg none) now] := by
          simp [announcements, ours, next, JsMap.has, hp]
        refine ⟨consistent.step_sound (now, .hello msg), ?_⟩
        intro pid
        rw [step_slice, step, told]
        show Slice.Pending _ ((upsert viewing.view.participants _).get? pid)
        rw [upsert_get?]
        show Slice.Pending (if pid = msg.pid then _ else _) (if pid = msg.pid then _ else _)
        by_cases h : pid = msg.pid
        · subst h
          have shown : viewing.view.participants.get? msg.pid = none := by
            have pending := consistent.pending msg.pid
            rw [Slice.Pending, Session.slice, hp] at pending
            generalize hs : viewing.view.participants.get? msg.pid = shown at pending
            cases pending
            rfl
          rw [if_pos rfl, if_pos rfl, shown]
          exact Slice.pending_newcomer hp msg
        · rw [if_neg h, if_neg h]
          exact consistent.pending pid

/-- A goodbye of somebody else is told of by a leave. -/
theorem Consistent.step_bye (consistent : viewing.Consistent) (now : Int) {msg : ByeMessage}
    (another : msg.pid ≠ viewer) : (step viewer viewing (now, .bye msg)).Consistent := by
  by_cases present : viewing.session.participants.has msg.pid
  · have told : announcements viewer now viewing.session (.bye msg) =
        [leaveMessage viewing.session.sid msg.pid now] := if_pos ⟨another, present⟩
    refine ⟨consistent.step_sound (now, .bye msg), ?_⟩
    intro pid
    rw [step_slice, step, told]
    show Slice.Pending (if pid = msg.pid then _ else _)
      ((viewing.view.participants.delete msg.pid).get? pid)
    rw [JsMap.get?_delete]
    by_cases h : pid = msg.pid
    · subst h
      rw [if_pos rfl, if_pos rfl, Slice.act]
      show Slice.Pending (if viewing.session.participants.has msg.pid then _ else _) none
      rw [if_pos present]
      exact .none
    · rw [if_neg h, if_neg h]
      exact consistent.pending pid
  · apply consistent.step_silent
    · simp [announcements, present]
    · show Slice.Pending (if viewing.session.participants.has msg.pid then _ else _) _
      rw [if_neg present]
      exact consistent.pending msg.pid

/-- Every call of the reducer keeps the view consistent with the session. -/
theorem Consistent.step (consistent : viewing.Consistent) {timed : Int × SessionEvent}
    (stays : ∀ msg, timed.2 = .bye msg → msg.pid ≠ viewer) :
    (step viewer viewing timed).Consistent := by
  obtain ⟨now, event⟩ := timed
  cases event with
  | hello msg => exact consistent.step_hello now msg
  | cursor msg =>
      have written := Slice.writes_write .cursor (msg.x, msg.y) msg.seq
      exact consistent.step_silent rfl ((consistent.pending msg.pid).write written)
  | scroll msg =>
      have written := Slice.writes_write .scroll (msg.scrollX, msg.scrollY) msg.seq
      exact consistent.step_silent rfl ((consistent.pending msg.pid).write written)
  | bye msg => exact consistent.step_bye now (stays msg rfl)

/-- The viewer stays consistent over every run it does not leave in. -/
theorem Consistent.run (consistent : viewing.Consistent) {events : List (Int × SessionEvent)}
    (stays : ∀ timed ∈ events, ∀ msg, timed.2 = .bye msg → msg.pid ≠ viewer) :
    (run viewer viewing events).Consistent := by
  induction events generalizing viewing with
  | nil => exact consistent
  | cons timed events ih =>
      exact ih (consistent.step (stays timed List.mem_cons_self))
        fun later h => stays later (List.mem_cons_of_mem _ h)

/-- Announcements are no patches and move no number. -/
theorem deliver_announcement_lastPatchSeq {now : Int} {session : Session} {event : SessionEvent}
    {message : OutboundMessage} (told : message ∈ announcements viewer now session event)
    (view : ParticipantView) : (view.deliver message).lastPatchSeq = view.lastPatchSeq := by
  cases message with
  | patch patch =>
      cases event with
      | hello msg =>
          simp only [announcements] at told
          split at told
          · simp at told
          · split at told
            · simp at told
            · simp [joinMessage] at told
      | cursor => cases told
      | scroll => cases told
      | bye msg =>
          simp only [announcements] at told
          split at told
          · simp [leaveMessage] at told
          · simp at told
  | _ => rfl

/-- Announcements leave the guard on patches as it was. -/
theorem run_lastPatchSeq (viewing : Viewing) (events : List (Int × SessionEvent)) :
    (run viewer viewing events).view.lastPatchSeq = viewing.view.lastPatchSeq := by
  apply Transition.invariant_run
    (P := fun later : Viewing => later.view.lastPatchSeq = viewing.view.lastPatchSeq)
  · intro later timed h
    rw [← h]
    apply List.foldlRecOn (motive := fun view : ParticipantView =>
      view.lastPatchSeq = later.view.lastPatchSeq) _ _ rfl
    intro view hv message told
    rw [deliver_announcement_lastPatchSeq told, hv]
  · rfl

/-- One flush brings a consistent viewer up to date. -/
theorem Consistent.flush_upToDate (consistent : viewing.Consistent) {seq now : Int}
    (fresh : viewing.view.Fresh seq) : (viewing.flush seq now).UpToDate := by
  intro pid
  rw [flush, clearDirty_participants]
  cases h : toPatch viewing.session seq now with
  | none =>
      have clean : viewing.session.dirty.get? pid = none := by
        by_contra dirty
        have gone := toPatch_eq_none_iff.mp h pid (Option.isSome_iff_ne_none.mpr dirty)
        exact dirty ((consistent.sound pid).absent gone)
      exact (consistent.pending pid).of_clean clean
  | some patch =>
      have isFresh : viewing.view.Fresh patch.seq := by
        rw [(toPatch_envelope h).2.1]
        exact fresh
      show (viewing.view.deliver (.patch patch)).participants.get? pid = _
      rw [ParticipantView.deliver, if_pos isFresh]
      exact patch_get? consistent.sound consistent.pending h pid

end Viewing

/-- The participants of a session are stored under their own ids. -/
def Session.Keyed (session : Session) : Prop :=
  ∀ pid participant, session.participants.get? pid = some participant → participant.pid = pid

/-- Coalescing loses nothing: after any events between two ticks, the roster
announcements and one fresh patch bring the viewer up to date again. -/
theorem flush_after_run_upToDate (viewer : ParticipantId) (viewing : Viewing)
    (keyed : viewing.session.Keyed) (upToDate : viewing.UpToDate)
    (clean : viewing.session.dirty.size = 0) (events : List (Int × SessionEvent))
    (stays : ∀ timed ∈ events, ∀ msg, timed.2 = .bye msg → msg.pid ≠ viewer)
    (seq now : Int) (fresh : viewing.view.Fresh seq) :
    ((viewing.run viewer events).flush seq now).UpToDate ∧
      ((viewing.run viewer events).flush seq now).session.dirty.size = 0 := by
  have none_dirty := JsMap.size_eq_zero_iff.mp clean
  have consistent : viewing.Consistent := by
    constructor
    · intro pid
      refine ⟨keyed pid, fun _ => none_dirty pid, ?_⟩
      intro participant _ field flagged
      rw [Session.slice, none_dirty] at flagged
      cases field <;> cases flagged
    · intro pid
      rw [upToDate pid]
      exact Slice.pending_simulated _
  constructor
  · apply (consistent.run stays).flush_upToDate
    rw [ParticipantView.Fresh, Viewing.run_lastPatchSeq]
    exact fresh
  · exact JsMap.size_eq_zero_iff.mpr fun pid => clearDirty_get? _ pid

open Scenario

/-- A viewer alone in a session. -/
def onlyAlice : Viewing where
  session := (applyEvent (createSession session 0) (helloEvent alice 0)).state
  view := { participants := JsMap.empty.set alice { color := colorForParticipant alice } }

/-- Somebody comes, moves, leaves and comes back, around the viewer's own moves. -/
def comings : List (Int × SessionEvent) :=
  [(1, helloEvent bob 1), (2, cursorEvent bob 1 1 5), (3, cursorEvent alice 1 0 2),
    (4, byeEvent bob 2), (5, helloEvent bob 5), (6, helloEvent alice 6), (7, scrollEvent bob 1 0 9)]

theorem flush_after_comings :
    ((onlyAlice.run alice comings).flush 1 50).UpToDate ∧
      ((onlyAlice.run alice comings).flush 1 50).session.dirty.size = 0 := by
  apply flush_after_run_upToDate
  · intro pid participant h
    rw [onlyAlice, helloEvent, applyEvent_hello_get?] at h
    split at h
    · next own =>
        rw [own, ← Option.some.inj h]
        rfl
    · cases h
  · intro pid
    rw [onlyAlice, helloEvent, applyEvent_hello_get?, JsMap.get?_set]
    show (if pid = alice then _ else _) = Option.map simulated (if pid = alice then _ else _)
    split
    · rfl
    · rfl
  · decide
  · simp [comings, helloEvent, cursorEvent, scrollEvent, byeEvent, envelope, alice, bob]
  · simp [onlyAlice, ParticipantView.Fresh]

end Copresence
