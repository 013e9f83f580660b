import Copresence.Client.Drawing
import Copresence.Client.Reordering

/-! What is on the screen after a frame: one element for each participant on the
roster that sent a position and was heard of in time, and nothing else. -/
namespace Copresence

open Collections Floating Transition

section Places

open Drawing

/-- The finite numbers are those of the format. -/
theorem isFinite_iff {f : Format} {x : Number f} : x.isFinite = true ↔ ∃ y, x = .finite y := by
  cases x <;> simp [Number.isFinite]

/-- A clamped value is a number between zero and one, whatever it was before. -/
theorem exists_clamp01 (value : Number binary64) :
    ∃ c : binary64.Finite, Drawing.clamp01 value = .finite c ∧ 0 ≤ c.value ∧ c.value ≤ 1 := by
  obtain ⟨zero, hzero, isZero⟩ := exists_ofRat_natCast (n := 0) (by decide)
  obtain ⟨one, hone, isOne⟩ := exists_ofRat_natCast (n := 1) (by decide)
  push_cast at hzero hone isZero isOne
  rw [Drawing.clamp01, hzero, hone]
  split
  · next isFinite =>
      obtain ⟨x, rfl⟩ := isFinite_iff.mp isFinite
      rw [Number.max_finite]
      split
      · next positive =>
          rw [Number.min_finite]
          split
          · exact ⟨x, rfl, by linarith, by linarith⟩
          · exact ⟨one, rfl, by linarith, by linarith⟩
      · rw [Number.min_finite]
        split
        · exact ⟨zero, rfl, by linarith, by linarith⟩
        · exact ⟨one, rfl, by linarith, by linarith⟩
  · exact ⟨zero, rfl, by linarith, by linarith⟩

/-- A difference that is no finite number is replaced by one that is. -/
theorem exists_finiteDifferenceOr (a b : Number binary64) (fallback : binary64.Finite) :
    ∃ y, finiteDifferenceOr a b (.finite fallback) = .finite y := by
  rw [finiteDifferenceOr]
  split
  · next isFinite => exact isFinite_iff.mp isFinite
  · exact ⟨fallback, rfl⟩

/-- A place on the screen: finite, and across no further than the document. -/
def OnScreen (reading : ViewportReading) (place : Number binary64 × Number binary64) : Prop :=
  ∃ x y : binary64.Finite, place = (.finite x, .finite y) ∧ 0 ≤ x.value ∧
    (x.value = 0 ∨ (Number.finite x).le reading.docWidth = true)

/-- Whatever the points and the window are. -/
theorem onScreen_toViewportSpace (documentPoint : Number binary64 × Number binary64)
    (reading : ViewportReading) :
    OnScreen reading (toViewportSpace documentPoint reading.docWidth reading.scrollY) := by
  obtain ⟨zero, hzero, isZero⟩ := exists_ofRat_natCast (n := 0) (by decide)
  push_cast at hzero isZero
  obtain ⟨c, hc, nonneg, atMost⟩ := exists_clamp01 documentPoint.1
  obtain ⟨y, hy⟩ := exists_finiteDifferenceOr documentPoint.2 reading.scrollY zero
  rw [toViewportSpace, hzero, hc, hy]
  split
  · next wide =>
      rw [Bool.and_eq_true] at wide
      obtain ⟨width, hw⟩ := isFinite_iff.mp wide.1
      rw [hw] at wide
      have positive : 0 < width.value := by simpa [isZero] using wide.2
      have part : c.value * width.value ≤ width.value := by nlinarith
      obtain ⟨x, rounded, isNearest⟩ :=
        Number.exists_ofRat_of_le width (mul_nonneg nonneg positive.le) part
      rw [hw, Number.finite_mul, rounded]
      refine ⟨x, y, rfl, ?_, ?_⟩
      · rw [isNearest]
        exact Format.nearest_nonneg (mul_nonneg nonneg positive.le)
      · right
        rw [hw, Number.le_finite, isNearest]
        exact decide_eq_true (Format.nearest_le width.representable part)
  · rw [Number.finite_mul, isZero, mul_zero, hzero]
    exact ⟨zero, y, rfl, isZero.ge, .inl isZero⟩

end Places

namespace DrawnPage

/-- What a frame makes of the element of one remote participant. -/
def turned (reducedMotion : Bool) (now : Int) (reading : ViewportReading)
    (entry : ParticipantId × RemoteParticipant) (old : Option CursorElement) :
    Option CursorElement :=
  if stalenessOf entry.2.lastSeenAt now = .expired then none
  else
    let moved :=
      match entry.2.cursorLatest with
      | none => old
      | some latest =>
        let element := old.getD { color := entry.2.color }
        some { element with
          transform := some (place reducedMotion now reading entry.2.cursorPrev latest) }
    moved.map fun element =>
      { element with opacity := some (opacityFor (stalenessOf entry.2.lastSeenAt now)) }

/-- Setting an opacity touches one element, if it is there. -/
theorem get?_setOpacity (layer : CursorLayer) (pid other : ParticipantId)
    (opacity : Number binary64) :
    (layer.setOpacity pid opacity).elements.get? other =
      if other = pid then (layer.elements.get? other).map ({ · with opacity := some opacity })
      else layer.elements.get? other := by
  rw [CursorLayer.setOpacity]
  cases found : layer.elements.get? pid with
  | none =>
      dsimp only
      split
      · next same => rw [same, found, Option.map_none]
      · rfl
  | some entry =>
      dsimp only
      rw [JsMap.get?_set]
      split
      · next same => rw [same, found, Option.map_some]
      · rfl

/-- Rendering somebody touches that element only. -/
theorem get?_renderRemote (reducedMotion : Bool) (now : Int) (reading : ViewportReading)
    (page : DrawnPage) (entry : ParticipantId × RemoteParticipant) (pid : ParticipantId) :
    (page.renderRemote reducedMotion now reading entry).layer.elements.get? pid =
      if pid = entry.1 then turned reducedMotion now reading entry (page.layer.elements.get? pid)
      else page.layer.elements.get? pid := by
  rw [renderRemote, turned]
  dsimp only
  split
  · exact JsMap.get?_delete _ _ _
  · dsimp only
    rw [get?_setOpacity]
    split
    · next own =>
        subst own
        cases entry.2.cursorLatest with
        | none => rfl
        | some latest =>
            dsimp only
            rw [CursorLayer.upsert, JsMap.get?_set, if_pos rfl]
            rfl
    · next other =>
        cases entry.2.cursorLatest with
        | none => rfl
        | some latest =>
            dsimp only
            rw [CursorLayer.upsert, JsMap.get?_set, if_neg other]

/-- The frame acts on each element by itself. -/
theorem get?_renderFrame (now : Int) (reading : ViewportReading) (page : DrawnPage)
    (pid : ParticipantId) :
    (page.renderFrame now reading).layer.elements.get? pid =
      match page.hosted.client.remotes.get? pid with
      | none => page.layer.elements.get? pid
      | some participant =>
        turned page.reducedMotion now reading (pid, participant) (page.layer.elements.get? pid) := by
  have each := foldl_own_key (fun page pid => page.layer.elements.get? pid)
    (get?_renderRemote page.reducedMotion now reading) page.hosted.client.remotes.nodup page
  cases found : page.hosted.client.remotes.get? pid with
  | none =>
      apply each.2
      exact JsMap.get?_eq_none_iff.mp found
  | some participant => exact each.1 _ (JsMap.get?_eq_some_iff.mp found)

/-- To the roster, rendering somebody is forgetting an expired one. -/
theorem renderRemote_client (reducedMotion : Bool) (now : Int) (reading : ViewportReading)
    (page : DrawnPage) (entry : ParticipantId × RemoteParticipant) :
    (page.renderRemote reducedMotion now reading entry).hosted.client =
      page.hosted.client.expire now entry := by
  rw [renderRemote, Client.expire]
  dsimp only
  split <;> rfl

/-- To the roster, a frame is forgetting the expired. -/
theorem renderFrame_client (now : Int) (reading : ViewportReading) (page : DrawnPage) :
    (page.renderFrame now reading).hosted.client = page.hosted.client.forgetExpired now :=
  run_map (f := fun page => page.hosted.client) (renderRemote_client page.reducedMotion now reading)
    page _

/-- The sweep, too, forgets somebody who has expired. -/
theorem sweepRemote_client (now : Int) (page : DrawnPage)
    (entry : ParticipantId × RemoteParticipant) :
    (page.sweepRemote now entry).hosted.client = page.hosted.client.expire now entry := by
  rw [sweepRemote, Client.expire]
  by_cases expired : stalenessOf entry.2.lastSeenAt now = .expired
  · rw [if_neg (not_not.mpr expired), if_pos expired]
  · rw [if_pos expired, if_neg expired]

/-- After a sweep the expired are forgotten and all others kept. -/
theorem staleSweep_client (now : Int) (page : DrawnPage) :
    (page.staleSweep now).hosted.client = page.hosted.client.forgetExpired now :=
  run_map (f := fun page => page.hosted.client) (sweepRemote_client now) page _

/-- What a sweep makes of the element of one remote participant. -/
def swept (now : Int) (entry : ParticipantId × RemoteParticipant) (old : Option CursorElement) :
    Option CursorElement :=
  if stalenessOf entry.2.lastSeenAt now = .expired then none else old

/-- Sweeping somebody touches that element only. -/
theorem get?_sweepRemote (now : Int) (page : DrawnPage)
    (entry : ParticipantId × RemoteParticipant) (pid : ParticipantId) :
    (page.sweepRemote now entry).layer.elements.get? pid =
      if pid = entry.1 then swept now entry (page.layer.elements.get? pid)
      else page.layer.elements.get? pid := by
  rw [sweepRemote, swept]
  by_cases expired : stalenessOf entry.2.lastSeenAt now = .expired
  · rw [if_neg (not_not.mpr expired), if_pos expired]
    exact JsMap.get?_delete _ _ _
  · rw [if_pos expired, if_neg expired, ite_self]

/-- A sweep takes each element by its own participant. -/
theorem get?_staleSweep (now : Int) (page : DrawnPage) (pid : ParticipantId) :
    (page.staleSweep now).layer.elements.get? pid =
      match page.hosted.client.remotes.get? pid with
      | none => page.layer.elements.get? pid
      | some participant => swept now (pid, participant) (page.layer.elements.get? pid) := by
  have each := foldl_own_key (fun page pid => page.layer.elements.get? pid)
    (get?_sweepRemote now) page.hosted.client.remotes.nodup page
  cases found : page.hosted.client.remotes.get? pid with
  | none =>
      apply each.2
      exact JsMap.get?_eq_none_iff.mp found
  | some participant => exact each.1 _ (JsMap.get?_eq_some_iff.mp found)

end DrawnPage

namespace Picture

open Client (Shown)

variable {pid : ParticipantId}

/-- The picture has a cursor. -/
def Placed (shown : Option Shown) : Prop := PresenceField.cursor.shownOf shown ≠ none

/-- Snapshots take no position back. -/
theorem Placed.foldl_upserted {shown : Option Shown} (placed : Placed shown)
    (participants : List ParticipantSnapshot) :
    Placed (participants.foldl (upserted pid) shown) := by
  induction participants generalizing shown with
  | nil => exact placed
  | cons participant participants ih =>
      apply ih
      rw [Placed, shownOf_upserted, ne_eq, Option.or_eq_none_iff]
      exact fun neither => placed neither.2

/-- Patches take no position back. -/
theorem Placed.foldl_patched {shown : Option Shown} (placed : Placed shown)
    (patches : List ParticipantPatch) : Placed (patches.foldl (patched pid) shown) := by
  rw [Placed, shownOf_foldl_patched, ne_eq, Option.or_eq_none_iff]
  exact fun neither => placed neither.2

/-- Whether a message takes a participant off the page. -/
def TakesOff (pid : ParticipantId) : OutboundMessage → Prop
  | .welcome msg => pid ∉ msg.participants.map ParticipantSnapshot.pid
  | .snapshot msg => pid ∉ msg.participants.map ParticipantSnapshot.pid
  | .leave msg => pid = msg.pid
  | .join _ | .patch _ | .pong _ | .auditAck _ | .error _ => False

/-- A cursor once there stays until its participant is taken off. -/
theorem Placed.see {picture : Picture} (placed : Placed picture.shown) {message : OutboundMessage}
    (stays : ¬ TakesOff pid message) : Placed (picture.see pid message).shown := by
  cases message with
  | welcome msg =>
      rw [Picture.see, seeded, if_pos (not_not.mp stays)]
      exact placed.foldl_upserted _
  | snapshot msg =>
      rw [Picture.see, seeded, if_pos (not_not.mp stays)]
      exact placed.foldl_upserted _
  | join msg => exact placed.foldl_upserted [msg.participant]
  | leave msg =>
      rw [Picture.see, if_neg (by exact stays)]
      exact placed
  | patch msg =>
      rw [Picture.see]
      split
      · exact placed.foldl_patched _
      · exact placed
  | pong | auditAck | error => exact placed

end Picture

namespace Client

/-- The page keeps no remote of its own name. -/
def Selfless (client : Client) : Prop := client.shown client.pid = none

variable {client : Client} (now : Int)

/-- A page does not take itself for a remote in a snapshot. -/
theorem Selfless.upsertRemote (selfless : client.Selfless) (participant : ParticipantSnapshot) :
    (client.upsertRemote now participant).Selfless := by
  rw [Selfless, upsertRemote_pid, upsertRemote_shown, if_neg fun own => own.2 rfl]
  exact selfless

/-- A page does not take itself for a remote in a patch. -/
theorem Selfless.applyPatch (selfless : client.Selfless) (patch : ParticipantPatch) :
    (client.applyPatch now patch).Selfless := by
  rw [Selfless, applyPatch_pid, applyPatch_shown, if_neg fun own => own.2 rfl]
  exact selfless

/-- Forgetting somebody brings nobody in. -/
theorem Selfless.forget (selfless : client.Selfless) (pid : ParticipantId) :
    (client.forget pid).Selfless := by
  rw [Selfless, forget_shown]
  split
  · rfl
  · exact selfless

/-- Seeding the roster leaves the page itself out. -/
theorem Selfless.seedRoster (selfless : client.Selfless) (participants : List ParticipantSnapshot) :
    (client.seedRoster now participants).Selfless := by
  have without := invariant_run (P := Selfless) (fun _ pid before => before.forget pid) selfless
    (client.remotes.keys.filter fun known => known ∉ participants.map ParticipantSnapshot.pid)
  exact invariant_run (P := Selfless) (fun _ participant before => before.upsertRemote now participant)
    without participants

/-- No message puts the page itself on its roster. -/
theorem Selfless.routeMessage (selfless : client.Selfless) (message : OutboundMessage) :
    (client.routeMessage now message).Selfless := by
  cases message with
  | welcome msg => exact selfless.seedRoster now _
  | snapshot msg => exact selfless.seedRoster now _
  | join msg => exact selfless.upsertRemote now _
  | leave msg => exact selfless.forget _
  | patch msg =>
      rw [Client.routeMessage]
      split
      · have noted : ({ client with lastPatchSeq := some msg.seq } : Client).Selfless := selfless
        exact invariant_run (P := Selfless) (fun _ patch before => before.applyPatch now patch)
          noted msg.patches
      · exact selfless
  | pong | auditAck | error => exact selfless

/-- Forgetting the expired does not put the page itself on its roster. -/
theorem Selfless.forgetExpired (selfless : client.Selfless) : (client.forgetExpired now).Selfless := by
  apply invariant_run (P := Selfless) _ selfless
  intro client entry before
  rw [expire]
  split
  · exact before.forget _
  · exact before

end Client

namespace DrawnPage

/-- Whoever has an element is another one, on the roster and with a position. -/
def Anchored (page : DrawnPage) : Prop :=
  ∀ pid, page.layer.elements.get? pid ≠ none → pid ≠ page.hosted.client.pid ∧
    Picture.Placed (page.hosted.client.shown pid)

/-- A welcome removes the elements of those it does not list. -/
theorem get?_removeUnseen (page : DrawnPage) (participants : List ParticipantSnapshot)
    (pid : ParticipantId) :
    (page.removeUnseen participants).elements.get? pid =
      if pid ∈ page.hosted.client.remotes.keys ∧
          pid ∉ participants.map ParticipantSnapshot.pid then none
      else page.layer.elements.get? pid := by
  have elements : ∀ (gone : List ParticipantId) (layer : CursorLayer),
      (gone.foldl (fun layer pid => layer.remove pid) layer).elements =
        gone.foldl JsMap.delete layer.elements :=
    fun gone layer => run_map (f := CursorLayer.elements) (fun _ _ => rfl) layer gone
  rw [removeUnseen, elements, JsMap.get?_foldl_delete]
  simp [List.mem_filter]

/-- To the roster, a drawn page takes a message as any page does. -/
theorem routeMessage_client (page : DrawnPage) (now : Int) (msg : OutboundMessage) :
    (page.routeMessage now msg).hosted.client = page.hosted.client.routeMessage now msg := by
  cases msg with
  | patch msg =>
      show (page.hosted.routeMessage now (.patch msg)).client = _
      rw [Hosted.routeMessage]
      split <;> rfl
  | welcome | snapshot | join | leave | pong | auditAck | error => rfl

/-- An element that a message leaves was there, and its participant is not taken off. -/
theorem stays_of_routeMessage {page : DrawnPage} {now : Int} {msg : OutboundMessage}
    {pid : ParticipantId} (listed : pid ∈ page.hosted.client.remotes.keys)
    (there : (page.routeMessage now msg).layer.elements.get? pid ≠ none) :
    ¬ Picture.TakesOff pid msg := by
  cases msg with
  | welcome msg =>
      intro takenOff
      exact there ((get?_removeUnseen page msg.participants pid).trans (if_pos ⟨listed, takenOff⟩))
  | snapshot msg =>
      intro takenOff
      exact there ((get?_removeUnseen page msg.participants pid).trans (if_pos ⟨listed, takenOff⟩))
  | leave msg =>
      intro takenOff
      apply there
      show (page.layer.remove msg.pid).elements.get? pid = none
      rw [CursorLayer.remove, JsMap.get?_delete, if_pos (show pid = msg.pid from takenOff)]
  | join | patch | pong | auditAck | error => exact id

/-- Messages build no elements. -/
theorem was_of_routeMessage {page : DrawnPage} {now : Int} {msg : OutboundMessage}
    {pid : ParticipantId} (there : (page.routeMessage now msg).layer.elements.get? pid ≠ none) :
    page.layer.elements.get? pid ≠ none := by
  have seed : ∀ participants, (page.removeUnseen participants).elements.get? pid ≠ none →
      page.layer.elements.get? pid ≠ none := by
    intro participants kept
    rw [get?_removeUnseen] at kept
    split at kept
    · exact absurd rfl kept
    · exact kept
  cases msg with
  | welcome msg => exact seed _ there
  | snapshot msg => exact seed _ there
  | leave msg =>
      have kept : (page.layer.remove msg.pid).elements.get? pid ≠ none := there
      rw [CursorLayer.remove, JsMap.get?_delete] at kept
      split at kept
      · exact absurd rfl kept
      · exact kept
  | join | patch | pong | auditAck | error => exact there

/-- Whoever has a cursor is on the roster. -/
theorem exists_of_placed {client : Client} {pid : ParticipantId}
    (placed : Picture.Placed (client.shown pid)) :
    ∃ participant, client.remotes.get? pid = some participant ∧ participant.cursorLatest ≠ none := by
  cases found : client.remotes.get? pid with
  | none =>
      rw [Client.shown, found] at placed
      exact absurd rfl placed
  | some participant =>
      refine ⟨participant, rfl, ?_⟩
      intro unplaced
      rw [Client.shown, found] at placed
      simp [Picture.Placed, PresenceField.shownOf, PresenceField.ofShown,
        Client.RemoteParticipant.shown, unplaced] at placed

/-- Whoever is on the roster with a position is shown with one. -/
theorem placed_of_get? {client : Client} {pid : ParticipantId} {participant : RemoteParticipant}
    (found : client.remotes.get? pid = some participant)
    (placed : participant.cursorLatest ≠ none) : Picture.Placed (client.shown pid) := by
  rw [Client.shown, found]
  simpa [Picture.Placed, PresenceField.shownOf, PresenceField.ofShown,
    Client.RemoteParticipant.shown]
    using placed

/-- After a message every element still belongs to somebody placed. -/
theorem Anchored.routeMessage {page : DrawnPage} (anchored : page.Anchored) (now : Int)
    (msg : OutboundMessage) : (page.routeMessage now msg).Anchored := by
  intro pid there
  obtain ⟨other, placed⟩ := anchored pid (was_of_routeMessage there)
  obtain ⟨participant, found, _⟩ := exists_of_placed placed
  have stays := stays_of_routeMessage (JsMap.mem_keys_iff.mpr ⟨_, found⟩) there
  rw [routeMessage_client, Client.routeMessage_pid]
  refine ⟨other, ?_⟩
  have moved := congrArg Picture.shown (page.hosted.client.routeMessage_picture now other msg)
  rw [show (page.hosted.client.routeMessage now msg).shown pid = _ from moved]
  exact Picture.Placed.see placed stays

/-- Whoever expired is off the roster, everyone else stays as they were. -/
theorem placed_forgetExpired {client : Client} {now : Int} {pid : ParticipantId}
    {participant : RemoteParticipant} (found : client.remotes.get? pid = some participant)
    (placed : participant.cursorLatest ≠ none)
    (heard : stalenessOf participant.lastSeenAt now ≠ .expired) :
    Picture.Placed ((client.forgetExpired now).shown pid) := by
  apply placed_of_get? _ placed
  rw [Client.get?_forgetExpired, found, Option.filter_some, if_pos (decide_eq_true heard)]

/-- After a frame every element belongs to somebody placed: the expired have lost theirs. -/
theorem Anchored.renderFrame {page : DrawnPage} (anchored : page.Anchored)
    (selfless : page.hosted.client.Selfless) (now : Int) (reading : ViewportReading) :
    (page.renderFrame now reading).Anchored := by
  intro pid there
  rw [get?_renderFrame] at there
  rw [renderFrame_client, Client.forgetExpired_pid]
  cases found : page.hosted.client.remotes.get? pid with
  | none =>
      rw [found] at there
      obtain ⟨participant, listed, _⟩ := exists_of_placed (anchored pid there).2
      rw [found] at listed
      cases listed
  | some participant =>
      rw [found] at there
      dsimp only at there
      rw [turned] at there
      split at there
      · exact absurd rfl there
      · next heard =>
          constructor
          · rintro rfl
            rw [Client.Selfless, Client.shown, found] at selfless
            cases selfless
          · apply placed_forgetExpired found _ heard
            intro unplaced
            simp only [unplaced, ne_eq, Option.map_eq_none_iff] at there
            obtain ⟨same, listed, placed⟩ := exists_of_placed (anchored pid there).2
            rw [found] at listed
            rw [← Option.some.inj listed] at placed
            exact placed unplaced

/-- After a sweep every element still belongs to somebody placed. -/
theorem Anchored.staleSweep {page : DrawnPage} (anchored : page.Anchored) (now : Int) :
    (page.staleSweep now).Anchored := by
  intro pid there
  rw [get?_staleSweep] at there
  rw [staleSweep_client, Client.forgetExpired_pid]
  cases found : page.hosted.client.remotes.get? pid with
  | none =>
      rw [found] at there
      obtain ⟨participant, listed, _⟩ := exists_of_placed (anchored pid there).2
      rw [found] at listed
      cases listed
  | some participant =>
      rw [found] at there
      dsimp only at there
      rw [swept] at there
      split at there
      · exact absurd rfl there
      · next heard =>
          obtain ⟨other, placed⟩ := anchored pid there
          obtain ⟨same, listed, hasCursor⟩ := exists_of_placed placed
          rw [found] at listed
          rw [← Option.some.inj listed] at hasCursor
          exact ⟨other, placed_forgetExpired found hasCursor heard⟩

/-- A frame reads the setting and does not write it. -/
theorem renderFrame_reducedMotion (now : Int) (reading : ViewportReading) (page : DrawnPage) :
    (page.renderFrame now reading).reducedMotion = page.reducedMotion := by
  apply invariant_run (P := fun other : DrawnPage => other.reducedMotion = page.reducedMotion) _ rfl
  intro other entry same
  rw [renderRemote]
  dsimp only
  split
  · exact same
  · exact same

theorem staleSweep_reducedMotion (now : Int) (page : DrawnPage) :
    (page.staleSweep now).reducedMotion = page.reducedMotion := by
  apply invariant_run (P := fun other : DrawnPage => other.reducedMotion = page.reducedMotion) _ rfl
  intro other entry same
  rw [sweepRemote]
  split
  · exact same
  · exact same

/-- A page's settings stay as they were read. -/
theorem step_settings (page : DrawnPage) (stamped : Int × DrawnEvent) :
    (page.step stamped).reducedMotion = page.reducedMotion ∧
      (page.step stamped).hosted.client.pid = page.hosted.client.pid := by
  rw [DrawnPage.step]
  cases stamped.2 with
  | message msg =>
      constructor
      · rfl
      · dsimp only
        rw [routeMessage_client, Client.routeMessage_pid]
  | renderFrame reading =>
      constructor
      · exact renderFrame_reducedMotion _ _ _
      · dsimp only
        rw [renderFrame_client, Client.forgetExpired_pid]
  | staleSweep =>
      constructor
      · exact staleSweep_reducedMotion _ _
      · dsimp only
        rw [staleSweep_client, Client.forgetExpired_pid]

/-- What holds of a page at any time. -/
structure Kept (page : DrawnPage) : Prop where
  selfless : page.hosted.client.Selfless
  anchored : page.Anchored

/-- Every step keeps the elements to those on the roster with a position. -/
theorem Kept.step {page : DrawnPage} (kept : page.Kept) (stamped : Int × DrawnEvent) :
    (page.step stamped).Kept := by
  rw [DrawnPage.step]
  cases stamped.2 with
  | message msg =>
      constructor
      · dsimp only
        rw [routeMessage_client]
        exact kept.selfless.routeMessage _ msg
      · exact kept.anchored.routeMessage _ msg
  | renderFrame reading =>
      constructor
      · dsimp only
        rw [renderFrame_client]
        exact kept.selfless.forgetExpired _
      · exact kept.anchored.renderFrame kept.selfless _ reading
  | staleSweep =>
      constructor
      · dsimp only
        rw [staleSweep_client]
        exact kept.selfless.forgetExpired _
      · exact kept.anchored.staleSweep _

/-- A page before anything arrives. -/
def initial (pid : ParticipantId) (reducedMotion : Bool) : DrawnPage where
  hosted := { client := { pid } }
  reducedMotion

/-- Every run keeps the elements to those on the roster with a position. -/
theorem kept_run (pid : ParticipantId) (reducedMotion : Bool) (events : List (Int × DrawnEvent)) :
    (run step (initial pid reducedMotion) events).Kept := by
  apply invariant_run (fun _ stamped kept => kept.step stamped)
  constructor
  · rfl
  · intro pid there
    exact absurd rfl there

/-- Neither the setting nor the page's own id changes in a run. -/
theorem run_settings (pid : ParticipantId) (reducedMotion : Bool)
    (events : List (Int × DrawnEvent)) :
    (run step (initial pid reducedMotion) events).reducedMotion = reducedMotion ∧
      (run step (initial pid reducedMotion) events).hosted.client.pid = pid := by
  apply invariant_run (P := fun page : DrawnPage =>
    page.reducedMotion = reducedMotion ∧ page.hosted.client.pid = pid) _ ⟨rfl, rfl⟩
  intro page stamped same
  have kept := step_settings page stamped
  rw [kept.1, kept.2]
  exact same

/-- The element a frame leaves of a participant on the roster, from the one before:
its colour is the one it was built with. -/
def drawing (reducedMotion : Bool) (now : Int) (reading : ViewportReading)
    (old : Option CursorElement) (participant : RemoteParticipant) : Option CursorElement :=
  participant.cursorLatest.map fun latest =>
    { color := (old.map CursorElement.color).getD participant.color
      label := (old.map CursorElement.label).getD ""
      transform := some (place reducedMotion now reading participant.cursorPrev latest)
      opacity := some
        (if now - participant.lastSeenAt < cursorStaleMs then .ofRat 1 else .ofRat (2 / 5)) }

/-- Somebody heard of in time is drawn full, or faint after a while. -/
theorem opacityFor_heard {lastSeenAt now : Int} (heard : stalenessOf lastSeenAt now ≠ .expired) :
    opacityFor (stalenessOf lastSeenAt now) =
      if now - lastSeenAt < cursorStaleMs then .ofRat 1 else .ofRat (2 / 5) := by
  rw [stalenessOf] at heard ⊢
  by_cases old : now - lastSeenAt ≥ cursorRemoveMs
  · rw [if_pos old] at heard
    exact absurd rfl heard
  · rw [if_neg old]
    by_cases stale : now - lastSeenAt ≥ cursorStaleMs
    · rw [if_pos stale, if_neg (not_lt.mpr stale)]
      rfl
    · rw [if_neg stale, if_pos (not_le.mp stale)]
      rfl

/-- Of a participant still heard of, a frame leaves what it draws. -/
theorem turned_eq_drawing {page : DrawnPage} (anchored : page.Anchored) {now : Int}
    {reading : ViewportReading} {pid : ParticipantId} {participant : RemoteParticipant}
    (found : page.hosted.client.remotes.get? pid = some participant)
    (heard : stalenessOf participant.lastSeenAt now ≠ .expired) :
    turned page.reducedMotion now reading (pid, participant) (page.layer.elements.get? pid) =
      drawing page.reducedMotion now reading (page.layer.elements.get? pid) participant := by
  rw [turned, drawing, if_neg heard, opacityFor_heard heard]
  cases placed : participant.cursorLatest with
  | none =>
      cases there : page.layer.elements.get? pid with
      | none => rfl
      | some element =>
          obtain ⟨same, listed, hasCursor⟩ :=
            exists_of_placed (anchored pid (by simp [there])).2
          rw [found] at listed
          rw [← Option.some.inj listed] at hasCursor
          exact absurd placed hasCursor
  | some latest => cases page.layer.elements.get? pid <;> rfl

/-- After a frame in any run the elements are those of the participants on the
roster that have sent a position, who were all heard of within ten seconds; none
is the page's own. Each is on the screen, where the clock has it, in the colour it
was built with, and fades after two seconds. -/
theorem frames_draw_remotes (pid other : ParticipantId) (reducedMotion : Bool)
    (events : List (Int × DrawnEvent)) (now : Int) (reading : ViewportReading) :
    let before := run step (initial pid reducedMotion) events
    let after := before.renderFrame now reading
    after.layer.elements.get? other =
        (after.hosted.client.remotes.get? other).bind
          (drawing reducedMotion now reading (before.layer.elements.get? other)) ∧
      (∀ participant, after.hosted.client.remotes.get? other = some participant →
        now - participant.lastSeenAt < cursorRemoveMs) ∧
      ∀ element, after.layer.elements.get? other = some element →
        other ≠ pid ∧ ∃ place, element.transform = some place ∧ OnScreen reading place := by
  intro before after
  have kept : before.Kept := kept_run pid reducedMotion events
  obtain ⟨motion, own⟩ := run_settings pid reducedMotion events
  have roster : after.hosted.client.remotes.get? other =
      (before.hosted.client.remotes.get? other).filter fun participant =>
        stalenessOf participant.lastSeenAt now ≠ .expired := by
    rw [show after.hosted.client = _ from renderFrame_client now reading before,
      Client.get?_forgetExpired]
  have draws : after.layer.elements.get? other =
      (after.hosted.client.remotes.get? other).bind
        (drawing reducedMotion now reading (before.layer.elements.get? other)) := by
    rw [show after.layer.elements.get? other = _ from get?_renderFrame now reading before other,
      roster]
    cases found : before.hosted.client.remotes.get? other with
    | none =>
        cases there : before.layer.elements.get? other with
        | none => rfl
        | some element =>
            obtain ⟨same, listed, _⟩ :=
              exists_of_placed (kept.anchored other (by simp [there])).2
            rw [found] at listed
            cases listed
    | some participant =>
        dsimp only
        rw [Option.filter_some]
        by_cases heard : stalenessOf participant.lastSeenAt now = .expired
        · rw [turned, if_pos heard, if_neg (by simp [heard])]
          rfl
        · rw [if_pos (decide_eq_true heard), turned_eq_drawing kept.anchored found heard]
          rw [show before.reducedMotion = reducedMotion from motion]
          rfl
  refine ⟨draws, ?_, ?_⟩
  · intro participant found
    rw [roster, Option.filter_eq_some_iff] at found
    have heard := of_decide_eq_true found.2
    rw [stalenessOf] at heard
    by_contra late
    rw [if_pos (not_lt.mp late)] at heard
    exact heard rfl
  · intro element there
    have anchored := (kept.anchored.renderFrame kept.selfless now reading) other
      (by rw [show (before.renderFrame now reading).layer.elements.get? other = _ from there]; simp)
    rw [renderFrame_client, Client.forgetExpired_pid, show before.hosted.client.pid = pid from own]
      at anchored
    refine ⟨anchored.1, ?_⟩
    rw [draws] at there
    obtain ⟨participant, _, drawn⟩ := Option.bind_eq_some_iff.mp there
    obtain ⟨latest, _, rfl⟩ := Option.map_eq_some_iff.mp drawn
    exact ⟨_, rfl, onScreen_toViewportSpace _ reading⟩

end DrawnPage

end Copresence
