import Copresence.Models.Participant
import Copresence.Lib.JsMap
import Copresence.Lib.Run

/-! The client's picture of the others: the roster it keeps and the routing of
inbound messages onto it. Rendering and scroll-follow read it and are left out. -/
namespace Copresence

open Collections

structure RemoteCursorPoint where
  x : ℚ
  y : ℚ
  t : Int
deriving DecidableEq, Repr

structure RemoteParticipant where
  color : String
  lastSeenAt : Int
  cursorPrev : Option RemoteCursorPoint := none
  cursorLatest : Option RemoteCursorPoint := none
  scroll : Option ScrollPosition := none
deriving DecidableEq, Repr

/-- The state `init` closes over, as far as presence goes. No patch seen yet
is `lastPatchSeq` at minus infinity. -/
structure Client where
  pid : ParticipantId
  remotes : JsMap ParticipantId RemoteParticipant := JsMap.empty
  lastPatchSeq : Option Int := none
deriving DecidableEq

def RemoteParticipant.moveCursor (participant : RemoteParticipant) (now : Int) :
    Option (ℚ × ℚ) → RemoteParticipant
  | none => participant
  | some (x, y) =>
    { participant with
      cursorPrev := participant.cursorLatest, cursorLatest := some { x, y, t := now } }

def RemoteParticipant.moveScroll (participant : RemoteParticipant) :
    Option (ℚ × ℚ) → RemoteParticipant
  | none => participant
  | some (x, y) => { participant with scroll := some { x, y } }

namespace Client

/-- The client never keeps its own participant. -/
def upsertRemote (now : Int) (client : Client) (participant : ParticipantSnapshot) : Client :=
  if participant.pid = client.pid then client
  else
    let existing := client.remotes.get? participant.pid
    let next := existing.getD { color := participant.color, lastSeenAt := now }
    let next := { next with color := participant.color, lastSeenAt := now }
    let next := next.moveCursor now (both participant.x participant.y)
    let next := next.moveScroll (both participant.scrollX participant.scrollY)
    { client with remotes := client.remotes.set participant.pid next }

def applyPatch (now : Int) (client : Client) (patch : ParticipantPatch) : Client :=
  if patch.pid = client.pid then client
  else
    let existing := client.remotes.get? patch.pid
    let next := existing.getD { color := "#888888", lastSeenAt := now }
    let next := { next with lastSeenAt := now }
    let next := next.moveCursor now (both patch.x patch.y)
    let next := next.moveScroll (both patch.scrollX patch.scrollY)
    { client with remotes := client.remotes.set patch.pid next }

def forget (client : Client) (pid : ParticipantId) : Client :=
  { client with remotes := client.remotes.delete pid }

/-- Those not in the seed go; those in it are updated in place. -/
def seedRoster (now : Int) (client : Client) (participants : List ParticipantSnapshot) : Client :=
  let unseen := client.remotes.keys.filter fun known =>
    known ∉ participants.map ParticipantSnapshot.pid
  participants.foldl (upsertRemote now) (unseen.foldl forget client)

/-- Whether the guard on patches lets this number through. -/
def Fresh (client : Client) (seq : Int) : Prop := ∀ last, client.lastPatchSeq = some last → last < seq

instance (client : Client) (seq : Int) : Decidable (client.Fresh seq) :=
  match h : client.lastPatchSeq with
  | none => isTrue fun _ hl => nomatch h.symm.trans hl
  | some found =>
    if hlt : found < seq then isTrue fun _ hl => Option.some.inj (h.symm.trans hl) ▸ hlt
    else isFalse fun fresh => hlt (fresh found h)

/-- What one inbound message does to the roster. -/
def routeMessage (now : Int) (client : Client) : OutboundMessage → Client
  | .welcome msg => client.seedRoster now msg.participants
  | .snapshot msg => client.seedRoster now msg.participants
  | .join msg => client.upsertRemote now msg.participant
  | .leave msg => client.forget msg.pid
  | .patch msg =>
    if client.Fresh msg.seq then
      msg.patches.foldl (applyPatch now) { client with lastPatchSeq := some msg.seq }
    else client
  | .pong _ => client
  | .auditAck _ => client
  | .error _ => client

/-- What the client shows of one remote participant. -/
structure Shown where
  color : String
  cursor : Option (ℚ × ℚ)
  scroll : Option (ℚ × ℚ)
deriving DecidableEq, Repr

def RemoteParticipant.shown (participant : RemoteParticipant) : Shown where
  color := participant.color
  cursor := participant.cursorLatest.map fun point => (point.x, point.y)
  scroll := participant.scroll.map fun position => (position.x, position.y)

def shown (client : Client) (pid : ParticipantId) : Option Shown :=
  (client.remotes.get? pid).map RemoteParticipant.shown

/-- Coordinates that are absent leave the old ones standing. -/
def Shown.move (shown : Shown) (cursor scroll : Option (ℚ × ℚ)) : Shown :=
  { shown with cursor := cursor.or shown.cursor, scroll := scroll.or shown.scroll }

/-- What a snapshot of the participant makes of what is shown of it. -/
def Shown.upsert (old : Option Shown) (participant : ParticipantSnapshot) : Shown :=
  { old.getD ⟨participant.color, none, none⟩ with color := participant.color }.move
    (both participant.x participant.y) (both participant.scrollX participant.scrollY)

/-- What a patch makes of it; an unknown participant turns up grey. -/
def Shown.patch (old : Option Shown) (patch : ParticipantPatch) : Shown :=
  (old.getD ⟨"#888888", none, none⟩).move (both patch.x patch.y) (both patch.scrollX patch.scrollY)

/-- Moving a participant moves what is shown of it. -/
theorem shown_moves (participant : RemoteParticipant) (now : Int) (cursor scroll : Option (ℚ × ℚ)) :
    RemoteParticipant.shown ((participant.moveCursor now cursor).moveScroll scroll) =
      (RemoteParticipant.shown participant).move cursor scroll := by
  cases cursor <;> cases scroll <;> rfl

variable (now : Int) (client : Client)

@[simp] theorem upsertRemote_pid (participant : ParticipantSnapshot) :
    (client.upsertRemote now participant).pid = client.pid := by
  rw [upsertRemote]
  split <;> rfl

@[simp] theorem upsertRemote_lastPatchSeq (participant : ParticipantSnapshot) :
    (client.upsertRemote now participant).lastPatchSeq = client.lastPatchSeq := by
  rw [upsertRemote]
  split <;> rfl

@[simp] theorem applyPatch_pid (patch : ParticipantPatch) :
    (client.applyPatch now patch).pid = client.pid := by
  rw [applyPatch]
  split <;> rfl

@[simp] theorem applyPatch_lastPatchSeq (patch : ParticipantPatch) :
    (client.applyPatch now patch).lastPatchSeq = client.lastPatchSeq := by
  rw [applyPatch]
  split <;> rfl

/-- A snapshot shows its participant, unless that is the page itself. -/
theorem upsertRemote_shown (participant : ParticipantSnapshot) (pid : ParticipantId) :
    (client.upsertRemote now participant).shown pid =
      if pid = participant.pid ∧ pid ≠ client.pid then
        some (Shown.upsert (client.shown pid) participant)
      else client.shown pid := by
  rw [upsertRemote]
  split
  · next own =>
      rw [if_neg]
      rintro ⟨rfl, other⟩
      exact other own
  · next other =>
      rw [shown, JsMap.get?_set]
      by_cases hp : pid = participant.pid
      · subst hp
        rw [if_pos rfl, if_pos ⟨rfl, other⟩, Option.map_some, shown_moves]
        rw [shown]
        cases client.remotes.get? participant.pid <;> rfl
      · rw [if_neg hp, if_neg fun h => hp h.1]
        rfl

/-- A patch shows its participant moved, unless that is the page itself. -/
theorem applyPatch_shown (patch : ParticipantPatch) (pid : ParticipantId) :
    (client.applyPatch now patch).shown pid =
      if pid = patch.pid ∧ pid ≠ client.pid then some (Shown.patch (client.shown pid) patch)
      else client.shown pid := by
  rw [applyPatch]
  split
  · next own =>
      rw [if_neg]
      rintro ⟨rfl, other⟩
      exact other own
  · next other =>
      rw [shown, JsMap.get?_set]
      by_cases hp : pid = patch.pid
      · subst hp
        rw [if_pos rfl, if_pos ⟨rfl, other⟩, Option.map_some, shown_moves]
        rw [shown]
        cases client.remotes.get? patch.pid <;> rfl
      · rw [if_neg hp, if_neg fun h => hp h.1]
        rfl

/-- Whoever is forgotten is not shown, and all others are as before. -/
theorem forget_shown (gone pid : ParticipantId) :
    (client.forget gone).shown pid = if pid = gone then none else client.shown pid := by
  rw [shown, forget, JsMap.get?_delete]
  split <;> rfl

end Client

section Components

open Client (Shown)

namespace PresenceField

def ofShown : PresenceField → Shown → Option (ℚ × ℚ)
  | cursor, shown => shown.cursor
  | scroll, shown => shown.scroll

/-- The position shown of a participant, if it is shown with one. -/
def shownOf (field : PresenceField) (shown : Option Shown) : Option (ℚ × ℚ) :=
  shown.bind field.ofShown

end PresenceField

/-- Colour and positions are all there is to what is shown. -/
theorem shown_ext {first second : Option Shown}
    (color : first.map Shown.color = second.map Shown.color)
    (fields : ∀ field : PresenceField, field.shownOf first = field.shownOf second) :
    first = second := by
  cases first with
  | none =>
      cases second with
      | none => rfl
      | some second => cases color
  | some first =>
      cases second with
      | none => cases color
      | some second =>
          have cursor := fields .cursor
          have scroll := fields .scroll
          cases first
          cases second
          simp_all [PresenceField.shownOf, PresenceField.ofShown]

end Components

/-- What matters of a client for one remote participant: the guard on patches
and what is shown. -/
structure Picture where
  lastPatchSeq : Option Int
  shown : Option Client.Shown
deriving DecidableEq

def Client.picture (client : Client) (pid : ParticipantId) : Picture :=
  { lastPatchSeq := client.lastPatchSeq, shown := client.shown pid }

namespace Picture

open Client (Shown)

def Fresh (picture : Picture) (seq : Int) : Prop :=
  ∀ last, picture.lastPatchSeq = some last → last < seq

instance (picture : Picture) (seq : Int) : Decidable (picture.Fresh seq) :=
  inferInstanceAs (Decidable (Client.Fresh
    { pid := ⟨"p", by decide⟩, lastPatchSeq := picture.lastPatchSeq } seq))

def patched (pid : ParticipantId) (old : Option Shown) (patch : ParticipantPatch) : Option Shown :=
  if pid = patch.pid then some (Shown.patch old patch) else old

def upserted (pid : ParticipantId) (old : Option Shown) (participant : ParticipantSnapshot) :
    Option Shown :=
  if pid = participant.pid then some (Shown.upsert old participant) else old

/-- A snapshot with a position brings it, and one without leaves the old. -/
theorem shownOf_upserted (pid : ParticipantId) (old : Option Shown)
    (participant : ParticipantSnapshot) (field : PresenceField) :
    field.shownOf (upserted pid old participant) =
      (if pid = participant.pid then field.ofSnapshot participant else none).or
        (field.shownOf old) := by
  rw [upserted]
  split
  · cases old <;> cases field <;> rfl
  · rfl

def seeded (pid : ParticipantId) (old : Option Shown) (participants : List ParticipantSnapshot) :
    Option Shown :=
  participants.foldl (upserted pid)
    (if pid ∈ participants.map ParticipantSnapshot.pid then old else none)

/-- `routeMessage` as seen by one remote participant, without clocks. -/
def see (pid : ParticipantId) (picture : Picture) : OutboundMessage → Picture
  | .welcome msg => { picture with shown := seeded pid picture.shown msg.participants }
  | .snapshot msg => { picture with shown := seeded pid picture.shown msg.participants }
  | .join msg => { picture with shown := upserted pid picture.shown msg.participant }
  | .leave msg => if pid = msg.pid then { picture with shown := none } else picture
  | .patch msg =>
    if picture.Fresh msg.seq then
      { lastPatchSeq := some msg.seq, shown := msg.patches.foldl (patched pid) picture.shown }
    else picture
  | .pong _ => picture
  | .auditAck _ => picture
  | .error _ => picture

end Picture

namespace Client

variable (now : Int) {client : Client} {pid : ParticipantId}

/-- A list of patches is seen one by one. -/
theorem foldl_applyPatch_picture (other : pid ≠ client.pid) (patches : List ParticipantPatch) :
    (patches.foldl (applyPatch now) client).picture pid =
      { lastPatchSeq := client.lastPatchSeq
        shown := patches.foldl (Picture.patched pid) (client.shown pid) } := by
  induction patches generalizing client with
  | nil => rfl
  | cons patch patches ih =>
      rw [List.foldl_cons, ih (by rwa [applyPatch_pid]), applyPatch_shown,
        applyPatch_lastPatchSeq, List.foldl_cons]
      simp only [other, ne_eq, not_false_iff, and_true]
      rfl

/-- A list of snapshots is seen one by one. -/
theorem foldl_upsertRemote_picture (other : pid ≠ client.pid)
    (participants : List ParticipantSnapshot) :
    (participants.foldl (upsertRemote now) client).picture pid =
      { lastPatchSeq := client.lastPatchSeq
        shown := participants.foldl (Picture.upserted pid) (client.shown pid) } := by
  induction participants generalizing client with
  | nil => rfl
  | cons participant participants ih =>
      rw [List.foldl_cons, ih (by rwa [upsertRemote_pid]), upsertRemote_shown,
        upsertRemote_lastPatchSeq, List.foldl_cons]
      simp only [other, ne_eq, not_false_iff, and_true]
      rfl

/-- Forgetting a list forgets exactly those on it. -/
theorem foldl_forget (pid : ParticipantId) (gone : List ParticipantId) (client : Client) :
    (gone.foldl forget client).pid = client.pid ∧
      (gone.foldl forget client).lastPatchSeq = client.lastPatchSeq ∧
      (gone.foldl forget client).shown pid = if pid ∈ gone then none else client.shown pid := by
  induction gone generalizing client with
  | nil => simp
  | cons first gone ih =>
      obtain ⟨hPid, hSeq, hShown⟩ := ih (client.forget first)
      refine ⟨hPid, hSeq, ?_⟩
      rw [List.foldl_cons, hShown, forget_shown]
      by_cases hm : pid ∈ gone
      · simp [hm]
      · by_cases he : pid = first <;> simp [hm, he]

/-- The roster of the real client moves as each participant's picture does. -/
theorem routeMessage_picture (other : pid ≠ client.pid) (message : OutboundMessage) :
    (client.routeMessage now message).picture pid = (client.picture pid).see pid message := by
  have seed : ∀ participants, (client.seedRoster now participants).picture pid =
      { client.picture pid with
        shown := Picture.seeded pid (client.shown pid) participants } := by
    intro participants
    obtain ⟨hPid, hSeq, hShown⟩ := foldl_forget pid
      (client.remotes.keys.filter fun known =>
        known ∉ participants.map ParticipantSnapshot.pid) client
    rw [seedRoster, foldl_upsertRemote_picture now (by rwa [hPid]), hSeq, hShown,
      Picture.seeded]
    have kept : (if pid ∈ client.remotes.keys.filter fun known =>
        known ∉ participants.map ParticipantSnapshot.pid then none else client.shown pid) =
        if pid ∈ participants.map ParticipantSnapshot.pid then client.shown pid else none := by
      by_cases hm : pid ∈ participants.map ParticipantSnapshot.pid
      · rw [if_pos hm, if_neg]
        intro h
        exact of_decide_eq_true (List.mem_filter.mp h).2 hm
      · rw [if_neg hm]
        split
        · rfl
        · next hk =>
            have unknown : pid ∉ client.remotes.keys :=
              fun h => hk (List.mem_filter.mpr ⟨h, decide_eq_true hm⟩)
            rw [shown, JsMap.get?_eq_none_iff.mpr unknown]
            rfl
    rw [kept]
    rfl
  cases message with
  | welcome msg => exact seed msg.participants
  | snapshot msg => exact seed msg.participants
  | join msg =>
      rw [routeMessage, picture, upsertRemote_shown, upsertRemote_lastPatchSeq]
      simp only [other, ne_eq, not_false_iff, and_true]
      rfl
  | leave msg =>
      rw [routeMessage, picture, forget_shown, Picture.see]
      split <;> rfl
  | patch msg =>
      rw [routeMessage, Picture.see]
      by_cases fresh : client.Fresh msg.seq
      · rw [if_pos fresh, if_pos (by exact fresh), foldl_applyPatch_picture now (by exact other)]
        rfl
      · rw [if_neg fresh, if_neg (by exact fresh)]
  | pong msg => rfl
  | auditAck msg => rfl
  | error msg => rfl

/-- Snapshots move neither the page's own id nor its last number. -/
theorem foldl_upsertRemote_frame (participants : List ParticipantSnapshot) (client : Client) :
    (participants.foldl (upsertRemote now) client).pid = client.pid ∧
      (participants.foldl (upsertRemote now) client).lastPatchSeq = client.lastPatchSeq := by
  induction participants generalizing client with
  | nil => exact ⟨rfl, rfl⟩
  | cons participant participants ih => simpa using ih (client.upsertRemote now participant)

/-- Patches one by one move neither the page's own id nor its last number. -/
theorem foldl_applyPatch_frame (patches : List ParticipantPatch) (client : Client) :
    (patches.foldl (applyPatch now) client).pid = client.pid ∧
      (patches.foldl (applyPatch now) client).lastPatchSeq = client.lastPatchSeq := by
  induction patches generalizing client with
  | nil => exact ⟨rfl, rfl⟩
  | cons patch patches ih => simpa using ih (client.applyPatch now patch)

/-- A roster moves neither the page's own id nor its last number. -/
theorem seedRoster_frame (participants : List ParticipantSnapshot) :
    (client.seedRoster now participants).pid = client.pid ∧
      (client.seedRoster now participants).lastPatchSeq = client.lastPatchSeq := by
  obtain ⟨hPid, hSeq, _⟩ := foldl_forget client.pid (client.remotes.keys.filter fun known =>
    known ∉ participants.map ParticipantSnapshot.pid) client
  obtain ⟨hPid', hSeq'⟩ := foldl_upsertRemote_frame now participants
    ((client.remotes.keys.filter fun known =>
      known ∉ participants.map ParticipantSnapshot.pid).foldl forget client)
  exact ⟨hPid'.trans hPid, hSeq'.trans hSeq⟩

/-- A page keeps its own id through every message. -/
@[simp] theorem routeMessage_pid (message : OutboundMessage) :
    (client.routeMessage now message).pid = client.pid := by
  cases message with
  | welcome msg => exact (seedRoster_frame now msg.participants).1
  | snapshot msg => exact (seedRoster_frame now msg.participants).1
  | join msg => exact upsertRemote_pid now client msg.participant
  | patch msg =>
      rw [routeMessage]
      split
      · rw [(foldl_applyPatch_frame now msg.patches _).1]
      · rfl
  | _ => rfl

/-- Only a patch moves the guard, and only forward. -/
theorem routeMessage_lastPatchSeq (message : OutboundMessage) :
    (client.routeMessage now message).lastPatchSeq =
      match message with
      | .patch msg => if client.Fresh msg.seq then some msg.seq else client.lastPatchSeq
      | _ => client.lastPatchSeq := by
  cases message with
  | welcome msg => exact (seedRoster_frame now msg.participants).2
  | snapshot msg => exact (seedRoster_frame now msg.participants).2
  | join msg => exact upsertRemote_lastPatchSeq now client msg.participant
  | patch msg =>
      rw [routeMessage]
      dsimp only
      split
      · rw [(foldl_applyPatch_frame now msg.patches _).2]
      · rfl
  | _ => rfl

end Client

namespace Client

/-- Deliver messages one after another, each at its own time. -/
def receive (client : Client) (deliveries : List (Int × OutboundMessage)) : Client :=
  deliveries.foldl (fun client delivery => client.routeMessage delivery.1 delivery.2) client

/-- What a page shows of one other is told by the messages alone. -/
theorem receive_picture {pid : ParticipantId} {client : Client} (other : pid ≠ client.pid)
    (deliveries : List (Int × OutboundMessage)) :
    (client.receive deliveries).picture pid =
      Transition.run (Picture.see pid) (client.picture pid) (deliveries.map Prod.snd) := by
  induction deliveries generalizing client with
  | nil => rfl
  | cons delivery deliveries ih =>
      rw [List.map_cons, Transition.run_cons, ← routeMessage_picture delivery.1 other]
      exact ih (by rwa [routeMessage_pid])

end Client

/-- Whether a message shows this participant as present. -/
def OutboundMessage.Shows (pid : ParticipantId) : OutboundMessage → Prop
  | .welcome msg => pid ∈ msg.participants.map ParticipantSnapshot.pid
  | .snapshot msg => pid ∈ msg.participants.map ParticipantSnapshot.pid
  | .join msg => pid = msg.participant.pid
  | .patch msg => msg.Names pid
  | _ => False

/-- A patch that does not name somebody leaves that one as shown. -/
theorem Picture.unnamed_patch (pid : ParticipantId) (old : Option Client.Shown)
    (patch : PatchMessage) (unnamed : ¬ patch.Names pid) :
    patch.patches.foldl (patched pid) old = old := by
  unfold PatchMessage.Names at unnamed
  generalize patch.patches = patches at unnamed
  induction patches generalizing old with
  | nil => rfl
  | cons entry entries ih =>
      rw [List.map_cons, List.mem_cons, not_or] at unnamed
      rw [List.foldl_cons, patched, if_neg unnamed.1]
      exact ih old unnamed.2

/-- Nobody turns up through a message that does not show them. -/
theorem Picture.see_absent {pid : ParticipantId} {picture : Picture} {message : OutboundMessage}
    (absent : picture.shown = none) (unshown : ¬ message.Shows pid) :
    (picture.see pid message).shown = none := by
  have seed : ∀ participants : List ParticipantSnapshot,
      pid ∉ participants.map ParticipantSnapshot.pid →
        seeded pid picture.shown participants = none := by
    intro participants unlisted
    rw [seeded, if_neg unlisted]
    induction participants with
    | nil => rfl
    | cons participant participants ih =>
        rw [List.map_cons, List.mem_cons, not_or] at unlisted
        rw [List.foldl_cons, upserted, if_neg unlisted.1]
        exact ih unlisted.2
  cases message with
  | welcome msg => exact seed msg.participants unshown
  | snapshot msg => exact seed msg.participants unshown
  | join msg =>
      rw [see, upserted, if_neg (show ¬ pid = msg.participant.pid from unshown)]
      exact absent
  | leave msg =>
      rw [see]
      split
      · rfl
      · exact absent
  | patch msg =>
      rw [see]
      split
      · exact (unnamed_patch pid picture.shown msg unshown).trans absent
      · exact absent
  | pong msg => exact absent
  | auditAck msg => exact absent
  | error msg => exact absent

/-- Somebody no message shows is not shown. -/
theorem Client.receive_absent {pid : ParticipantId} {client : Client} (other : pid ≠ client.pid)
    (absent : client.shown pid = none) {deliveries : List (Int × OutboundMessage)}
    (unshown : ∀ delivery ∈ deliveries, ¬ delivery.2.Shows pid) :
    (client.receive deliveries).shown pid = none := by
  show ((client.receive deliveries).picture pid).shown = none
  rw [receive_picture other]
  apply Transition.invariant_run_mem (P := fun picture : Picture => picture.shown = none) absent
  intro picture message hm gone
  obtain ⟨delivery, hd, rfl⟩ := List.mem_map.mp hm
  exact Picture.see_absent gone (unshown delivery hd)

end Copresence
