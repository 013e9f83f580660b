import Copresence.Client.Remotes

/-! What the client drops because it has gone silent, and what the host page
is told of the roster. Drawing the cursors is left out. -/
namespace Copresence

open Collections

/-- How much a silence says about a participant. -/
inductive Staleness where
  | fresh
  | stale
  | expired
deriving DecidableEq, Repr

def cursorStaleMs : Int := 2000

def cursorRemoveMs : Int := 10000

def stalenessOf (lastUpdateAt now : Int) (staleAfterMs : Int := cursorStaleMs)
    (removeAfterMs : Int := cursorRemoveMs) : Staleness :=
  let age := now - lastUpdateAt
  if age ≥ removeAfterMs then .expired else if age ≥ staleAfterMs then .stale else .fresh

/-- What the host page is told of one participant. -/
structure RosterParticipant where
  pid : ParticipantId
  color : String
  lastSeenAt : Int
  cursor : Option CursorPosition
deriving DecidableEq, Repr

namespace Client

def roster (client : Client) : List RosterParticipant :=
  client.remotes.entries.map fun (pid, participant) =>
    { pid, color := participant.color, lastSeenAt := participant.lastSeenAt
      cursor := participant.cursorLatest.map fun point => { x := point.x, y := point.y } }

/-- One turn of the loops over the remotes in `renderFrame` and in the sweep. -/
def expire (now : Int) (client : Client) (entry : ParticipantId × RemoteParticipant) : Client :=
  if stalenessOf entry.2.lastSeenAt now = .expired then client.forget entry.1 else client

def forgetExpired (now : Int) (client : Client) : Client :=
  client.remotes.entries.foldl (expire now) client

/-- Nobody among the remotes has been silent for too long. -/
def NoneExpired (now : Int) (client : Client) : Prop :=
  ∀ entry ∈ client.remotes.entries, stalenessOf entry.2.lastSeenAt now ≠ .expired

instance (now : Int) (client : Client) : Decidable (client.NoneExpired now) := by
  rw [NoneExpired]
  infer_instance

theorem mem_roster_pids {client : Client} {pid : ParticipantId} :
    pid ∈ client.roster.map RosterParticipant.pid ↔ pid ∈ client.remotes.keys := by
  rw [roster, List.map_map, JsMap.keys]
  rfl

theorem foldl_expire_remotes (now : Int) (entries : List (ParticipantId × RemoteParticipant))
    (client : Client) (pid : ParticipantId) :
    (entries.foldl (expire now) client).remotes.get? pid =
      if ∃ entry ∈ entries, entry.1 = pid ∧ stalenessOf entry.2.lastSeenAt now = .expired then none
      else client.remotes.get? pid := by
  induction entries generalizing client with
  | nil => simp
  | cons first entries ih =>
      rw [List.foldl_cons, ih, expire]
      by_cases later : ∃ entry ∈ entries, entry.1 = pid ∧
          stalenessOf entry.2.lastSeenAt now = .expired
      · simp [later]
      · by_cases expired : stalenessOf first.2.lastSeenAt now = .expired
        · rw [if_neg later, if_pos expired, forget, JsMap.get?_delete]
          by_cases own : pid = first.1
          · simp [own, expired]
          · have another : ¬ first.1 = pid := fun same => own same.symm
            simp [own, another, later]
        · rw [if_neg later, if_neg expired]
          simp [expired, later]

/-- Whoever expired is gone afterwards. -/
theorem get?_forgetExpired_of_expired {now : Int} {client : Client} {pid : ParticipantId}
    {participant : RemoteParticipant} (there : (pid, participant) ∈ client.remotes.entries)
    (expired : stalenessOf participant.lastSeenAt now = .expired) :
    (client.forgetExpired now).remotes.get? pid = none := by
  rw [forgetExpired, foldl_expire_remotes, if_pos]
  exact ⟨_, there, rfl, expired⟩

/-- Whoever has not expired stays as it was. -/
theorem get?_forgetExpired (now : Int) (client : Client) (pid : ParticipantId) :
    (client.forgetExpired now).remotes.get? pid =
      (client.remotes.get? pid).filter fun participant =>
        stalenessOf participant.lastSeenAt now ≠ .expired := by
  rw [forgetExpired, foldl_expire_remotes]
  cases found : client.remotes.get? pid with
  | none => simp
  | some participant =>
      have listed := JsMap.get?_eq_some_iff.mp found
      have only : (∃ entry ∈ client.remotes.entries, entry.1 = pid ∧
          stalenessOf entry.2.lastSeenAt now = .expired) ↔
          stalenessOf participant.lastSeenAt now = .expired := by
        constructor
        · rintro ⟨entry, there, rfl, expired⟩
          have same := JsMap.get?_eq_some_iff.mpr there
          rw [found] at same
          rwa [Option.some.inj same]
        · intro expired
          exact ⟨_, listed, rfl, expired⟩
      rw [if_congr only rfl rfl, Option.filter_some]
      by_cases expired : stalenessOf participant.lastSeenAt now = .expired
      · simp [expired]
      · simp [expired]

/-- A participant is either forgotten or shown as before. -/
theorem shown_forgetExpired (now : Int) (client : Client) (pid : ParticipantId) :
    (client.forgetExpired now).shown pid = none ∨
      (client.forgetExpired now).shown pid = client.shown pid := by
  rw [shown, shown, get?_forgetExpired]
  cases client.remotes.get? pid with
  | none => exact Or.inl rfl
  | some participant =>
      rw [Option.filter_some]
      split
      · exact Or.inr rfl
      · exact Or.inl rfl

/-- Forgetting leaves everything but the remotes. -/
theorem forgetExpired_rest (now : Int) (client : Client) :
    (client.forgetExpired now).pid = client.pid ∧
      (client.forgetExpired now).lastPatchSeq = client.lastPatchSeq := by
  apply Transition.invariant_run (P := fun other : Client =>
    other.pid = client.pid ∧ other.lastPatchSeq = client.lastPatchSeq) _ ⟨rfl, rfl⟩
  intro other entry same
  rw [expire]
  split
  · exact same
  · exact same

theorem forgetExpired_pid (now : Int) (client : Client) :
    (client.forgetExpired now).pid = client.pid :=
  (forgetExpired_rest now client).1

/-- Without anybody expired nothing happens. -/
theorem forgetExpired_of_noneExpired {now : Int} {client : Client}
    (fresh : client.NoneExpired now) : client.forgetExpired now = client := by
  rw [NoneExpired] at fresh
  rw [forgetExpired]
  generalize client.remotes.entries = entries at fresh
  induction entries with
  | nil => rfl
  | cons first entries ih =>
      have here := fresh first List.mem_cons_self
      rw [List.foldl_cons, expire, if_neg here]
      exact ih fun entry listed => fresh entry (List.mem_cons_of_mem _ listed)

end Client

/-- The client with the last roster passed to `onPresenceChange`. -/
structure Hosted where
  client : Client
  told : Option (List RosterParticipant) := none
deriving DecidableEq

/-- What moves the remotes: frames from the server, frames of the screen and
the timer of the sweep. -/
inductive HostedEvent where
  | message (msg : OutboundMessage)
  | renderFrame
  | staleSweep
deriving DecidableEq

namespace Hosted

def notifyPresenceChange (hosted : Hosted) : Hosted :=
  { hosted with told := some hosted.client.roster }

/-- The page is told of every message that can move the roster; a patch the
guard refuses is not one. -/
def routeMessage (now : Int) (hosted : Hosted) (msg : OutboundMessage) : Hosted :=
  let routed := { hosted with client := hosted.client.routeMessage now msg }
  match msg with
  | .welcome _ => routed.notifyPresenceChange
  | .snapshot _ => routed.notifyPresenceChange
  | .join _ => routed.notifyPresenceChange
  | .leave _ => routed.notifyPresenceChange
  | .patch patch => if hosted.client.Fresh patch.seq then routed.notifyPresenceChange else routed
  | .pong _ => routed
  | .auditAck _ => routed
  | .error _ => routed

def renderFrame (now : Int) (hosted : Hosted) : Hosted :=
  { hosted with client := hosted.client.forgetExpired now }

def staleSweep (now : Int) (hosted : Hosted) : Hosted :=
  { hosted with client := hosted.client.forgetExpired now }

/-- An event, with the client's clock when it happens. -/
def step (hosted : Hosted) (stamped : Int × HostedEvent) : Hosted :=
  match stamped.2 with
  | .message msg => hosted.routeMessage stamped.1 msg
  | .renderFrame => hosted.renderFrame stamped.1
  | .staleSweep => hosted.staleSweep stamped.1

end Hosted

end Copresence
