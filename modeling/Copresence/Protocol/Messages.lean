import Mathlib.Data.Rat.Defs
import Mathlib.Data.List.Basic

/-! The wire protocol shared by the client and the server. Coordinates are
rationals, which contain every finite IEEE double; times and sequence numbers
are integers. -/
namespace Copresence

/-- Bumped whenever a breaking change lands in the wire format. -/
def protocolVersion : Nat := 1

/-- How long the server keeps resending a session's last flushed content. -/
def patchSettleWindowMs : Int := 750

/-- Outbound socket buffer threshold above which lossy frames are dropped. -/
def backpressureBytes : Int := 64 * 1024

structure SessionId where
  value : String
  nonempty : value ≠ ""
deriving DecidableEq, Repr

structure ParticipantId where
  value : String
  nonempty : value ≠ ""
deriving DecidableEq, Repr

/-- Client-generated, the dedupe key for audit events. -/
structure EventId where
  value : String
  nonempty : value ≠ ""
deriving DecidableEq, Repr

/-- The ids of concrete runs are one letter long. -/
theorem nonempty_a : "a" ≠ "" := by decide

theorem nonempty_b : "b" ≠ "" := by decide

theorem nonempty_e : "e" ≠ "" := by decide

theorem nonempty_f : "f" ≠ "" := by decide

theorem nonempty_s : "s" ≠ "" := by decide

theorem nonempty_t : "t" ≠ "" := by decide

inductive VisibilityState where
  | visible
  | hidden
deriving DecidableEq, Repr

inductive EndReason where
  | navigate
  | close
  | crashRecovered
deriving DecidableEq, Repr

def EndReason.text : EndReason → String
  | navigate => "navigate"
  | close => "close"
  | crashRecovered => "crash-recovered"

/-- The field `t` of a message. -/
inductive MessageType where
  | cursor | scroll | patch
  | hello | bye | join | leave | welcome | snapshot
  | ping | pong | ack | auditAck | error
  | sessionStart | sessionEnd | participantJoin | participantLeave | visibilityChange
deriving DecidableEq, Repr

inductive MessageClass where
  | lossy
  | lossless
  | control
  | audit
deriving DecidableEq, Repr

/-- The class of a message type decides every drop. -/
def classify : MessageType → MessageClass
  | .cursor | .scroll | .patch => .lossy
  | .hello | .bye | .join | .leave | .welcome | .snapshot => .lossless
  | .ping | .pong | .ack | .auditAck | .error => .control
  | .sessionStart | .sessionEnd | .participantJoin | .participantLeave
  | .visibilityChange => .audit

/-- `BaseEnvelopeSchema`: what every inbound message carries. -/
structure Envelope where
  v : Nat
  sid : SessionId
  pid : ParticipantId
  seq : Int
  ts : Int
deriving DecidableEq, Repr

structure HelloMessage extends Envelope where
  docWidth : ℚ
  docHeight : ℚ
  dpr : ℚ
  visibilityState : VisibilityState
deriving DecidableEq, Repr

structure CursorMessage extends Envelope where
  x : ℚ
  y : ℚ
deriving DecidableEq, Repr

structure ScrollMessage extends Envelope where
  scrollX : ℚ
  scrollY : ℚ
deriving DecidableEq, Repr

structure AckMessage extends Envelope where
  acked : Int
deriving DecidableEq, Repr

structure PingMessage extends Envelope
deriving DecidableEq, Repr

structure ByeMessage extends Envelope
deriving DecidableEq, Repr

/-- What the five audit messages say beyond envelope and event id. -/
inductive AuditBody where
  | sessionStart
  | sessionEnd (reason : EndReason)
  | participantJoin
  | participantLeave
  | visibilityChange (visibilityState : VisibilityState)
deriving DecidableEq, Repr

/-- `AuditMessage['t']`. -/
inductive AuditEventKind where
  | sessionStart
  | sessionEnd
  | participantJoin
  | participantLeave
  | visibilityChange
deriving DecidableEq, Repr

def AuditBody.kind : AuditBody → AuditEventKind
  | sessionStart => .sessionStart
  | sessionEnd _ => .sessionEnd
  | participantJoin => .participantJoin
  | participantLeave => .participantLeave
  | visibilityChange _ => .visibilityChange

def AuditEventKind.messageType : AuditEventKind → MessageType
  | sessionStart => .sessionStart
  | sessionEnd => .sessionEnd
  | participantJoin => .participantJoin
  | participantLeave => .participantLeave
  | visibilityChange => .visibilityChange

structure AuditMessage extends Envelope where
  eventId : EventId
  body : AuditBody
deriving DecidableEq, Repr

inductive InboundMessage where
  | hello (msg : HelloMessage)
  | cursor (msg : CursorMessage)
  | scroll (msg : ScrollMessage)
  | ack (msg : AckMessage)
  | ping (msg : PingMessage)
  | bye (msg : ByeMessage)
  | audit (msg : AuditMessage)
deriving DecidableEq, Repr

namespace InboundMessage

def envelope : InboundMessage → Envelope
  | hello msg => msg.toEnvelope
  | cursor msg => msg.toEnvelope
  | scroll msg => msg.toEnvelope
  | ack msg => msg.toEnvelope
  | ping msg => msg.toEnvelope
  | bye msg => msg.toEnvelope
  | audit msg => msg.toEnvelope

def pid (msg : InboundMessage) : ParticipantId := msg.envelope.pid

def seq (msg : InboundMessage) : Int := msg.envelope.seq

def ts (msg : InboundMessage) : Int := msg.envelope.ts

def t : InboundMessage → MessageType
  | hello _ => .hello
  | cursor _ => .cursor
  | scroll _ => .scroll
  | ack _ => .ack
  | ping _ => .ping
  | bye _ => .bye
  | audit msg => msg.body.kind.messageType

def isHello : InboundMessage → Bool
  | hello _ => true
  | _ => false

theorem t_eq_bye {msg : InboundMessage} : msg.t = .bye ↔ ∃ bye, msg = .bye bye := by
  cases msg with
  | bye msg => exact ⟨fun _ => ⟨msg, rfl⟩, fun _ => rfl⟩
  | audit msg =>
      have other : msg.body.kind.messageType ≠ .bye := by cases msg.body.kind <;> decide
      exact ⟨fun h => absurd h other, fun ⟨_, h⟩ => nomatch h⟩
  | _ => simp [t]

end InboundMessage

structure ParticipantSnapshot where
  pid : ParticipantId
  color : String
  x : Option ℚ := none
  y : Option ℚ := none
  scrollX : Option ℚ := none
  scrollY : Option ℚ := none
  lastSeenAt : Int
deriving DecidableEq, Repr

/-- The server's own envelope; `seq` is its tick sequence, not a participant's. -/
structure OutboundEnvelope where
  v : Nat := protocolVersion
  sid : SessionId
  seq : Int
  ts : Int
deriving DecidableEq, Repr

structure WelcomeMessage extends OutboundEnvelope where
  pid : ParticipantId
  participants : List ParticipantSnapshot
deriving DecidableEq, Repr

structure JoinMessage extends OutboundEnvelope where
  participant : ParticipantSnapshot
deriving DecidableEq, Repr

structure LeaveMessage extends OutboundEnvelope where
  pid : ParticipantId
deriving DecidableEq, Repr

structure ParticipantPatch where
  pid : ParticipantId
  x : Option ℚ := none
  y : Option ℚ := none
  scrollX : Option ℚ := none
  scrollY : Option ℚ := none
deriving DecidableEq, Repr

structure PatchMessage extends OutboundEnvelope where
  patches : List ParticipantPatch
deriving DecidableEq, Repr

structure SnapshotMessage extends OutboundEnvelope where
  participants : List ParticipantSnapshot
deriving DecidableEq, Repr

structure PongMessage extends OutboundEnvelope where
  pingTs : Int
deriving DecidableEq, Repr

/-- Confirms that one audit event was durably recorded. -/
structure AuditAckMessage extends OutboundEnvelope where
  eventId : EventId
deriving DecidableEq, Repr

inductive ErrorCode where
  | malformedJson
  | validationFailed
  | versionMismatch
  | unauthorized
  | rateLimited
  | internal
deriving DecidableEq, Repr

structure ErrorMessage extends OutboundEnvelope where
  code : ErrorCode
  detail : String
deriving DecidableEq, Repr

inductive OutboundMessage where
  | welcome (msg : WelcomeMessage)
  | join (msg : JoinMessage)
  | leave (msg : LeaveMessage)
  | patch (msg : PatchMessage)
  | snapshot (msg : SnapshotMessage)
  | pong (msg : PongMessage)
  | auditAck (msg : AuditAckMessage)
  | error (msg : ErrorMessage)
deriving DecidableEq, Repr

def OutboundMessage.envelope : OutboundMessage → OutboundEnvelope
  | welcome msg => msg.toOutboundEnvelope
  | join msg => msg.toOutboundEnvelope
  | leave msg => msg.toOutboundEnvelope
  | patch msg => msg.toOutboundEnvelope
  | snapshot msg => msg.toOutboundEnvelope
  | pong msg => msg.toOutboundEnvelope
  | auditAck msg => msg.toOutboundEnvelope
  | error msg => msg.toOutboundEnvelope

def OutboundMessage.t : OutboundMessage → MessageType
  | welcome _ => .welcome
  | join _ => .join
  | leave _ => .leave
  | patch _ => .patch
  | snapshot _ => .snapshot
  | pong _ => .pong
  | auditAck _ => .auditAck
  | error _ => .error

/-- A position is there only when both of its coordinates are. -/
def both (x y : Option ℚ) : Option (ℚ × ℚ) :=
  match x, y with
  | some x, some y => some (x, y)
  | _, _ => none

inductive PresenceField where
  | cursor
  | scroll
deriving DecidableEq, Repr

namespace PresenceField

def ofPatch : PresenceField → ParticipantPatch → Option (ℚ × ℚ)
  | cursor, patch => both patch.x patch.y
  | scroll, patch => both patch.scrollX patch.scrollY

def ofSnapshot : PresenceField → ParticipantSnapshot → Option (ℚ × ℚ)
  | cursor, snapshot => both snapshot.x snapshot.y
  | scroll, snapshot => both snapshot.scrollX snapshot.scrollY

/-- What the entries of one patch say of a participant: the last one to carry
the field counts. -/
def carried (field : PresenceField) (pid : ParticipantId) :
    List ParticipantPatch → Option (ℚ × ℚ)
  | [] => none
  | entry :: entries =>
    (carried field pid entries).or (if pid = entry.pid then field.ofPatch entry else none)

variable {field : PresenceField} {pid : ParticipantId} {entries : List ParticipantPatch}

theorem mem_of_carried {value : ℚ × ℚ} (h : field.carried pid entries = some value) :
    ∃ entry ∈ entries, pid = entry.pid ∧ field.ofPatch entry = some value := by
  induction entries with
  | nil => cases h
  | cons entry entries ih =>
      rw [carried] at h
      cases hRest : field.carried pid entries with
      | some later =>
          rw [hRest, Option.some_or] at h
          obtain ⟨found, hf, hFound⟩ := ih (hRest.trans h)
          exact ⟨found, List.mem_cons_of_mem _ hf, hFound⟩
      | none =>
          rw [hRest, Option.none_or] at h
          split at h
          · next hp => exact ⟨entry, List.mem_cons_self, hp, h⟩
          · cases h

/-- Entries that say the same of a participant say just that together. -/
theorem carried_eq {said : Option (ℚ × ℚ)}
    (own : ∀ entry ∈ entries, pid = entry.pid → field.ofPatch entry = said)
    (unlisted : pid ∉ entries.map ParticipantPatch.pid → said = none) :
    field.carried pid entries = said := by
  induction entries with
  | nil => exact (unlisted (by simp)).symm
  | cons entry entries ih =>
      rw [carried]
      by_cases hp : pid = entry.pid
      · rw [if_pos hp, own entry List.mem_cons_self hp]
        by_cases later : pid ∈ entries.map ParticipantPatch.pid
        · rw [ih (fun other ho => own other (List.mem_cons_of_mem _ ho))
            (fun absent => absurd later absent), Option.or_self]
        · cases hc : field.carried pid entries with
          | none => rw [Option.none_or]
          | some value =>
              obtain ⟨other, ho, rfl, _⟩ := mem_of_carried hc
              exact absurd (List.mem_map_of_mem ho) later
      · rw [if_neg hp, Option.or_none]
        refine ih (fun other ho => own other (List.mem_cons_of_mem _ ho)) fun absent => ?_
        apply unlisted
        intro h
        rcases List.mem_cons.mp h with h | h
        · exact hp h
        · exact absent h

end PresenceField

/-- Whether a patch has an entry for this participant. -/
def PatchMessage.Names (patch : PatchMessage) (pid : ParticipantId) : Prop :=
  pid ∈ patch.patches.map ParticipantPatch.pid

instance (patch : PatchMessage) (pid : ParticipantId) : Decidable (patch.Names pid) :=
  inferInstanceAs (Decidable (pid ∈ patch.patches.map ParticipantPatch.pid))

/-- What `JSON.parse` and the message schemas make of one raw frame. -/
inductive RawFrame where
  | unparsable (detail : String)
  | invalid (issues : List String)
  | parsed (msg : InboundMessage)
deriving DecidableEq, Repr

inductive DecodeError where
  | malformedJson (detail : String)
  | validationFailed (issues : List String)
  | versionMismatch (received expected : Nat)
deriving DecidableEq, Repr

/-- Schema validation comes before the version check, so that a wrong version
on a well-formed message is reported as exactly that. -/
def decodeInbound : RawFrame → Except DecodeError InboundMessage
  | .unparsable detail => .error (.malformedJson detail)
  | .invalid issues => .error (.validationFailed issues)
  | .parsed msg =>
    if msg.envelope.v ≠ protocolVersion then
      .error (.versionMismatch msg.envelope.v protocolVersion)
    else .ok msg

theorem decodeInbound_ok_iff {frame : RawFrame} {msg : InboundMessage} :
    decodeInbound frame = .ok msg ↔ frame = .parsed msg ∧ msg.envelope.v = protocolVersion := by
  cases frame with
  | unparsable detail => simp [decodeInbound]
  | invalid issues => simp [decodeInbound]
  | parsed other =>
      simp only [decodeInbound, RawFrame.parsed.injEq]
      split
      · next h =>
          constructor
          · intro he
            cases he
          · rintro ⟨rfl, hv⟩
            exact (h hv).elim
      · next h =>
          constructor
          · intro he
            cases he
            exact ⟨rfl, not_not.mp h⟩
          · rintro ⟨rfl, _⟩
            rfl

end Copresence
