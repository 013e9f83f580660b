import Copresence.Protocol.Messages
import Mathlib.Algebra.Group.Nat.Defs
import Mathlib.Data.Int.Init
import Mathlib.Data.List.GetD

/-! One participant: the last known presence, with last-writer-wins ordering
by sequence number, and the record kept in a session's roster. -/
namespace Copresence

structure CursorPosition where
  x : ℚ
  y : ℚ
deriving DecidableEq, Repr

structure ScrollPosition where
  x : ℚ
  y : ℚ
deriving DecidableEq, Repr

structure PresenceState where
  cursor : Option CursorPosition := none
  cursorSeq : Option Int := none
  scroll : Option ScrollPosition := none
  scrollSeq : Option Int := none
deriving DecidableEq, Repr

def emptyPresence : PresenceState := {}

/-- A number no newer than the recorded one leaves the state as it is. -/
def PresenceState.withCursor (state : PresenceState) (point : CursorPosition) (seq : Int) :
    PresenceState :=
  match state.cursorSeq with
  | some recorded =>
    if seq ≤ recorded then state else { state with cursor := some point, cursorSeq := some seq }
  | none => { state with cursor := some point, cursorSeq := some seq }

def PresenceState.withScroll (state : PresenceState) (scroll : ScrollPosition) (seq : Int) :
    PresenceState :=
  match state.scrollSeq with
  | some recorded =>
    if seq ≤ recorded then state else { state with scroll := some scroll, scrollSeq := some seq }
  | none => { state with scroll := some scroll, scrollSeq := some seq }

structure Participant where
  pid : ParticipantId
  color : String
  presence : PresenceState
  lastSeenAt : Int
  docWidth : ℚ
  docHeight : ℚ
  dpr : ℚ
deriving DecidableEq, Repr

/-- A fixed high-contrast palette. -/
def participantColors : List String :=
  ["#e6194b", "#3cb44b", "#4363d8", "#f58231", "#911eb4",
    "#008080", "#e6a100", "#f032e6", "#469990", "#9a6324"]

/-- The UTF-16 code units `charCodeAt` reads off one character. -/
def utf16Units (c : Char) : List Nat :=
  if c.toNat < 0x10000 then [c.toNat]
  else [0xD800 + (c.toNat - 0x10000) / 0x400, 0xDC00 + (c.toNat - 0x10000) % 0x400]

/-- `(hash * 31 + unit) | 0`: the balanced remainder is the conversion to a
signed 32-bit integer. -/
def hashUnit (hash : Int) (unit : Nat) : Int := Int.bmod (hash * 31 + unit) (2 ^ 32)

/-- A deterministic colour for a participant id. -/
def colorForParticipant (pid : ParticipantId) : String :=
  let hash := (pid.value.toList.flatMap utf16Units).foldl hashUnit 0
  participantColors.getD (hash.natAbs % participantColors.length) ""

def createParticipant (pid : ParticipantId) (now : Int) : Participant where
  pid := pid
  color := colorForParticipant pid
  presence := emptyPresence
  lastSeenAt := now
  docWidth := 0
  docHeight := 0
  dpr := 1

def touchParticipant (participant : Participant) (now : Int) : Participant :=
  { participant with lastSeenAt := now }

def withViewport (participant : Participant) (docWidth docHeight dpr : ℚ) : Participant :=
  { participant with docWidth, docHeight, dpr }

end Copresence
