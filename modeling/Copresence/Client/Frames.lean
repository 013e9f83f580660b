import Copresence.Lib.Completion
import Copresence.Lib.JsMap
import Copresence.Lib.JsValue
import Copresence.Protocol.Messages

/-! What the client makes of a frame before anybody has checked that it is what
its type says. Only the version and the type of a frame are looked at; the rest
is read from whatever `JSON.parse` made of it. The callbacks of the host page
are taken to return, and what they are given is left out, as is the drawing. -/
namespace Copresence.Untyped

open Collections Transition

/-- A key of the roster. An object is the same key as itself only: it is known
by the frame that brought it and its place in the list there. -/
inductive RemoteKey where
  | undefined
  | null
  | bool (value : Bool)
  | number (value : JsNumber)
  | string (value : String)
  | object (frame place : Nat)
deriving DecidableEq

def RemoteKey.of (frame place : Nat) : JsValue → RemoteKey
  | .undefined => undefined
  | .null => null
  | .bool value => bool value
  | .number value => number value
  | .string value => string value
  | .array _ => object frame place
  | .object _ => object frame place

structure RemoteCursorPoint where
  x : JsValue
  y : JsValue
  t : Int

structure RemoteParticipant where
  color : JsValue
  lastSeenAt : Int
  cursorPrev : Option RemoteCursorPoint := none
  cursorLatest : Option RemoteCursorPoint := none
  scroll : Option (JsValue × JsValue) := none

/-- The position a frame gives, if both coordinates are there. -/
def position (value : JsValue) (first second : String) : Option (JsValue × JsValue) :=
  if (value.get first).isDefined && (value.get second).isDefined then
    some (value.get first, value.get second)
  else none

def RemoteParticipant.moveCursor (participant : RemoteParticipant) (now : Int) :
    Option (JsValue × JsValue) → RemoteParticipant
  | none => participant
  | some (x, y) =>
    { participant with
      cursorPrev := participant.cursorLatest, cursorLatest := some { x, y, t := now } }

def RemoteParticipant.moveScroll (participant : RemoteParticipant) :
    Option (JsValue × JsValue) → RemoteParticipant
  | none => participant
  | some scroll => { participant with scroll := some scroll }

structure ScrollFollow where
  followingPid : Option String := none
  programmatic : Bool := false
deriving DecidableEq

namespace ScrollFollow

/-- The argument is missing where the pid is. -/
def isFollowing (follow : ScrollFollow) : JsValue → Bool
  | .undefined => follow.followingPid.isSome
  | .string pid => decide (follow.followingPid = some pid)
  | _ => false

def beginProgrammaticScroll (follow : ScrollFollow) : ScrollFollow :=
  { follow with programmatic := true }

def endProgrammaticScroll (follow : ScrollFollow) : ScrollFollow :=
  { follow with programmatic := false }

/-- The window turns the coordinates into numbers, or throws. -/
def followScrollTo (follow : ScrollFollow) (target : JsValue × JsValue) :
    Completion ScrollFollow :=
  let follow := follow.beginProgrammaticScroll
  if target.1.Convertible ∧ target.2.Convertible then .normal follow.endProgrammaticScroll
  else .thrown follow

end ScrollFollow

/-- The number of the last patch: any value that could once be compared. -/
structure PatchSeq where
  value : JsValue
  primitive : Primitive
  converted : value.toPrimitive = some primitive

def PatchSeq.minusInfinity : PatchSeq where
  value := .number (.infinity true)
  primitive := .number (.infinity true)
  converted := rfl

/-- `frames` counts the frames routed so far. -/
structure Client where
  pid : String
  remotes : JsMap RemoteKey RemoteParticipant := JsMap.empty
  lastPatchSeq : PatchSeq := .minusInfinity
  scrollFollow : ScrollFollow := {}
  frames : Nat := 0

/-- Only envelope and version are checked. -/
def parseOutboundFrame (parse : String → Option JsValue) : JsValue → Option JsValue
  | .string raw =>
    match parse raw with
    | none => none
    | some parsed =>
      match parsed.get "v", parsed.get "t" with
      | .number (.finite v), .string _ => if v = protocolVersion then some parsed else none
      | _, _ => none
  | _ => none

namespace Client

variable (clock : Nat → Int)

def forget (client : Client) (key : RemoteKey) : Client :=
  { client with remotes := client.remotes.delete key }

/-- What an element of a list, with its place there, is kept under. -/
def keyOf (client : Client) (turn : JsValue × Nat) : RemoteKey :=
  RemoteKey.of client.frames turn.2 (turn.1.get "pid")

/-- What `upsertRemote` does with a participant it can read. -/
def upserted (client : Client) (turn : JsValue × Nat) : Client :=
  let participant := turn.1
  if (participant.get "pid").isText client.pid then client
  else
    let now := clock turn.2
    let existing := client.remotes.get? (client.keyOf turn)
    let next := existing.getD { color := participant.get "color", lastSeenAt := now }
    let next := { next with color := participant.get "color", lastSeenAt := now }
    let next := next.moveCursor now (position participant "x" "y")
    let next := next.moveScroll (position participant "scrollX" "scrollY")
    { client with remotes := client.remotes.set (client.keyOf turn) next }

def upsertRemote (client : Client) (turn : JsValue × Nat) : Completion Client :=
  if turn.1.isNullish then .thrown client else .normal (client.upserted clock turn)

def forgetUnseen (client : Client) (participants : List JsValue) : Client :=
  let seen := participants.zipIdx.map client.keyOf
  let unseen := client.remotes.keys.filter fun known => known ∉ seen
  unseen.foldl forget client

/-- The pids are read off all participants before anything is changed. -/
def seedRoster (client : Client) : JsValue → Completion Client
  | .array participants =>
    if participants.any JsValue.isNullish then .thrown client
    else Completion.forOf (upsertRemote clock) (client.forgetUnseen participants) participants.zipIdx
  | _ => .thrown client

/-- What a patch makes of the participant it is about. -/
def next (client : Client) (turn : JsValue × Nat) : RemoteParticipant :=
  let now := clock turn.2
  let existing := client.remotes.get? (client.keyOf turn)
  let next := existing.getD { color := .string "#888888", lastSeenAt := now }
  let next := { next with lastSeenAt := now }
  let next := next.moveCursor now (position turn.1 "x" "y")
  next.moveScroll (position turn.1 "scrollX" "scrollY")

/-- The scroll position to follow, if a patch brings one of somebody followed. -/
def followed (client : Client) (patch : JsValue) : Option (JsValue × JsValue) :=
  if client.scrollFollow.isFollowing (patch.get "pid") then position patch "scrollX" "scrollY"
  else none

def applyPatch (client : Client) (turn : JsValue × Nat) : Completion Client :=
  let patch := turn.1
  if patch.isNullish then .thrown client
  else if (patch.get "pid").isText client.pid then .normal client
  else
    let existing := client.remotes.get? (client.keyOf turn)
    let remotes := client.remotes.set (client.keyOf turn) (client.next clock turn)
    match client.followed patch with
    | none => .normal { client with remotes }
    | some target =>
      match client.scrollFollow.followScrollTo target with
      | .normal scrollFollow => .normal { client with remotes, scrollFollow }
      | .thrown scrollFollow =>
        -- a participant that was known is changed in place before it is set again
        .thrown { client with
          remotes := if existing.isSome then remotes else client.remotes, scrollFollow }

/-- The loop over the patches of a message. -/
def applyPatches (client : Client) (patches : JsValue) : Completion Client :=
  match patches.iterated with
  | none => .thrown client
  | some patches => Completion.forOf (applyPatch clock) client patches.zipIdx

/-- `onLatency` tells whether the page gave that callback. An acknowledgement
is confirmed later, where nothing thrown comes back. -/
def routeMessage (stringToNumber : String → JsNumber) (onLatency : Bool) (client : Client)
    (message : JsValue) : Completion Client :=
  match message.get "t" with
  | .string "welcome" => client.seedRoster clock (message.get "participants")
  | .string "snapshot" => client.seedRoster clock (message.get "participants")
  | .string "join" => client.upsertRemote clock (message.get "participant", 0)
  | .string "leave" => .normal (client.forget (RemoteKey.of client.frames 0 (message.get "pid")))
  | .string "patch" =>
    match converted : (message.get "seq").toPrimitive with
    | none => .thrown client
    | some primitive =>
      if primitive.atMost stringToNumber client.lastPatchSeq.primitive then .normal client
      else { client with lastPatchSeq := ⟨message.get "seq", primitive, converted⟩ }.applyPatches
        clock (message.get "patches")
  | .string "pong" =>
    if onLatency && !decide (message.get "pingTs").Convertible then .thrown client
    else .normal client
  | .string "audit.ack" => .normal client
  | .string "error" => .normal client
  | _ => .normal client

def handleRawMessage (parse : String → Option JsValue) (stringToNumber : String → JsNumber)
    (onLatency : Bool) (client : Client) (raw : JsValue) : Completion Client :=
  match parseOutboundFrame parse raw with
  | none => .normal client
  | some message =>
    { client with frames := client.frames + 1 }.routeMessage clock stringToNumber onLatency message

end Client

end Copresence.Untyped
