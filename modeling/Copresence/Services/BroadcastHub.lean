import Copresence.Lib.JsMap
import Copresence.Protocol.Messages

/-! Live connections by participant, and the sends made through them. -/
namespace Copresence

open Collections

/-- One accepted WebSocket. Ids are never reused within a server process. -/
abbrev SocketId := Nat

structure Connection where
  pid : ParticipantId
  sid : SessionId
  socket : SocketId
deriving DecidableEq, Repr

/-- One message handed to a socket's `send`; `recipient` is the participant the hub
addressed, and is absent for a frame written past the hub. -/
structure Write where
  recipient : Option ParticipantId
  socket : SocketId
  message : OutboundMessage
deriving DecidableEq, Repr

structure BroadcastHub where
  connections : JsMap ParticipantId Connection
  bySession : JsMap SessionId (JsSet ParticipantId)
deriving DecidableEq

namespace BroadcastHub

def empty : BroadcastHub := ⟨JsMap.empty, JsMap.empty⟩

def peersOf (hub : BroadcastHub) (sid : SessionId) : JsSet ParticipantId :=
  (hub.bySession.get? sid).getD JsMap.empty

def register (hub : BroadcastHub) (connection : Connection) : BroadcastHub where
  connections := hub.connections.set connection.pid connection
  bySession := hub.bySession.set connection.sid
    ((hub.peersOf connection.sid).add connection.pid)

def unregister (hub : BroadcastHub) (pid : ParticipantId) : BroadcastHub :=
  match hub.connections.get? pid with
  | none => hub
  | some connection =>
    let connections := hub.connections.delete pid
    match hub.bySession.get? connection.sid with
    | none => { hub with connections }
    | some peers =>
      let remaining := JsMap.delete peers pid
      if remaining.size = 0 then
        { connections, bySession := hub.bySession.delete connection.sid }
      else { connections, bySession := hub.bySession.set connection.sid remaining }

def isConnected (hub : BroadcastHub) (pid : ParticipantId) : Bool := hub.connections.has pid

def participantsOf (hub : BroadcastHub) (sid : SessionId) : List ParticipantId :=
  (hub.peersOf sid).toList

/-- The write `sendTo` makes; `isOpen` is `readyState === OPEN` of a socket. -/
def sendTo (hub : BroadcastHub) (isOpen : SocketId → Bool) (pid : ParticipantId)
    (message : OutboundMessage) : List Write :=
  match hub.connections.get? pid with
  | none => []
  | some connection =>
    if isOpen connection.socket then [{ recipient := some pid, socket := connection.socket, message }]
    else []

/-- Sends to every participant in `sid` except, optionally, one. -/
def broadcastToSession (hub : BroadcastHub) (isOpen : SocketId → Bool) (sid : SessionId)
    (message : OutboundMessage) (exclude : Option ParticipantId) : List Write :=
  (hub.participantsOf sid).flatMap fun pid =>
    if some pid = exclude then [] else hub.sendTo isOpen pid message

/-- The current registration of a participant. -/
def registration (hub : BroadcastHub) (pid : ParticipantId) : Option Connection :=
  hub.connections.get? pid

/-- Registering somebody replaces that registration and no other. -/
theorem registration_register (hub : BroadcastHub) (connection : Connection)
    (pid : ParticipantId) :
    (hub.register connection).registration pid =
      if pid = connection.pid then some connection else hub.registration pid :=
  JsMap.get?_set hub.connections connection.pid pid connection

/-- Unregistering somebody takes away that registration and no other. -/
theorem registration_unregister (hub : BroadcastHub) (pid other : ParticipantId) :
    (hub.unregister pid).registration other =
      if other = pid then none else hub.registration other := by
  rw [unregister, registration]
  split
  · next h =>
      split
      · next he => rw [he, h]
      · rfl
  · dsimp only
    split
    · exact JsMap.get?_delete hub.connections pid other
    · split
      · exact JsMap.get?_delete hub.connections pid other
      · exact JsMap.get?_delete hub.connections pid other

/-- Whoever is registered after an unregistering was registered before. -/
theorem registration_of_unregister {hub : BroadcastHub} {pid other : ParticipantId}
    {connection : Connection} (h : (hub.unregister pid).registration other = some connection) :
    other ≠ pid ∧ hub.registration other = some connection := by
  rw [registration_unregister] at h
  split at h
  · cases h
  · next hne => exact ⟨hne, h⟩

/-- Registering somebody adds it to the peers of its session. -/
theorem mem_participantsOf_register {hub : BroadcastHub} {connection : Connection}
    {sid : SessionId} {pid : ParticipantId} :
    pid ∈ (hub.register connection).participantsOf sid ↔
      (sid = connection.sid ∧ pid = connection.pid) ∨ pid ∈ hub.participantsOf sid := by
  unfold participantsOf peersOf register
  rw [JsMap.get?_set]
  by_cases hs : sid = connection.sid
  · subst hs
    simp [JsSet.mem_toList_add, peersOf]
  · simp [hs]

/-- Only the set of the registered session loses the participant. -/
theorem mem_participantsOf_unregister {hub : BroadcastHub} {pid other : ParticipantId}
    {sid : SessionId} :
    other ∈ (hub.unregister pid).participantsOf sid ↔
      other ∈ hub.participantsOf sid ∧
        ¬ (other = pid ∧ ∃ connection, hub.registration pid = some connection ∧
          connection.sid = sid) := by
  rw [unregister, registration]
  split
  · next h => simp [h]
  · next connection h =>
      dsimp only
      unfold participantsOf peersOf
      split
      · next hb =>
          by_cases hs : connection.sid = sid
          · subst hs
            simp [hb, JsSet.toList, JsMap.keys, JsMap.empty]
          · simp [h, hs]
      · next peers hb =>
          split
          · next hz =>
              rw [JsMap.get?_delete]
              by_cases hs : sid = connection.sid
              · subst hs
                have hn : other ∉ JsSet.toList (JsMap.delete peers pid) := by
                  rw [JsSet.toList, ← JsMap.get?_eq_none_iff]
                  exact JsMap.size_eq_zero_iff.mp hz other
                rw [JsSet.mem_toList_delete] at hn
                simp only [ite_true, Option.getD_none, hb, Option.getD_some, h]
                simp only [JsSet.toList, JsMap.keys, JsMap.empty, List.map_nil, List.not_mem_nil,
                  false_iff, Option.some.injEq, exists_eq_left', and_true]
                exact fun hm => hn ⟨hm.2, hm.1⟩
              · simp [hs, h, Ne.symm hs]
          · rw [JsMap.get?_set]
            by_cases hs : sid = connection.sid
            · subst hs
              simp only [ite_true, Option.getD_some, JsSet.mem_toList_delete, hb, h,
                Option.some.injEq, exists_eq_left', and_true]
              exact and_comm
            · simp [hs, h, Ne.symm hs]

/-- A send goes to the socket of the current registration, when it is open. -/
theorem mem_sendTo {hub : BroadcastHub} {isOpen : SocketId → Bool} {pid : ParticipantId}
    {message : OutboundMessage} {write : Write} :
    write ∈ hub.sendTo isOpen pid message ↔
      ∃ connection, hub.registration pid = some connection ∧ isOpen connection.socket = true ∧
        write = { recipient := some pid, socket := connection.socket, message } := by
  rw [sendTo, registration]
  split
  · next h => simp [h]
  · next connection h =>
      split
      · next ho => simp [h, ho]
      · next ho => simp [h, ho]

/-- A broadcast goes to the session's peers but for the excluded one. -/
theorem mem_broadcastToSession {hub : BroadcastHub} {isOpen : SocketId → Bool} {sid : SessionId}
    {message : OutboundMessage} {exclude : Option ParticipantId} {write : Write} :
    write ∈ hub.broadcastToSession isOpen sid message exclude ↔
      ∃ pid ∈ hub.participantsOf sid, some pid ≠ exclude ∧
        write ∈ hub.sendTo isOpen pid message := by
  simp only [broadcastToSession, List.mem_flatMap]
  constructor
  · intro ⟨pid, hm, hw⟩
    split at hw
    · cases hw
    · next hne => exact ⟨pid, hm, hne, hw⟩
  · intro ⟨pid, hm, hne, hw⟩
    exact ⟨pid, hm, by rwa [if_neg hne]⟩

end BroadcastHub

end Copresence
