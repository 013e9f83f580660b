import Copresence.Lib.Following
import Copresence.Controllers.Realtime

/-! What the sockets are told of a roster: a `welcome` lists it, a `join` adds
to it and a `leave` takes from it. -/
namespace Copresence

open Collections Following

def OutboundMessage.notice? : OutboundMessage → Option (Notice ParticipantId)
  | .welcome msg => some (.whole (msg.participants.map ParticipantSnapshot.pid))
  | .join msg => some (.added msg.participant.pid)
  | .leave msg => some (.removed msg.pid)
  | .patch _ | .snapshot _ | .pong _ | .auditAck _ | .error _ => none

/-- What the writes to a socket tell of the roster, in order. -/
def noticesTo (socket : SocketId) (writes : List Write) : List (Notice ParticipantId) :=
  writes.filterMap fun write => if write.socket = socket then write.message.notice? else none

/-- The pids of the last `welcome` to the socket, with every `join` since added
and every `leave` since removed. -/
def announced (writes : List Write) (socket : SocketId) : Finset ParticipantId :=
  follow ∅ (noticesTo socket writes)

/-- A socket is told of two lists in their order. -/
theorem noticesTo_append (socket : SocketId) (first second : List Write) :
    noticesTo socket (first ++ second) = noticesTo socket first ++ noticesTo socket second :=
  List.filterMap_append

/-- Messages about no roster tell a socket nothing. -/
theorem noticesTo_silent {socket : SocketId} {writes : List Write}
    (silent : ∀ write ∈ writes, write.socket = socket → write.message.notice? = none) :
    noticesTo socket writes = [] := by
  rw [noticesTo, List.filterMap_eq_nil_iff]
  intro write hw
  split
  · next hs => exact silent write hw hs
  · rfl

/-- What is written to other sockets tells this one nothing. -/
theorem noticesTo_elsewhere {socket : SocketId} {writes : List Write}
    (elsewhere : ∀ write ∈ writes, write.socket ≠ socket) : noticesTo socket writes = [] :=
  noticesTo_silent fun write hw hs => absurd hs (elsewhere write hw)

namespace BroadcastHub

/-- Every registration is for its participant's one session, the peers of a
session are those registered for it, and no two share a socket. -/
structure Seated (home : ParticipantId → SessionId) (hub : BroadcastHub) : Prop where
  atHome : ∀ pid connection, hub.registration pid = some connection → connection.sid = home pid
  peers : ∀ sid pid, pid ∈ hub.participantsOf sid ↔
    ∃ connection, hub.registration pid = some connection ∧ connection.sid = sid
  apart : ∀ pid other first second, hub.registration pid = some first →
    hub.registration other = some second → first.socket = second.socket → pid = other

variable {home : ParticipantId → SessionId} {hub : BroadcastHub} {isOpen : SocketId → Bool}

theorem empty_seated (home : ParticipantId → SessionId) : Seated home empty where
  atHome := by
    intro pid connection h
    cases h
  peers := by
    intro sid pid
    constructor
    · intro h
      cases h
    · intro ⟨connection, h, _⟩
      cases h
  apart := by
    intro pid other first second h
    cases h

/-- Unregistering somebody leaves everybody else seated. -/
theorem Seated.unregister (seated : hub.Seated home) (pid : ParticipantId) :
    (hub.unregister pid).Seated home := by
  refine ⟨?_, ?_, ?_⟩
  · intro other connection h
    exact seated.atHome other connection (registration_of_unregister h).2
  · intro sid other
    rw [mem_participantsOf_unregister, seated.peers, registration_unregister]
    by_cases ho : other = pid
    · subst ho
      simp
    · simp [ho]
  · intro first second _ _ hFirst hSecond hs
    exact seated.apart first second _ _ (registration_of_unregister hFirst).2
      (registration_of_unregister hSecond).2 hs

/-- Registering somebody at home on a free socket leaves all seated. -/
theorem Seated.register (seated : hub.Seated home) {connection : Connection}
    (hHome : connection.sid = home connection.pid)
    (seat : ∀ other taken, hub.registration other = some taken →
      taken.socket = connection.socket → other = connection.pid) :
    (hub.register connection).Seated home := by
  refine ⟨?_, ?_, ?_⟩
  · intro other found h
    rw [registration_register] at h
    split at h
    · next ho => rw [← Option.some.inj h, ho, hHome]
    · exact seated.atHome other found h
  · intro sid other
    rw [mem_participantsOf_register, seated.peers, registration_register]
    by_cases ho : other = connection.pid
    · subst ho
      simp only [and_true, if_true, Option.some.injEq, exists_eq_left']
      constructor
      · rintro (hs | ⟨found, hf, hs⟩)
        · exact hs.symm
        · rw [← hs, seated.atHome _ _ hf, hHome]
      · intro hs
        exact Or.inl hs.symm
    · simp [ho]
  · intro first second taken other hFirst hSecond hs
    rw [registration_register] at hFirst hSecond
    split at hFirst
    · next hf =>
        split at hSecond
        · next h => rw [hf, h]
        · next h =>
            rw [← Option.some.inj hFirst] at hs
            rw [hf, seat second other hSecond hs.symm]
    · split at hSecond
      · next h =>
          rw [← Option.some.inj hSecond] at hs
          rw [h, seat first taken hFirst hs]
      · exact seated.apart first second taken other hFirst hSecond hs

/-- Somebody registered on an open socket is told there what it is sent. -/
theorem noticesTo_sendTo {pid : ParticipantId} {connection : Connection}
    (registered : hub.registration pid = some connection) (opened : isOpen connection.socket = true)
    (message : OutboundMessage) :
    noticesTo connection.socket (hub.sendTo isOpen pid message) = message.notice?.toList := by
  rw [registration] at registered
  rw [sendTo, registered]
  dsimp only
  rw [if_pos opened, noticesTo, List.filterMap_cons, if_pos rfl]
  cases message.notice? <;> rfl

/-- What is sent to a participant tells no other socket anything. -/
theorem noticesTo_sendTo_elsewhere {pid : ParticipantId} {socket : SocketId}
    (elsewhere : ∀ connection, hub.registration pid = some connection →
      isOpen connection.socket = true → connection.socket ≠ socket) (message : OutboundMessage) :
    noticesTo socket (hub.sendTo isOpen pid message) = [] := by
  apply noticesTo_elsewhere
  intro write hw
  obtain ⟨connection, registered, opened, rfl⟩ := mem_sendTo.mp hw
  exact elsewhere connection registered opened

/-- A list in which one item has something to give gives that. -/
theorem flatMap_of_unique {ι β : Type*} {items : List ι} (nodup : items.Nodup) {item : ι}
    (hm : item ∈ items) {give : ι → List β} (others : ∀ other ∈ items, other ≠ item → give other = []) :
    items.flatMap give = give item := by
  induction items with
  | nil => cases hm
  | cons first items ih =>
      rw [List.nodup_cons] at nodup
      rw [List.flatMap_cons]
      rcases List.mem_cons.mp hm with rfl | hm
      · have nothing : items.flatMap give = [] := by
          rw [List.flatMap_eq_nil_iff]
          intro other ho
          exact others other (List.mem_cons_of_mem _ ho) fun h => nodup.1 (h ▸ ho)
        rw [nothing, List.append_nil]
      · have different : first ≠ item := fun h => nodup.1 (h ▸ hm)
        rw [others first List.mem_cons_self different, List.nil_append,
          ih nodup.2 hm fun other ho => others other (List.mem_cons_of_mem _ ho)]

/-- Everybody registered for the session on an open socket is told once. -/
theorem Seated.noticesTo_broadcast (seated : hub.Seated home) {sid : SessionId}
    {pid excluded : ParticipantId} {connection : Connection}
    (registered : hub.registration pid = some connection) (hs : connection.sid = sid)
    (opened : isOpen connection.socket = true) (another : pid ≠ excluded)
    (message : OutboundMessage) :
    noticesTo connection.socket (hub.broadcastToSession isOpen sid message (some excluded)) =
      message.notice?.toList := by
  have listed : pid ∈ hub.participantsOf sid := (seated.peers sid pid).mpr ⟨_, registered, hs⟩
  have nodup : (hub.participantsOf sid).Nodup := JsMap.nodup_keys _
  have own : noticesTo connection.socket
      (if some pid = some excluded then [] else hub.sendTo isOpen pid message) =
        message.notice?.toList := by
    rw [if_neg (fun h => another (Option.some.inj h)), noticesTo_sendTo registered opened]
  rw [← own, noticesTo, broadcastToSession, List.filterMap_flatMap]
  apply flatMap_of_unique nodup listed
  intro other _ different
  split
  · rfl
  · apply noticesTo_sendTo_elsewhere
    intro found hf _ same
    exact different (seated.apart other pid found connection hf registered same)

/-- Nobody else is told. -/
theorem Seated.noticesTo_broadcast_elsewhere (seated : hub.Seated home) {sid : SessionId}
    {excluded : ParticipantId} {socket : SocketId}
    (elsewhere : ∀ pid connection, hub.registration pid = some connection → connection.sid = sid →
      isOpen connection.socket = true → pid ≠ excluded → connection.socket ≠ socket)
    (message : OutboundMessage) :
    noticesTo socket (hub.broadcastToSession isOpen sid message (some excluded)) = [] := by
  apply noticesTo_elsewhere
  intro write hw
  obtain ⟨pid, listed, another, hw⟩ := mem_broadcastToSession.mp hw
  obtain ⟨connection, registered, opened, rfl⟩ := mem_sendTo.mp hw
  obtain ⟨found, hf, hs⟩ := (seated.peers sid pid).mp listed
  cases registered.symm.trans hf
  exact elsewhere pid connection registered hs opened fun h => another (congrArg some h)

/-- A socket over which a broadcast to all but one is heard. -/
def Hears (hub : BroadcastHub) (isOpen : SocketId → Bool) (sid : SessionId)
    (excluded : ParticipantId) (socket : SocketId) : Prop :=
  ∃ pid connection, hub.registration pid = some connection ∧ connection.sid = sid ∧
    isOpen connection.socket = true ∧ pid ≠ excluded ∧ connection.socket = socket

theorem Seated.noticesTo_broadcast_cases (seated : hub.Seated home)
    (isOpen : SocketId → Bool) (sid : SessionId) (excluded : ParticipantId) (socket : SocketId)
    (message : OutboundMessage) :
    hub.Hears isOpen sid excluded socket ∧
        noticesTo socket (hub.broadcastToSession isOpen sid message (some excluded)) =
          message.notice?.toList ∨
      ¬hub.Hears isOpen sid excluded socket ∧
        noticesTo socket (hub.broadcastToSession isOpen sid message (some excluded)) = [] := by
  by_cases hears : hub.Hears isOpen sid excluded socket
  · obtain ⟨pid, connection, registered, hs, opened, another, rfl⟩ := hears
    exact Or.inl ⟨⟨pid, connection, registered, hs, opened, another, rfl⟩,
      seated.noticesTo_broadcast registered hs opened another message⟩
  · refine Or.inr ⟨hears, seated.noticesTo_broadcast_elsewhere ?_ message⟩
    intro pid connection registered hs opened another same
    exact hears ⟨pid, connection, registered, hs, opened, another, same⟩

/-- Which broadcasts a registered participant hears. -/
theorem Seated.hears_iff (seated : hub.Seated home) {pid excluded : ParticipantId}
    {connection : Connection} (registered : hub.registration pid = some connection)
    (opened : isOpen connection.socket = true) (sid : SessionId) :
    hub.Hears isOpen sid excluded connection.socket ↔ connection.sid = sid ∧ pid ≠ excluded := by
  constructor
  · intro ⟨other, found, hf, hs, _, another, same⟩
    obtain rfl := seated.apart other pid found connection hf registered same
    cases hf.symm.trans registered
    exact ⟨hs, another⟩
  · intro ⟨hs, another⟩
    exact ⟨pid, connection, registered, hs, opened, another, rfl⟩

/-- What a broadcast to all but one adds to what a registered participant knows. -/
theorem Seated.announced_broadcast (seated : hub.Seated home) {pid excluded : ParticipantId}
    {connection : Connection} (registered : hub.registration pid = some connection)
    (opened : isOpen connection.socket = true) (another : pid ≠ excluded) (sid : SessionId)
    (message : OutboundMessage) (outbound : List Write) :
    announced (outbound ++ hub.broadcastToSession isOpen sid message (some excluded))
        connection.socket =
      if connection.sid = sid then
        follow (announced outbound connection.socket) message.notice?.toList
      else announced outbound connection.socket := by
  rw [announced, noticesTo_append, follow_append]
  rcases seated.noticesTo_broadcast_cases isOpen sid excluded connection.socket message with
    ⟨hears, heard⟩ | ⟨deaf, heard⟩
  · rw [heard, if_pos ((seated.hears_iff registered opened sid).mp hears).1]
    rfl
  · rw [heard, if_neg fun hs => deaf ((seated.hears_iff registered opened sid).mpr ⟨hs, another⟩)]
    rfl

/-- It fits every socket if it fits those it is heard on. -/
theorem Seated.exact_broadcast (seated : hub.Seated home) (sid : SessionId)
    (excluded : ParticipantId) (message : OutboundMessage) {outbound : List Write}
    {socket : SocketId} (exact_before : Exact ∅ (noticesTo socket outbound))
    (fits : ∀ pid connection, hub.registration pid = some connection → connection.sid = sid →
      isOpen connection.socket = true → pid ≠ excluded → connection.socket = socket →
        Exact (announced outbound socket) message.notice?.toList) :
    Exact ∅ (noticesTo socket
      (outbound ++ hub.broadcastToSession isOpen sid message (some excluded))) := by
  rw [noticesTo_append, exact_append]
  constructor
  · exact exact_before
  · rcases seated.noticesTo_broadcast_cases isOpen sid excluded socket message with
      ⟨hears, heard⟩ | ⟨_, heard⟩
    · obtain ⟨pid, connection, registered, hs, opened, another, same⟩ := hears
      rw [heard]
      exact fits pid connection registered hs opened another same
    · rw [heard]
      trivial

end BroadcastHub

end Copresence
