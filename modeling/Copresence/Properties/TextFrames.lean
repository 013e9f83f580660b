import Copresence.Properties.WellTyped
import Copresence.Protocol.Text

/-! Messages as the texts on the wire: the server decodes of a client's message
what was sent, and a page makes of the server's texts what it makes of the
messages. -/
namespace Copresence

open JsonText Transition

/-- A message of this version is decoded from its text as itself exactly when it
is in range. -/
theorem decodeInbound_text_iff {msg : InboundMessage} (current : msg.envelope.v = protocolVersion)
    (doubles : msg.Doubles) (message : IssueCode → String) (describe : String → String) :
    decodeInbound (.ofText message describe msg.text) = .ok msg ↔ msg.InRange := by
  rw [InboundMessage.ofText_text message describe doubles]
  exact decodeInbound_toJson_iff current message

/-- Integers up to two to the 53rd are numbers of 64 bits. -/
theorem isDouble_intCast {n : Int} (h : |n| ≤ 2 ^ 53) : IsDouble (.finite n) :=
  ⟨Floating.integer n h, rfl⟩

/-- A ping with the largest number there is for one. -/
def lastPing : PingMessage where
  v := protocolVersion
  sid := ⟨"s", nonempty_s⟩
  pid := ⟨"a", nonempty_a⟩
  seq := maxSafeInteger
  ts := 0

/-- The ping with the largest number is decoded of its text. -/
theorem decodeInbound_text_iff_lastPing :
    decodeInbound (.ofText (fun _ => "issue") (fun _ => "error")
      (InboundMessage.ping lastPing).text) = .ok (.ping lastPing) ↔
        (InboundMessage.ping lastPing).InRange := by
  apply decodeInbound_text_iff rfl
  have small : ∀ n : Int, |n| ≤ 2 ^ 53 → IsDouble (.finite n) := fun n => isDouble_intCast
  have version := small 1 (by decide)
  have seq := small maxSafeInteger (by decide)
  have ts := small 0 (by decide)
  intro field listed value same
  simp only [InboundMessage.envelope, Envelope.fields, InboundMessage.ownFields, List.append_nil,
    List.mem_cons, List.not_mem_nil, or_false] at listed
  rcases listed with rfl | rfl | rfl | rfl | rfl | rfl <;> cases same
  · exact version
  · exact seq
  · exact ts

def ParticipantSnapshot.numbers (participant : ParticipantSnapshot) : List ℚ :=
  (participant.lastSeenAt : ℚ) :: (participant.x.toList ++ participant.y.toList ++
    participant.scrollX.toList ++ participant.scrollY.toList)

def ParticipantPatch.numbers (patch : ParticipantPatch) : List ℚ :=
  patch.x.toList ++ patch.y.toList ++ patch.scrollX.toList ++ patch.scrollY.toList

namespace OutboundMessage

def ownNumbers : OutboundMessage → List ℚ
  | welcome msg => msg.participants.flatMap ParticipantSnapshot.numbers
  | join msg => msg.participant.numbers
  | patch msg => msg.patches.flatMap ParticipantPatch.numbers
  | snapshot msg => msg.participants.flatMap ParticipantSnapshot.numbers
  | pong msg => [(msg.pingTs : ℚ)]
  | leave _ => []
  | auditAck _ => []
  | error _ => []

/-- All numbers of a message are numbers of the language. -/
def Doubles (message : OutboundMessage) : Prop :=
  ∀ value ∈ [(message.envelope.v : ℚ), (message.envelope.seq : ℚ), (message.envelope.ts : ℚ)] ++
    message.ownNumbers, IsDouble (.finite value)

end OutboundMessage

section Elements

/-- A snapshot holds nothing the format has no words for. -/
theorem ParticipantSnapshot.json_toJs (participant : ParticipantSnapshot) :
    json participant.toJs = participant.toJs := by
  obtain ⟨pid, color, x, y, scrollX, scrollY, lastSeenAt⟩ := participant
  cases x <;> cases y <;> cases scrollX <;> cases scrollY <;> rfl

/-- A patch holds nothing the format has no words for. -/
theorem ParticipantPatch.json_toJs (patch : ParticipantPatch) : json patch.toJs = patch.toJs := by
  obtain ⟨pid, x, y, scrollX, scrollY⟩ := patch
  cases x <;> cases y <;> cases scrollX <;> cases scrollY <;> rfl

/-- A snapshot of 64-bit numbers is well formed. -/
theorem ParticipantSnapshot.wellFormed_toJs {participant : ParticipantSnapshot}
    (doubles : ∀ value ∈ participant.numbers, IsDouble (.finite value)) :
    WellFormed participant.toJs := by
  obtain ⟨pid, color, x, y, scrollX, scrollY, lastSeenAt⟩ := participant
  simp only [ParticipantSnapshot.numbers, List.forall_mem_cons, List.forall_mem_append,
    Option.mem_toList] at doubles
  cases x <;> cases y <;> cases scrollX <;> cases scrollY <;>
    simp_all [ParticipantSnapshot.toJs, optionalField, WellFormed, FieldsWellFormed]

/-- A patch of 64-bit numbers is well formed. -/
theorem ParticipantPatch.wellFormed_toJs {patch : ParticipantPatch}
    (doubles : ∀ value ∈ patch.numbers, IsDouble (.finite value)) : WellFormed patch.toJs := by
  obtain ⟨pid, x, y, scrollX, scrollY⟩ := patch
  simp only [ParticipantPatch.numbers, List.forall_mem_append, Option.mem_toList] at doubles
  cases x <;> cases y <;> cases scrollX <;> cases scrollY <;>
    simp_all [ParticipantPatch.toJs, optionalField, WellFormed, FieldsWellFormed]

/-- A page reads of a snapshot's value what the snapshot holds. -/
theorem ParticipantSnapshot.carries_toJs (participant : ParticipantSnapshot) :
    Untyped.CarriesSnapshot participant.toJs participant := by
  obtain ⟨pid, color, x, y, scrollX, scrollY, lastSeenAt⟩ := participant
  cases x <;> cases y <;> cases scrollX <;> cases scrollY <;>
    exact ⟨⟨rfl, rfl, rfl, rfl, rfl⟩, rfl⟩

/-- A page reads of a patch's value what the patch holds. -/
theorem ParticipantPatch.carries_toJs (patch : ParticipantPatch) :
    Untyped.CarriesPatch patch.toJs patch := by
  obtain ⟨pid, x, y, scrollX, scrollY⟩ := patch
  cases x <;> cases y <;> cases scrollX <;> cases scrollY <;> exact ⟨rfl, rfl, rfl, rfl, rfl⟩

/-- A list of values carries its elements one by one. -/
theorem forall₂_map_toJs {α : Type} {C : JsValue → α → Prop} {toJs : α → JsValue}
    (carries : ∀ element, C (toJs element) element) (elements : List α) :
    List.Forall₂ C (elements.map toJs) elements := by
  rw [List.forall₂_map_left_iff]
  exact List.forall₂_same.mpr fun element _ => carries element

end Elements

namespace OutboundMessage

variable {message : OutboundMessage}

/-- A message of the server holds nothing the format has no words for. -/
theorem json_toJs (message : OutboundMessage) : json message.toJs = message.toJs := by
  have items : ∀ {α : Type} {toJs : α → JsValue}, (∀ element, json (toJs element) = toJs element) →
      ∀ elements : List α, jsonItems (elements.map toJs) = elements.map toJs := by
    intro α toJs kept elements
    apply jsonItems_eq_self
    intro item listed
    obtain ⟨element, _, rfl⟩ := List.mem_map.mp listed
    exact kept element
  cases message with
  | welcome msg =>
      show JsValue.object [_, _, _, _, _, _, ("participants", .array (jsonItems _))] = _
      rw [items ParticipantSnapshot.json_toJs]
      rfl
  | join msg =>
      show JsValue.object [_, _, _, _, _, ("participant", json msg.participant.toJs)] = _
      rw [ParticipantSnapshot.json_toJs]
      rfl
  | patch msg =>
      show JsValue.object [_, _, _, _, _, ("patches", .array (jsonItems _))] = _
      rw [items ParticipantPatch.json_toJs]
      rfl
  | snapshot msg =>
      show JsValue.object [_, _, _, _, _, ("participants", .array (jsonItems _))] = _
      rw [items ParticipantSnapshot.json_toJs]
      rfl
  | _ => rfl

/-- No two fields of a message have one name. -/
theorem keys_nodup (message : OutboundMessage) :
    ((message.envelope.opening message.t ++ message.ownFields.1 ++ message.envelope.stamp ++
      message.ownFields.2).map Prod.fst).Nodup := by
  cases message <;> simp [ownFields, OutboundEnvelope.opening, OutboundEnvelope.stamp]

/-- A message of 64-bit numbers is well formed. -/
theorem wellFormed_toJs (doubles : message.Doubles) : WellFormed message.toJs := by
  have items : ∀ {α : Type} {toJs : α → JsValue} {numbers : α → List ℚ},
      (∀ element, (∀ value ∈ numbers element, IsDouble (.finite value)) →
        WellFormed (toJs element)) →
      ∀ elements : List α, (∀ value ∈ elements.flatMap numbers, IsDouble (.finite value)) →
        AllWellFormed (elements.map toJs) := by
    intro α toJs numbers wellFormed elements doubles
    rw [allWellFormed_iff]
    intro item listed
    obtain ⟨element, held, rfl⟩ := List.mem_map.mp listed
    apply wellFormed
    intro value hv
    exact doubles value (List.mem_flatMap.mpr ⟨element, held, hv⟩)
  rw [Doubles, List.forall_mem_append] at doubles
  obtain ⟨envelope, own⟩ := doubles
  simp only [List.forall_mem_cons] at envelope
  obtain ⟨v, seq, ts, _⟩ := envelope
  refine ⟨message.keys_nodup, ?_⟩
  cases message with
  | welcome msg =>
      exact ⟨v, trivial, trivial, trivial, seq, ts,
        items (fun _ => ParticipantSnapshot.wellFormed_toJs) _ own, trivial⟩
  | join msg =>
      exact ⟨v, trivial, trivial, seq, ts, ParticipantSnapshot.wellFormed_toJs own, trivial⟩
  | leave msg =>
      exact ⟨v, trivial, trivial, seq, ts, trivial, trivial⟩
  | patch msg =>
      exact ⟨v, trivial, trivial, seq, ts,
        items (fun _ => ParticipantPatch.wellFormed_toJs) _ own, trivial⟩
  | snapshot msg =>
      exact ⟨v, trivial, trivial, seq, ts,
        items (fun _ => ParticipantSnapshot.wellFormed_toJs) _ own, trivial⟩
  | pong msg =>
      exact ⟨v, trivial, trivial, seq, ts, own _ List.mem_cons_self, trivial⟩
  | auditAck msg =>
      exact ⟨v, trivial, trivial, seq, ts, trivial, trivial⟩
  | error msg =>
      exact ⟨v, trivial, trivial, seq, ts, trivial, trivial, trivial⟩

/-- A page reads of a message's value what the message holds. -/
theorem carries_toJs (message : OutboundMessage) : Untyped.Carries message.toJs message := by
  cases message with
  | welcome msg =>
      exact ⟨rfl, _, rfl, forall₂_map_toJs ParticipantSnapshot.carries_toJs msg.participants⟩
  | snapshot msg =>
      exact ⟨rfl, _, rfl, forall₂_map_toJs ParticipantSnapshot.carries_toJs msg.participants⟩
  | join msg => exact ⟨rfl, msg.participant.carries_toJs⟩
  | leave msg => exact ⟨rfl, rfl⟩
  | patch msg =>
      exact ⟨rfl, rfl, _, rfl, forall₂_map_toJs ParticipantPatch.carries_toJs msg.patches⟩
  | pong msg => exact ⟨rfl, rfl⟩
  | auditAck msg => exact rfl
  | error msg => exact rfl

theorem get_v (message : OutboundMessage) :
    message.toJs.get "v" = .number (.finite message.envelope.v) := rfl

theorem get_t (message : OutboundMessage) : message.toJs.get "t" = .string message.t.text := rfl

end OutboundMessage

namespace Untyped

/-- A page takes the text of a message of its version for the message. -/
theorem parseOutboundFrame_encode {message : OutboundMessage}
    (current : message.envelope.v = protocolVersion) (doubles : message.Doubles) :
    parseOutboundFrame parse (.string (encodeOutbound message)) = some message.toJs := by
  have version : (message.envelope.v : ℚ) = protocolVersion := by rw [current]
  rw [parseOutboundFrame, encodeOutbound, parse_written (OutboundMessage.wellFormed_toJs doubles),
    OutboundMessage.json_toJs]
  dsimp only
  rw [OutboundMessage.get_v, OutboundMessage.get_t]
  dsimp only
  rw [if_pos version]

namespace Client

variable (stringToNumber : String → JsNumber) (onLatency : Bool)

/-- What the page is left with of a text that arrives at this time. -/
def readText (client : Client) (delivery : Int × String) : Completion Client :=
  client.handleRawMessage (fun _ => delivery.1) parse stringToNumber onLatency (.string delivery.2)

/-- An exception ends one message's turn only. -/
def stepText (client : Client) (delivery : Int × String) : Client :=
  (client.readText stringToNumber onLatency delivery).state

end Client

def textOf (delivery : Int × OutboundMessage) : Int × String :=
  (delivery.1, encodeOutbound delivery.2)

/-- Reading a message's text is receiving the message. -/
theorem readText_agrees (stringToNumber : String → JsNumber) (onLatency : Bool) {client : Client}
    {typed : Copresence.Client} (agrees : Agrees client typed) {delivery : Int × OutboundMessage}
    (current : delivery.2.envelope.v = protocolVersion) (doubles : delivery.2.Doubles) :
    ∃ after, client.readText stringToNumber onLatency (textOf delivery) = .normal after ∧
      Agrees after (typed.routeMessage delivery.1 delivery.2) := by
  have counted : Agrees { client with frames := client.frames + 1 } typed :=
    ⟨agrees.pid, agrees.remotes, agrees.named, agrees.seq⟩
  obtain ⟨after, routed, agreed⟩ := routeMessage_agrees counted delivery.1 stringToNumber onLatency
    delivery.2.carries_toJs
  refine ⟨after, ?_, agreed⟩
  rw [Client.readText, Client.handleRawMessage, textOf, parseOutboundFrame_encode current doubles]
  exact routed

/-- Whatever the server sends, in whatever order: a page that is given the texts
throws nothing and holds what it would hold had it been given the messages. -/
theorem pages_read_texts (stringToNumber : String → JsNumber) (onLatency : Bool) (client : Client)
    (typed : Copresence.Client) (deliveries : List (Int × OutboundMessage))
    (agrees : Agrees client typed)
    (sent : ∀ delivery ∈ deliveries,
      delivery.2.envelope.v = protocolVersion ∧ delivery.2.Doubles) :
    Along (Client.stepText stringToNumber onLatency)
        (fun client delivery => (client.readText stringToNumber onLatency delivery).Returns) client
        (deliveries.map textOf) ∧
      Agrees (run (Client.stepText stringToNumber onLatency) client (deliveries.map textOf))
        (typed.receive deliveries) := by
  induction deliveries generalizing client typed with
  | nil => exact ⟨trivial, agrees⟩
  | cons delivery deliveries ih =>
      obtain ⟨⟨current, doubles⟩, later⟩ := List.forall_mem_cons.mp sent
      obtain ⟨after, read, agreed⟩ :=
        readText_agrees stringToNumber onLatency agrees current doubles
      have stepped : client.stepText stringToNumber onLatency (textOf delivery) = after := by
        rw [Client.stepText, read]
        rfl
      obtain ⟨returns, held⟩ := ih after (typed.routeMessage delivery.1 delivery.2) agreed later
      rw [List.map_cons, Along, run_cons, stepped]
      exact ⟨⟨⟨after, read⟩, returns⟩, held⟩

theorem blank_agrees (pid : ParticipantId) : Agrees { pid := pid.value } { pid } where
  pid := rfl
  remotes := fun _ => rfl
  named := by
    intro key held
    cases held
  seq := rfl

def movedPatch : PatchMessage where
  sid := ⟨"s", nonempty_s⟩
  seq := 1
  ts := 50
  patches := [{ pid := ⟨"b", nonempty_b⟩, x := some 1, y := some 2 }]

/-- A patch is read off its text. -/
theorem pages_read_texts_moved :
    Agrees (run (Client.stepText (fun _ => .nan) false) { pid := "a" }
        [(60, encodeOutbound (.patch movedPatch))])
      (({ pid := ⟨"a", nonempty_a⟩ } : Copresence.Client).receive [(60, .patch movedPatch)]) := by
  have small : ∀ n : Int, |n| ≤ 2 ^ 53 → IsDouble (.finite n) := fun n => isDouble_intCast
  have one := small 1 (by decide)
  have two := small 2 (by decide)
  have fifty := small 50 (by decide)
  refine (pages_read_texts (fun _ => .nan) false _ _ [(60, .patch movedPatch)]
    (blank_agrees ⟨"a", nonempty_a⟩) ?_).2
  rw [List.forall_mem_singleton]
  refine ⟨rfl, ?_⟩
  norm_num [OutboundMessage.Doubles, OutboundMessage.ownNumbers, OutboundMessage.envelope,
    ParticipantPatch.numbers, movedPatch, protocolVersion] at one two fifty ⊢
  exact ⟨one, fifty, one, two⟩

end Untyped

end Copresence
