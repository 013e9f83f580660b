import Copresence.Lib.JsonRoundTrip
import Copresence.Protocol.Schemas

/-! Frames as texts: what the client and the server write on the wire, and how
the server decodes a text. -/
namespace Copresence

open JsonText

mutual

/-- What the schemas see of a value. A number that is not finite is none. -/
def JsValue.toJson : JsValue → Json
  | .undefined => .null
  | .null => .null
  | .bool value => .bool value
  | .number (.finite value) => .number value
  | .number _ => .null
  | .string text => .string text
  | .array items => .array (itemsToJson items)
  | .object fields => .object (fieldsToJson fields)

def itemsToJson : List JsValue → List Json
  | [] => []
  | item :: items => item.toJson :: itemsToJson items

def fieldsToJson : List (String × JsValue) → List (String × Json)
  | [] => []
  | (key, value) :: fields => (key, value.toJson) :: fieldsToJson fields

end

mutual

def Json.toJs : Json → JsValue
  | .null => .null
  | .bool value => .bool value
  | .number value => .number (.finite value)
  | .string text => .string text
  | .array items => .array (itemsToJs items)
  | .object fields => .object (fieldsToJs fields)

def itemsToJs : List Json → List JsValue
  | [] => []
  | item :: items => item.toJs :: itemsToJs items

def fieldsToJs : List (String × Json) → List (String × JsValue)
  | [] => []
  | (key, value) :: fields => (key, value.toJs) :: fieldsToJs fields

end

theorem toJson_toJs (value : Json) : value.toJs.toJson = value := by
  refine @Json.rec (fun value => value.toJs.toJson = value)
    (fun items => itemsToJson (itemsToJs items) = items)
    (fun fields => fieldsToJson (fieldsToJs fields) = fields)
    (fun field => field.2.toJs.toJson = field.2)
    rfl (fun _ => rfl) (fun _ => rfl) (fun _ => rfl) ?array ?object rfl ?item rfl ?field
    (fun _ _ ih => ih) value
  case array => exact fun items ih => congrArg Json.array ih
  case object => exact fun fields ih => congrArg Json.object ih
  case item =>
    intro item items first later
    rw [itemsToJs, itemsToJson, first, later]
  case field =>
    intro field fields first later
    rw [fieldsToJs, fieldsToJson, first, later]

/-- Such a value has nothing in it that gets lost. -/
theorem json_toJs (value : Json) : json value.toJs = value.toJs := by
  refine @Json.rec (fun value => json value.toJs = value.toJs)
    (fun items => jsonItems (itemsToJs items) = itemsToJs items)
    (fun fields => jsonFields (fieldsToJs fields) = fieldsToJs fields)
    (fun field => json field.2.toJs = field.2.toJs)
    rfl (fun _ => rfl) (fun _ => rfl) (fun _ => rfl) ?array ?object rfl ?item rfl ?field
    (fun _ _ ih => ih) value
  case array => exact fun items ih => congrArg JsValue.array ih
  case object => exact fun fields ih => congrArg JsValue.object ih
  case item =>
    intro item items first later
    rw [itemsToJs, jsonItems, first, later]
  case field =>
    intro field fields first later
    obtain ⟨key, value⟩ := field
    have kept : jsonFields ((key, value.toJs) :: fieldsToJs fields) =
        (key, json value.toJs) :: jsonFields (fieldsToJs fields) := by
      cases value <;> rfl
    rw [fieldsToJs, kept, first, later]

/-- `JSON.stringify` of a message. -/
def InboundMessage.text (msg : InboundMessage) : String := String.ofList (written msg.toJson.toJs)

/-- What `decodeInbound` makes of a text: `message` words an issue, `describe`
the exception of a text that is no value. -/
def RawFrame.ofText (message : IssueCode → String) (describe : String → String) (raw : String) :
    RawFrame :=
  match parse raw with
  | none => .unparsable (describe raw)
  | some value => .ofJson message value.toJson

/-- All numbers of a message are numbers of the language. -/
def InboundMessage.Doubles (msg : InboundMessage) : Prop :=
  ∀ field ∈ msg.envelope.fields msg.t ++ msg.ownFields, ∀ value, field.2 = .number value →
    IsDouble (.finite value)

theorem fieldsToJs_keys (fields : List (String × Json)) :
    (fieldsToJs fields).map Prod.fst = fields.map Prod.fst := by
  induction fields with
  | nil => rfl
  | cons field fields ih =>
      rw [fieldsToJs, List.map_cons, List.map_cons, ih]

/-- Fields of texts and numbers can be written. -/
theorem fieldsWellFormed_toJs {fields : List (String × Json)}
    (flat : ∀ field ∈ fields, (∃ text, field.2 = .string text) ∨
      ∃ value, field.2 = .number value ∧ IsDouble (.finite value)) :
    FieldsWellFormed (fieldsToJs fields) := by
  induction fields with
  | nil => trivial
  | cons field fields ih =>
      refine ⟨?_, ih fun other listed => flat other (List.mem_cons_of_mem _ listed)⟩
      rcases flat field List.mem_cons_self with ⟨text, same⟩ | ⟨value, same, double⟩
      · rw [same]
        trivial
      · rw [same]
        exact double

namespace InboundMessage

variable {msg : InboundMessage}

theorem keys_nodup (msg : InboundMessage) :
    ((msg.envelope.fields msg.t ++ msg.ownFields).map Prod.fst).Nodup := by
  cases msg with
  | audit msg =>
      obtain ⟨envelope, eventId, body⟩ := msg
      cases body <;> simp [Envelope.fields, ownFields, AuditBody.fields]
  | _ => simp [Envelope.fields, ownFields]

/-- A field is a text or a number. -/
theorem flat (msg : InboundMessage) : ∀ field ∈ msg.envelope.fields msg.t ++ msg.ownFields,
    (∃ text, field.2 = .string text) ∨ ∃ value, field.2 = .number value := by
  cases msg with
  | audit msg =>
      obtain ⟨envelope, eventId, body⟩ := msg
      cases body <;> simp [Envelope.fields, ownFields, AuditBody.fields]
  | _ => simp [Envelope.fields, ownFields]

theorem wellFormed_toJs (doubles : msg.Doubles) : WellFormed msg.toJson.toJs := by
  refine ⟨?_, fieldsWellFormed_toJs ?_⟩
  · rw [fieldsToJs_keys]
    exact msg.keys_nodup
  · intro field listed
    rcases msg.flat field listed with text | ⟨value, same⟩
    · exact Or.inl text
    · exact Or.inr ⟨value, same, doubles field listed value same⟩

/-- The server reads of a message's text just what was written. -/
theorem ofText_text (message : IssueCode → String) (describe : String → String)
    (doubles : msg.Doubles) :
    RawFrame.ofText message describe msg.text = .ofJson message msg.toJson := by
  rw [RawFrame.ofText, text, parse_written (wellFormed_toJs doubles), json_toJs]
  dsimp only
  rw [toJson_toJs]

end InboundMessage

def ErrorCode.text : ErrorCode → String
  | malformedJson => "malformed-json"
  | validationFailed => "validation-failed"
  | versionMismatch => "version-mismatch"
  | unauthorized => "unauthorized"
  | rateLimited => "rate-limited"
  | internal => "internal"

/-- A property that is not there where there is no value. -/
def optionalField (key : String) : Option ℚ → List (String × JsValue)
  | none => []
  | some value => [(key, .number (.finite value))]

def ParticipantSnapshot.toJs (participant : ParticipantSnapshot) : JsValue :=
  .object ([("pid", .string participant.pid.value), ("color", .string participant.color),
    ("lastSeenAt", .number (.finite participant.lastSeenAt))] ++
      optionalField "x" participant.x ++ optionalField "y" participant.y ++
        optionalField "scrollX" participant.scrollX ++ optionalField "scrollY" participant.scrollY)

def ParticipantPatch.toJs (patch : ParticipantPatch) : JsValue :=
  .object ([("pid", .string patch.pid.value)] ++ optionalField "x" patch.x ++
    optionalField "y" patch.y ++ optionalField "scrollX" patch.scrollX ++
      optionalField "scrollY" patch.scrollY)

def OutboundEnvelope.opening (t : MessageType) (envelope : OutboundEnvelope) :
    List (String × JsValue) :=
  [("v", .number (.finite envelope.v)), ("t", .string t.text), ("sid", .string envelope.sid.value)]

def OutboundEnvelope.stamp (envelope : OutboundEnvelope) : List (String × JsValue) :=
  [("seq", .number (.finite envelope.seq)), ("ts", .number (.finite envelope.ts))]

namespace OutboundMessage

/-- The fields a message has before its numbers and after them, in the order in
which the server builds it. -/
def ownFields : OutboundMessage → List (String × JsValue) × List (String × JsValue)
  | welcome msg =>
    ([("pid", .string msg.pid.value)],
      [("participants", .array (msg.participants.map ParticipantSnapshot.toJs))])
  | join msg => ([], [("participant", msg.participant.toJs)])
  | leave msg => ([], [("pid", .string msg.pid.value)])
  | patch msg => ([], [("patches", .array (msg.patches.map ParticipantPatch.toJs))])
  | snapshot msg => ([], [("participants", .array (msg.participants.map ParticipantSnapshot.toJs))])
  | pong msg => ([], [("pingTs", .number (.finite msg.pingTs))])
  | auditAck msg => ([], [("eventId", .string msg.eventId.value)])
  | error msg => ([], [("code", .string msg.code.text), ("detail", .string msg.detail)])

def toJs (message : OutboundMessage) : JsValue :=
  .object (message.envelope.opening message.t ++ message.ownFields.1 ++ message.envelope.stamp ++
    message.ownFields.2)

end OutboundMessage

/-- `JSON.stringify` of a message. -/
def encodeOutbound (message : OutboundMessage) : String := String.ofList (written message.toJs)

end Copresence
