import Copresence.Lib.Validated
import Copresence.Protocol.Messages
import Mathlib.Algebra.Order.Ring.Rat

/-! The schemas of the inbound messages, over the values `JSON.parse` reads, and
the values `JSON.stringify` writes. -/
namespace Copresence

inductive Json where
  | null
  | bool (value : Bool)
  | number (value : ℚ)
  | string (value : String)
  | array (items : List Json)
  | object (fields : List (String × Json))

def Json.get (key : String) : Json → Option Json
  | object fields => fields.lookup key
  | _ => none

/-- `Number.MAX_SAFE_INTEGER`. -/
def maxSafeInteger : Int := 2 ^ 53 - 1

/-- What an issue complains of. -/
inductive IssueCode where
  | invalidType (expected : String)
  | tooSmall (minimum : ℚ) (inclusive : Bool)
  | tooBig (maximum : ℚ)
  | invalidValue (values : List String)
  | invalidUnion
deriving DecidableEq, Repr

structure Issue where
  path : List String
  code : IssueCode
deriving DecidableEq, Repr

/-- The line `decodeInbound` reports; `message` words a code. -/
def Issue.text (message : IssueCode → String) (issue : Issue) : String :=
  let path := ".".intercalate issue.path
  (if path = "" then "(root)" else path) ++ ": " ++ message issue.code

/-- The checks that `z.number()` is refined by. -/
inductive NumberCheck where
  | int
  | positive
  | nonnegative
  | min (bound : ℚ)
  | max (bound : ℚ)
deriving DecidableEq, Repr

namespace NumberCheck

def Passes (q : ℚ) : NumberCheck → Prop
  | int => q.den = 1 ∧ -maxSafeInteger ≤ q.num ∧ q.num ≤ maxSafeInteger
  | positive => 0 < q
  | nonnegative => 0 ≤ q
  | min bound => bound ≤ q
  | max bound => q ≤ bound

/-- The issues a number raises. One that is no integer gets no further. -/
def issues (q : ℚ) : List NumberCheck → List IssueCode
  | [] => []
  | int :: checks =>
    if q.den ≠ 1 then [.invalidType "int"]
    else if q.num < -maxSafeInteger then .tooSmall (-maxSafeInteger) true :: issues q checks
    else if maxSafeInteger < q.num then .tooBig maxSafeInteger :: issues q checks
    else issues q checks
  | positive :: checks => (if 0 < q then [] else [.tooSmall 0 false]) ++ issues q checks
  | nonnegative :: checks => (if 0 ≤ q then [] else [.tooSmall 0 true]) ++ issues q checks
  | min bound :: checks => (if bound ≤ q then [] else [.tooSmall bound true]) ++ issues q checks
  | max bound :: checks => (if q ≤ bound then [] else [.tooBig bound]) ++ issues q checks

/-- A number has no issue when it passes every check. -/
theorem issues_eq_nil_iff {q : ℚ} {checks : List NumberCheck} :
    issues q checks = [] ↔ ∀ check ∈ checks, check.Passes q := by
  induction checks with
  | nil => simp [issues]
  | cons check checks ih =>
      rw [List.forall_mem_cons, ← ih]
      cases check with
      | int =>
          rw [issues, Passes]
          split
          · next fraction => simp [fraction]
          · next whole =>
              rw [not_not] at whole
              split
              · next low => simp [low]
              · next notLow =>
                  split
                  · next high => simp [high]
                  · next notHigh => simp [whole, not_lt.mp notLow, not_lt.mp notHigh]
      | positive => simp [issues, Passes]
      | nonnegative => simp [issues, Passes]
      | min bound => simp [issues, Passes]
      | max bound => simp [issues, Passes]

end NumberCheck

namespace Schema

def number (checks : List NumberCheck) (key : String) (value : Json) : Validated Issue ℚ :=
  match value.get key with
  | some (.number q) =>
    match NumberCheck.issues q checks with
    | [] => .valid q
    | codes => .invalid (codes.map (Issue.mk [key]))
  | _ => .invalid [⟨[key], .invalidType "number"⟩]

/-- `z.number().int()`, with what refines it further. -/
def integer (checks : List NumberCheck) (key : String) (value : Json) : Validated Issue Int :=
  (number (.int :: checks) key value).map Rat.num

/-- `z.string().min(1)`. -/
def nonempty {Id : Type} (brand : (text : String) → text ≠ "" → Id) (key : String)
    (value : Json) : Validated Issue Id :=
  match value.get key with
  | some (.string text) =>
    if filled : text ≠ "" then .valid (brand text filled)
    else .invalid [⟨[key], .tooSmall 1 true⟩]
  | _ => .invalid [⟨[key], .invalidType "string"⟩]

/-- `z.enum`, over the options by their texts. -/
def enum {α : Type} (text : α → String) (options : List α) (key : String) (value : Json) :
    Validated Issue α :=
  match value.get key with
  | some (.string found) =>
    match options.find? fun option => text option = found with
    | some option => .valid option
    | none => .invalid [⟨[key], .invalidValue (options.map text)⟩]
  | _ => .invalid [⟨[key], .invalidValue (options.map text)⟩]

variable {key : String} {value : Json}

/-- A number field is valid when it holds a number that passes the checks. -/
theorem number_eq_valid_iff {checks : List NumberCheck} {q : ℚ} :
    number checks key value = .valid q ↔
      value.get key = some (.number q) ∧ ∀ check ∈ checks, check.Passes q := by
  rw [← NumberCheck.issues_eq_nil_iff, number]
  split
  · next found he =>
      rw [he]
      split
      · next none => grind
      · next codes some => grind
  · next other => grind

/-- An integer field is valid when it holds a safe integer that passes the checks. -/
theorem integer_eq_valid_iff {checks : List NumberCheck} {n : Int} :
    integer checks key value = .valid n ↔
      value.get key = some (.number n) ∧ -maxSafeInteger ≤ n ∧ n ≤ maxSafeInteger ∧
        ∀ check ∈ checks, check.Passes n := by
  rw [integer, Validated.map_eq_valid_iff]
  simp only [number_eq_valid_iff, List.forall_mem_cons, NumberCheck.Passes]
  constructor
  · rintro ⟨q, ⟨found, ⟨whole, low, high⟩, rest⟩, rfl⟩
    have same : (q.num : ℚ) = q := Rat.coe_int_num_of_den_eq_one whole
    rw [same]
    exact ⟨found, low, high, rest⟩
  · rintro ⟨found, low, high, rest⟩
    exact ⟨n, ⟨found, ⟨Rat.den_intCast n, by simpa using low, by simpa using high⟩, rest⟩,
      Rat.num_intCast n⟩

/-- An id field is valid when it holds a text that is not empty. -/
theorem nonempty_eq_valid_iff {Id : Type} {brand : (text : String) → text ≠ "" → Id} {id : Id} :
    nonempty brand key value = .valid id ↔
      ∃ text filled, value.get key = some (.string text) ∧ brand text filled = id := by
  rw [nonempty]
  split
  · next text he =>
      rw [he]
      split
      · next filled => simp [filled]
      · next empty => simp_all
  · next other => grind

/-- A field of fixed options is valid when it holds the text of one of them. -/
theorem enum_eq_valid_iff {α : Type} {text : α → String} {options : List α}
    (distinct : Function.Injective text) {option : α} (listed : option ∈ options) :
    enum text options key value = .valid option ↔
      value.get key = some (.string (text option)) := by
  rw [enum]
  split
  · next found he =>
      rw [he]
      split
      · next first hf =>
          have same : text first = found := by simpa using List.find?_some hf
          rw [← same, Option.some.injEq, Json.string.injEq, distinct.eq_iff,
            Validated.valid.injEq]
      · next missing =>
          have other : text option ≠ found := by
            simpa using List.find?_eq_none.mp missing option listed
          simp [other.symm]
  · next other => grind

end Schema

def MessageType.text : MessageType → String
  | cursor => "cursor"
  | scroll => "scroll"
  | patch => "patch"
  | hello => "hello"
  | bye => "bye"
  | join => "join"
  | leave => "leave"
  | welcome => "welcome"
  | snapshot => "snapshot"
  | ping => "ping"
  | pong => "pong"
  | ack => "ack"
  | auditAck => "audit.ack"
  | error => "error"
  | sessionStart => "session.start"
  | sessionEnd => "session.end"
  | participantJoin => "participant.join"
  | participantLeave => "participant.leave"
  | visibilityChange => "visibility.change"

def VisibilityState.text : VisibilityState → String
  | visible => "visible"
  | hidden => "hidden"

namespace Schema

def visibilityState : String → Json → Validated Issue VisibilityState :=
  enum VisibilityState.text [.visible, .hidden]

def endReason : String → Json → Validated Issue EndReason :=
  enum EndReason.text [.navigate, .close, .crashRecovered]

def BaseEnvelopeSchema (value : Json) : Validated Issue Envelope :=
  ((((integer [.positive] "v" value).map fun v sid pid seq ts =>
    { v := v.toNat, sid, pid, seq, ts : Envelope }).seq
    (nonempty SessionId.mk "sid" value)).seq
    (nonempty ParticipantId.mk "pid" value)).seq
    (integer [.nonnegative] "seq" value) |>.seq
    (integer [.nonnegative] "ts" value)

def HelloMessageSchema (value : Json) : Validated Issue HelloMessage :=
  ((((BaseEnvelopeSchema value).map fun envelope docWidth docHeight dpr visibilityState =>
    { envelope with docWidth, docHeight, dpr, visibilityState : HelloMessage }).seq
    (number [.positive] "docWidth" value)).seq
    (number [.positive] "docHeight" value)).seq
    (number [.positive] "dpr" value) |>.seq
    (visibilityState "visibilityState" value)

def CursorMessageSchema (value : Json) : Validated Issue CursorMessage :=
  (((BaseEnvelopeSchema value).map fun envelope x y => { envelope with x, y : CursorMessage }).seq
    (number [.min 0, .max 1] "x" value)).seq
    (number [.min 0] "y" value)

def ScrollMessageSchema (value : Json) : Validated Issue ScrollMessage :=
  (((BaseEnvelopeSchema value).map fun envelope scrollX scrollY =>
    { envelope with scrollX, scrollY : ScrollMessage }).seq
    (number [.min 0] "scrollX" value)).seq
    (number [.min 0] "scrollY" value)

def AckMessageSchema (value : Json) : Validated Issue AckMessage :=
  ((BaseEnvelopeSchema value).map fun envelope acked => { envelope with acked : AckMessage }).seq
    (integer [.nonnegative] "acked" value)

def PingMessageSchema (value : Json) : Validated Issue PingMessage :=
  (BaseEnvelopeSchema value).map fun envelope => { envelope with }

def ByeMessageSchema (value : Json) : Validated Issue ByeMessage :=
  (BaseEnvelopeSchema value).map fun envelope => { envelope with }

/-- `AuditEnvelopeSchema`, extended by what the message says beyond it. -/
def AuditMessageSchema (body : Json → Validated Issue AuditBody) (value : Json) :
    Validated Issue AuditMessage :=
  (((BaseEnvelopeSchema value).map fun envelope eventId body =>
    { envelope with eventId, body : AuditMessage }).seq
    (nonempty EventId.mk "eventId" value)).seq
    (body value)

def SessionStartMessageSchema : Json → Validated Issue AuditMessage :=
  AuditMessageSchema fun _ => .valid .sessionStart

def SessionEndMessageSchema : Json → Validated Issue AuditMessage :=
  AuditMessageSchema fun value => (endReason "reason" value).map .sessionEnd

def ParticipantJoinMessageSchema : Json → Validated Issue AuditMessage :=
  AuditMessageSchema fun _ => .valid .participantJoin

def ParticipantLeaveMessageSchema : Json → Validated Issue AuditMessage :=
  AuditMessageSchema fun _ => .valid .participantLeave

def VisibilityChangeMessageSchema : Json → Validated Issue AuditMessage :=
  AuditMessageSchema fun value =>
    (visibilityState "visibilityState" value).map .visibilityChange

/-- The schema of each type of message a client may send. -/
def options : List (String × (Json → Validated Issue InboundMessage)) :=
  [(MessageType.hello.text, fun value => (HelloMessageSchema value).map .hello),
    (MessageType.cursor.text, fun value => (CursorMessageSchema value).map .cursor),
    (MessageType.scroll.text, fun value => (ScrollMessageSchema value).map .scroll),
    (MessageType.ack.text, fun value => (AckMessageSchema value).map .ack),
    (MessageType.ping.text, fun value => (PingMessageSchema value).map .ping),
    (MessageType.bye.text, fun value => (ByeMessageSchema value).map .bye),
    (MessageType.sessionStart.text, fun value => (SessionStartMessageSchema value).map .audit),
    (MessageType.sessionEnd.text, fun value => (SessionEndMessageSchema value).map .audit),
    (MessageType.participantJoin.text,
      fun value => (ParticipantJoinMessageSchema value).map .audit),
    (MessageType.participantLeave.text,
      fun value => (ParticipantLeaveMessageSchema value).map .audit),
    (MessageType.visibilityChange.text,
      fun value => (VisibilityChangeMessageSchema value).map .audit)]

/-- The union on `t`. -/
def InboundMessageSchema (value : Json) : Validated Issue InboundMessage :=
  match value with
  | .object fields =>
    match fields.lookup "t" with
    | some (.string t) =>
      match options.lookup t with
      | some schema => schema value
      | none => .invalid [⟨["t"], .invalidUnion⟩]
    | _ => .invalid [⟨["t"], .invalidUnion⟩]
  | _ => .invalid [⟨[], .invalidType "object"⟩]

end Schema

/-- What `decodeInbound` goes on with once a frame has been parsed to a value. -/
def RawFrame.ofJson (message : IssueCode → String) (value : Json) : RawFrame :=
  match Schema.InboundMessageSchema value with
  | .valid msg => .parsed msg
  | .invalid issues => .invalid (issues.map (Issue.text message))

def Envelope.fields (t : MessageType) (envelope : Envelope) : List (String × Json) :=
  [("v", .number envelope.v), ("t", .string t.text), ("sid", .string envelope.sid.value),
    ("pid", .string envelope.pid.value), ("seq", .number envelope.seq),
    ("ts", .number envelope.ts)]

def AuditBody.fields : AuditBody → List (String × Json)
  | sessionEnd reason => [("reason", .string reason.text)]
  | visibilityChange state => [("visibilityState", .string state.text)]
  | _ => []

/-- The fields of a message beyond its envelope. -/
def InboundMessage.ownFields : InboundMessage → List (String × Json)
  | hello msg =>
    [("docWidth", .number msg.docWidth), ("docHeight", .number msg.docHeight),
      ("dpr", .number msg.dpr), ("visibilityState", .string msg.visibilityState.text)]
  | cursor msg => [("x", .number msg.x), ("y", .number msg.y)]
  | scroll msg => [("scrollX", .number msg.scrollX), ("scrollY", .number msg.scrollY)]
  | ack msg => [("acked", .number msg.acked)]
  | ping _ => []
  | bye _ => []
  | audit msg => ("eventId", .string msg.eventId.value) :: msg.body.fields

/-- The value `JSON.stringify` writes of a message. -/
def InboundMessage.toJson (msg : InboundMessage) : Json :=
  .object (msg.envelope.fields msg.t ++ msg.ownFields)

/-- The integers that pass `z.number().int().nonnegative()`. -/
def Countable (n : Int) : Prop := 0 ≤ n ∧ n ≤ maxSafeInteger

structure Envelope.InRange (envelope : Envelope) : Prop where
  version : 0 < envelope.v ∧ (envelope.v : Int) ≤ maxSafeInteger
  seq : Countable envelope.seq
  ts : Countable envelope.ts

def InboundMessage.OwnInRange : InboundMessage → Prop
  | hello msg => 0 < msg.docWidth ∧ 0 < msg.docHeight ∧ 0 < msg.dpr
  | cursor msg => (0 ≤ msg.x ∧ msg.x ≤ 1) ∧ 0 ≤ msg.y
  | scroll msg => 0 ≤ msg.scrollX ∧ 0 ≤ msg.scrollY
  | ack msg => Countable msg.acked
  | ping _ => True
  | bye _ => True
  | audit _ => True

def InboundMessage.InRange (msg : InboundMessage) : Prop :=
  msg.envelope.InRange ∧ msg.OwnInRange

namespace Schema

variable {value : Json}

/-- Where the fields of an envelope stand in a value. -/
structure Carries (value : Json) (envelope : Envelope) : Prop where
  v : value.get "v" = some (.number envelope.v)
  sid : value.get "sid" = some (.string envelope.sid.value)
  pid : value.get "pid" = some (.string envelope.pid.value)
  seq : value.get "seq" = some (.number envelope.seq)
  ts : value.get "ts" = some (.number envelope.ts)

/-- The numbers of messages are the safe integers from zero on. -/
theorem countable_iff {n : Int} :
    (-maxSafeInteger ≤ n ∧ n ≤ maxSafeInteger ∧
      ∀ check ∈ [NumberCheck.nonnegative], check.Passes n) ↔ Countable n := by
  rw [List.forall_mem_singleton, NumberCheck.Passes, Countable, Rat.intCast_nonneg, maxSafeInteger]
  omega

/-- Versions are the safe integers from one on. -/
theorem version_iff {n : Int} :
    (-maxSafeInteger ≤ n ∧ n ≤ maxSafeInteger ∧
      ∀ check ∈ [NumberCheck.positive], check.Passes n) ↔ 0 < n ∧ n ≤ maxSafeInteger := by
  rw [List.forall_mem_singleton, NumberCheck.Passes, Rat.intCast_pos, maxSafeInteger]
  omega

/-- The envelope is valid when all its fields are there and in range. -/
theorem baseEnvelope_eq_valid_iff {envelope : Envelope} :
    BaseEnvelopeSchema value = .valid envelope ↔ Carries value envelope ∧ envelope.InRange := by
  rw [BaseEnvelopeSchema]
  simp only [Validated.seq_eq_valid_iff, Validated.map_eq_valid_iff, integer_eq_valid_iff,
    version_iff, countable_iff, nonempty_eq_valid_iff]
  constructor
  · rintro ⟨_, ts, ⟨_, seq, ⟨_, pid, ⟨_, sid, ⟨v, ⟨hv, positive, safe⟩, rfl⟩,
      ⟨sidText, sidFilled, hSid, rfl⟩, rfl⟩, ⟨pidText, pidFilled, hPid, rfl⟩, rfl⟩,
      ⟨hSeq, seqRange⟩, rfl⟩, ⟨hTs, tsRange⟩, rfl⟩
    have same : (v.toNat : Int) = v := Int.toNat_of_nonneg (Int.le_of_lt positive)
    refine ⟨⟨?_, hSid, hPid, hSeq, hTs⟩, ⟨?_, seqRange, tsRange⟩⟩
    · rw [hv, ← Int.cast_natCast, same]
    · exact ⟨Int.lt_toNat.mpr positive, by rw [same]; exact safe⟩
  · intro ⟨carries, range⟩
    refine ⟨_, envelope.ts, ⟨_, envelope.seq, ⟨_, envelope.pid, ⟨_, envelope.sid,
      ⟨envelope.v, ⟨carries.v, Int.natCast_pos.mpr range.version.1, range.version.2⟩, rfl⟩,
      ⟨_, envelope.sid.nonempty, carries.sid, rfl⟩, rfl⟩,
      ⟨_, envelope.pid.nonempty, carries.pid, rfl⟩, rfl⟩, ⟨carries.seq, range.seq⟩, rfl⟩,
      ⟨carries.ts, range.ts⟩, ?_⟩
    rfl

/-- A visibility field is valid when it holds the text of a state. -/
theorem visibilityState_eq_valid_iff {key : String} {state : VisibilityState} :
    visibilityState key value = .valid state ↔ value.get key = some (.string state.text) := by
  apply enum_eq_valid_iff
  · rintro (_ | _) (_ | _) <;> simp [VisibilityState.text]
  · cases state <;> simp

/-- A reason field is valid when it holds the text of a reason. -/
theorem endReason_eq_valid_iff {key : String} {reason : EndReason} :
    endReason key value = .valid reason ↔ value.get key = some (.string reason.text) := by
  apply enum_eq_valid_iff
  · rintro (_ | _ | _) (_ | _ | _) <;> simp [EndReason.text]
  · cases reason <;> simp

/-- A value has every field of a message, all of them in range. -/
structure Accepts (value : Json) (msg : InboundMessage) : Prop where
  carries : Carries value msg.envelope
  own : ∀ field ∈ msg.ownFields, value.get field.1 = some field.2
  inRange : msg.InRange

/-- `positive` asks for more than zero. -/
theorem positive_iff {q : ℚ} :
    (∀ check ∈ [NumberCheck.positive], check.Passes q) ↔ 0 < q :=
  List.forall_mem_singleton

/-- `min(0)` allows zero. -/
theorem atLeastZero_iff {q : ℚ} :
    (∀ check ∈ [NumberCheck.min 0], check.Passes q) ↔ 0 ≤ q :=
  List.forall_mem_singleton

/-- `min(0).max(1)` allows both ends. -/
theorem fraction_iff {q : ℚ} :
    (∀ check ∈ [NumberCheck.min 0, NumberCheck.max 1], check.Passes q) ↔ 0 ≤ q ∧ q ≤ 1 := by
  rw [List.forall_mem_cons, List.forall_mem_singleton, NumberCheck.Passes, NumberCheck.Passes]

/-- The schema of `hello` accepts what carries a hello in range. -/
theorem hello_eq_valid_iff {msg : HelloMessage} :
    HelloMessageSchema value = .valid msg ↔ Accepts value (.hello msg) := by
  simp only [HelloMessageSchema, Validated.seq_eq_valid_iff, Validated.map_eq_valid_iff,
    number_eq_valid_iff, visibilityState_eq_valid_iff, baseEnvelope_eq_valid_iff, positive_iff]
  constructor
  · rintro ⟨_, state, ⟨_, dpr, ⟨_, docHeight, ⟨_, docWidth, ⟨envelope, ⟨carries, range⟩, rfl⟩,
      ⟨hWidth, width⟩, rfl⟩, ⟨hHeight, height⟩, rfl⟩, ⟨hDpr, ratio⟩, rfl⟩, hState, rfl⟩
    refine ⟨carries, ?_, range, width, height, ratio⟩
    simp [InboundMessage.ownFields, hWidth, hHeight, hDpr, hState]
  · intro ⟨carries, own, range, width, height, ratio⟩
    simp only [InboundMessage.ownFields, List.forall_mem_cons] at own
    obtain ⟨hWidth, hHeight, hDpr, hState, _⟩ := own
    exact ⟨_, _, ⟨_, _, ⟨_, _, ⟨_, _, ⟨msg.toEnvelope, ⟨carries, range⟩, rfl⟩,
      ⟨hWidth, width⟩, rfl⟩, ⟨hHeight, height⟩, rfl⟩, ⟨hDpr, ratio⟩, rfl⟩, hState, rfl⟩

/-- The schema of `cursor` accepts what carries a cursor message in range. -/
theorem cursor_eq_valid_iff {msg : CursorMessage} :
    CursorMessageSchema value = .valid msg ↔ Accepts value (.cursor msg) := by
  simp only [CursorMessageSchema, Validated.seq_eq_valid_iff, Validated.map_eq_valid_iff,
    number_eq_valid_iff, baseEnvelope_eq_valid_iff, fraction_iff, atLeastZero_iff]
  constructor
  · rintro ⟨_, y, ⟨_, x, ⟨envelope, ⟨carries, range⟩, rfl⟩, ⟨hX, xRange⟩, rfl⟩, ⟨hY, yRange⟩, rfl⟩
    refine ⟨carries, ?_, range, xRange, yRange⟩
    simp [InboundMessage.ownFields, hX, hY]
  · intro ⟨carries, own, range, xRange, yRange⟩
    simp only [InboundMessage.ownFields, List.forall_mem_cons] at own
    exact ⟨_, _, ⟨_, _, ⟨msg.toEnvelope, ⟨carries, range⟩, rfl⟩,
      ⟨own.1, xRange⟩, rfl⟩, ⟨own.2.1, yRange⟩, rfl⟩

/-- The schema of `scroll` accepts what carries a scroll message in range. -/
theorem scroll_eq_valid_iff {msg : ScrollMessage} :
    ScrollMessageSchema value = .valid msg ↔ Accepts value (.scroll msg) := by
  simp only [ScrollMessageSchema, Validated.seq_eq_valid_iff, Validated.map_eq_valid_iff,
    number_eq_valid_iff, baseEnvelope_eq_valid_iff, atLeastZero_iff]
  constructor
  · rintro ⟨_, y, ⟨_, x, ⟨envelope, ⟨carries, range⟩, rfl⟩, ⟨hX, xRange⟩, rfl⟩, ⟨hY, yRange⟩, rfl⟩
    refine ⟨carries, ?_, range, xRange, yRange⟩
    simp [InboundMessage.ownFields, hX, hY]
  · intro ⟨carries, own, range, xRange, yRange⟩
    simp only [InboundMessage.ownFields, List.forall_mem_cons] at own
    exact ⟨_, _, ⟨_, _, ⟨msg.toEnvelope, ⟨carries, range⟩, rfl⟩, ⟨own.1, xRange⟩, rfl⟩,
      ⟨own.2.1, yRange⟩, rfl⟩

/-- The schema of `ack` accepts what carries an acknowledgement in range. -/
theorem ack_eq_valid_iff {msg : AckMessage} :
    AckMessageSchema value = .valid msg ↔ Accepts value (.ack msg) := by
  simp only [AckMessageSchema, Validated.map_seq_eq_valid_iff, integer_eq_valid_iff, countable_iff,
    baseEnvelope_eq_valid_iff]
  constructor
  · rintro ⟨envelope, acked, ⟨carries, range⟩, ⟨hAcked, countable⟩, rfl⟩
    refine ⟨carries, ?_, range, countable⟩
    simp [InboundMessage.ownFields, hAcked]
  · intro ⟨carries, own, range, countable⟩
    simp only [InboundMessage.ownFields, List.forall_mem_cons] at own
    exact ⟨msg.toEnvelope, msg.acked, ⟨carries, range⟩, ⟨own.1, countable⟩, rfl⟩

/-- The schema of `ping` accepts what carries a ping in range. -/
theorem ping_eq_valid_iff {msg : PingMessage} :
    PingMessageSchema value = .valid msg ↔ Accepts value (.ping msg) := by
  simp only [PingMessageSchema, Validated.map_eq_valid_iff, baseEnvelope_eq_valid_iff]
  constructor
  · rintro ⟨envelope, ⟨carries, range⟩, rfl⟩
    exact ⟨carries, nofun, range, trivial⟩
  · intro ⟨carries, _, range, _⟩
    exact ⟨msg.toEnvelope, ⟨carries, range⟩, rfl⟩

/-- The schema of `bye` accepts what carries a goodbye in range. -/
theorem bye_eq_valid_iff {msg : ByeMessage} :
    ByeMessageSchema value = .valid msg ↔ Accepts value (.bye msg) := by
  simp only [ByeMessageSchema, Validated.map_eq_valid_iff, baseEnvelope_eq_valid_iff]
  constructor
  · rintro ⟨envelope, ⟨carries, range⟩, rfl⟩
    exact ⟨carries, nofun, range, trivial⟩
  · intro ⟨carries, _, range, _⟩
    exact ⟨msg.toEnvelope, ⟨carries, range⟩, rfl⟩

/-- The schema of a report accepts what carries it in range, with a body of its kind. -/
theorem audit_eq_valid_iff {body : Json → Validated Issue AuditBody} {P : AuditBody → Prop}
    (reads : ∀ found, body value = .valid found ↔
      P found ∧ ∀ field ∈ found.fields, value.get field.1 = some field.2)
    {msg : AuditMessage} :
    AuditMessageSchema body value = .valid msg ↔ P msg.body ∧ Accepts value (.audit msg) := by
  simp only [AuditMessageSchema, Validated.seq_eq_valid_iff, Validated.map_eq_valid_iff,
    nonempty_eq_valid_iff, reads, baseEnvelope_eq_valid_iff]
  constructor
  · rintro ⟨_, found, ⟨_, eventId, ⟨envelope, ⟨carries, range⟩, rfl⟩,
      ⟨text, filled, hEventId, rfl⟩, rfl⟩, ⟨kind, hBody⟩, rfl⟩
    refine ⟨kind, carries, ?_, range, trivial⟩
    exact List.forall_mem_cons.mpr ⟨hEventId, hBody⟩
  · intro ⟨kind, carries, own, range, _⟩
    have fields := List.forall_mem_cons.mp own
    exact ⟨_, msg.body, ⟨_, msg.eventId, ⟨msg.toEnvelope, ⟨carries, range⟩, rfl⟩,
      ⟨msg.eventId.value, msg.eventId.nonempty, fields.1, rfl⟩, rfl⟩, ⟨kind, fields.2⟩, rfl⟩

section Bodies

variable {msg : AuditMessage}

/-- A message that adds nothing but its type. -/
theorem bare_eq_valid_iff {body : AuditBody} (bare : body.fields = []) :
    AuditMessageSchema (fun _ => .valid body) value = .valid msg ↔
      msg.body = body ∧ Accepts value (.audit msg) := by
  apply audit_eq_valid_iff (P := fun found => found = body)
  intro found
  rw [Validated.valid.injEq]
  constructor
  · rintro rfl
    rw [bare]
    exact ⟨rfl, nofun⟩
  · exact fun ⟨same, _⟩ => same.symm

/-- A report of an end carries its reason. -/
theorem sessionEnd_eq_valid_iff :
    SessionEndMessageSchema value = .valid msg ↔
      (∃ reason, msg.body = .sessionEnd reason) ∧ Accepts value (.audit msg) := by
  apply audit_eq_valid_iff (P := fun body => ∃ reason, body = .sessionEnd reason)
  intro found
  simp only [Validated.map_eq_valid_iff, endReason_eq_valid_iff]
  constructor
  · rintro ⟨reason, hReason, rfl⟩
    exact ⟨⟨reason, rfl⟩, List.forall_mem_singleton.mpr hReason⟩
  · rintro ⟨⟨reason, rfl⟩, own⟩
    exact ⟨reason, own ("reason", _) (List.mem_singleton_self _), rfl⟩

/-- A report of a change of visibility carries the state it changed to. -/
theorem visibilityChange_eq_valid_iff :
    VisibilityChangeMessageSchema value = .valid msg ↔
      (∃ state, msg.body = .visibilityChange state) ∧ Accepts value (.audit msg) := by
  apply audit_eq_valid_iff (P := fun body => ∃ state, body = .visibilityChange state)
  intro found
  simp only [Validated.map_eq_valid_iff, visibilityState_eq_valid_iff]
  constructor
  · rintro ⟨state, hState, rfl⟩
    exact ⟨⟨state, rfl⟩, List.forall_mem_singleton.mpr hState⟩
  · rintro ⟨⟨state, rfl⟩, own⟩
    exact ⟨state, own ("visibilityState", _) (List.mem_singleton_self _), rfl⟩

end Bodies

variable {msg : InboundMessage}

/-- Whatever schema the union chooses, it reads messages of that type only. -/
theorem option_sound {t : String} {schema : Json → Validated Issue InboundMessage}
    (chosen : (t, schema) ∈ options) (valid : schema value = .valid msg) :
    t = msg.t.text ∧ Accepts value msg := by
  simp only [options, List.mem_cons, Prod.mk.injEq, List.not_mem_nil, or_false] at chosen
  rcases chosen with ⟨rfl, rfl⟩ | ⟨rfl, rfl⟩ | ⟨rfl, rfl⟩ | ⟨rfl, rfl⟩ | ⟨rfl, rfl⟩ | ⟨rfl, rfl⟩ |
    ⟨rfl, rfl⟩ | ⟨rfl, rfl⟩ | ⟨rfl, rfl⟩ | ⟨rfl, rfl⟩ | ⟨rfl, rfl⟩ <;>
    obtain ⟨own, hv, rfl⟩ := Validated.map_eq_valid_iff.mp valid
  · exact ⟨rfl, hello_eq_valid_iff.mp hv⟩
  · exact ⟨rfl, cursor_eq_valid_iff.mp hv⟩
  · exact ⟨rfl, scroll_eq_valid_iff.mp hv⟩
  · exact ⟨rfl, ack_eq_valid_iff.mp hv⟩
  · exact ⟨rfl, ping_eq_valid_iff.mp hv⟩
  · exact ⟨rfl, bye_eq_valid_iff.mp hv⟩
  · obtain ⟨kind, accepts⟩ := (bare_eq_valid_iff rfl).mp hv
    exact ⟨by rw [InboundMessage.t, kind]; rfl, accepts⟩
  · obtain ⟨⟨reason, kind⟩, accepts⟩ := sessionEnd_eq_valid_iff.mp hv
    exact ⟨by rw [InboundMessage.t, kind]; rfl, accepts⟩
  · obtain ⟨kind, accepts⟩ := (bare_eq_valid_iff rfl).mp hv
    exact ⟨by rw [InboundMessage.t, kind]; rfl, accepts⟩
  · obtain ⟨kind, accepts⟩ := (bare_eq_valid_iff rfl).mp hv
    exact ⟨by rw [InboundMessage.t, kind]; rfl, accepts⟩
  · obtain ⟨⟨state, kind⟩, accepts⟩ := visibilityChange_eq_valid_iff.mp hv
    exact ⟨by rw [InboundMessage.t, kind]; rfl, accepts⟩

/-- There is a schema for every message, and it accepts the message's own fields. -/
theorem option_complete (accepts : Accepts value msg) :
    ∃ schema, options.lookup msg.t.text = some schema ∧ schema value = .valid msg := by
  have reads : ∀ {α : Type} {part : Validated Issue α} {own : α} {wrap : α → InboundMessage},
      part = .valid own → part.map wrap = .valid (wrap own) := by
    rintro _ _ _ _ rfl
    rfl
  cases msg with
  | hello msg => exact ⟨_, rfl, reads (hello_eq_valid_iff.mpr accepts)⟩
  | cursor msg => exact ⟨_, rfl, reads (cursor_eq_valid_iff.mpr accepts)⟩
  | scroll msg => exact ⟨_, rfl, reads (scroll_eq_valid_iff.mpr accepts)⟩
  | ack msg => exact ⟨_, rfl, reads (ack_eq_valid_iff.mpr accepts)⟩
  | ping msg => exact ⟨_, rfl, reads (ping_eq_valid_iff.mpr accepts)⟩
  | bye msg => exact ⟨_, rfl, reads (bye_eq_valid_iff.mpr accepts)⟩
  | audit msg =>
      obtain ⟨envelope, eventId, body⟩ := msg
      cases body with
      | sessionStart => exact ⟨_, rfl, reads ((bare_eq_valid_iff rfl).mpr ⟨rfl, accepts⟩)⟩
      | sessionEnd reason =>
          exact ⟨_, rfl, reads (sessionEnd_eq_valid_iff.mpr ⟨⟨reason, rfl⟩, accepts⟩)⟩
      | participantJoin => exact ⟨_, rfl, reads ((bare_eq_valid_iff rfl).mpr ⟨rfl, accepts⟩)⟩
      | participantLeave =>
          exact ⟨_, rfl, reads ((bare_eq_valid_iff rfl).mpr ⟨rfl, accepts⟩)⟩
      | visibilityChange state =>
          exact ⟨_, rfl, reads (visibilityChange_eq_valid_iff.mpr ⟨⟨state, rfl⟩, accepts⟩)⟩

/-- A value is a message exactly when it has all of the message's fields, and
these are in range. -/
theorem inbound_eq_valid_iff :
    InboundMessageSchema value = .valid msg ↔
      value.get "t" = some (.string msg.t.text) ∧ Accepts value msg := by
  constructor
  · intro valid
    cases value with
    | object fields =>
        rw [InboundMessageSchema] at valid
        split at valid
        · next t ht =>
            split at valid
            · next schema hs =>
                obtain ⟨before, after, listed, _⟩ := List.lookup_eq_some_iff.mp hs
                have chosen : (t, schema) ∈ options := by
                  rw [listed]
                  exact List.mem_append_right _ List.mem_cons_self
                obtain ⟨rfl, accepts⟩ := option_sound chosen valid
                exact ⟨ht, accepts⟩
            · cases valid
        · cases valid
    | _ => cases valid
  · intro ⟨typed, accepts⟩
    obtain ⟨schema, chosen, valid⟩ := option_complete accepts
    cases value with
    | object fields =>
        have ht : fields.lookup "t" = some (.string msg.t.text) := typed
        rw [InboundMessageSchema, ht]
        dsimp only
        rw [chosen]
        exact valid
    | _ => cases typed

/-- Every message carries its own fields. -/
theorem toJson_carries (msg : InboundMessage) :
    msg.toJson.get "t" = some (.string msg.t.text) ∧ Carries msg.toJson msg.envelope ∧
      ∀ field ∈ msg.ownFields, msg.toJson.get field.1 = some field.2 := by
  refine ⟨rfl, ⟨rfl, rfl, rfl, rfl, rfl⟩, ?_⟩
  cases msg with
  | ping msg => exact nofun
  | bye msg => exact nofun
  | audit msg =>
      obtain ⟨envelope, eventId, body⟩ := msg
      cases body <;> simp [InboundMessage.ownFields, AuditBody.fields, InboundMessage.toJson,
        Json.get, Envelope.fields, List.lookup_cons]
  | _ => simp [InboundMessage.ownFields, InboundMessage.toJson, Json.get, Envelope.fields,
      List.lookup_cons]

/-- What is written of a message is read as that message exactly when it is in
range. -/
theorem inbound_toJson_iff : InboundMessageSchema msg.toJson = .valid msg ↔ msg.InRange := by
  obtain ⟨typed, carries, own⟩ := toJson_carries msg
  rw [inbound_eq_valid_iff]
  exact ⟨fun accepted => accepted.2.inRange, fun range => ⟨typed, carries, own, range⟩⟩

end Schema

instance (n : Int) : Decidable (Countable n) :=
  inferInstanceAs (Decidable (_ ∧ _))

instance (envelope : Envelope) : Decidable envelope.InRange :=
  decidable_of_iff ((0 < envelope.v ∧ (envelope.v : Int) ≤ maxSafeInteger) ∧
      Countable envelope.seq ∧ Countable envelope.ts)
    ⟨fun range => ⟨range.1, range.2.1, range.2.2⟩, fun range => ⟨range.1, range.2, range.3⟩⟩

instance : (msg : InboundMessage) → Decidable msg.OwnInRange
  | .hello _ | .cursor _ | .scroll _ => inferInstanceAs (Decidable (_ ∧ _))
  | .ack msg => inferInstanceAs (Decidable (Countable msg.acked))
  | .ping _ | .bye _ | .audit _ => inferInstanceAs (Decidable True)

instance (msg : InboundMessage) : Decidable msg.InRange :=
  inferInstanceAs (Decidable (_ ∧ _))

/-- A message of this version is decoded as itself exactly when it is in range. -/
theorem decodeInbound_toJson_iff {msg : InboundMessage} (current : msg.envelope.v = protocolVersion)
    (message : IssueCode → String) :
    decodeInbound (.ofJson message msg.toJson) = .ok msg ↔ msg.InRange := by
  rw [decodeInbound_ok_iff, ← Schema.inbound_toJson_iff, RawFrame.ofJson]
  constructor
  · intro ⟨parsed, _⟩
    split at parsed
    · next found valid =>
        cases parsed
        exact valid
    · cases parsed
  · intro valid
    rw [valid]
    exact ⟨rfl, current⟩

end Copresence
