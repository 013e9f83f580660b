import Copresence.Client.Remotes
import Copresence.Properties.Corruption

/-! Frames that are what their types say. The client bears every one of them,
and does with it what the typed routing of messages does. -/
namespace Copresence.Untyped

open Collections Transition

def number (value : ℚ) : JsValue := .number (.finite value)

def optionalNumber : Option ℚ → JsValue
  | none => .undefined
  | some value => number value

/-- The fields that snapshots and patches of a participant share. -/
structure Describes (item : JsValue) (pid : ParticipantId) (x y scrollX scrollY : Option ℚ) :
    Prop where
  pid : item.get "pid" = .string pid.value
  x : item.get "x" = optionalNumber x
  y : item.get "y" = optionalNumber y
  scrollX : item.get "scrollX" = optionalNumber scrollX
  scrollY : item.get "scrollY" = optionalNumber scrollY

def CarriesPatch (item : JsValue) (patch : ParticipantPatch) : Prop :=
  Describes item patch.pid patch.x patch.y patch.scrollX patch.scrollY

structure CarriesSnapshot (item : JsValue) (participant : ParticipantSnapshot) : Prop where
  fields : Describes item participant.pid participant.x participant.y participant.scrollX
    participant.scrollY
  color : item.get "color" = .string participant.color

/-- The value holds what the message does, as far as the client looks. -/
def Carries (value : JsValue) : OutboundMessage → Prop
  | .welcome msg => value.get "t" = .string "welcome" ∧ ∃ items,
      value.get "participants" = .array items ∧ List.Forall₂ CarriesSnapshot items msg.participants
  | .snapshot msg => value.get "t" = .string "snapshot" ∧ ∃ items,
      value.get "participants" = .array items ∧ List.Forall₂ CarriesSnapshot items msg.participants
  | .join msg => value.get "t" = .string "join" ∧
      CarriesSnapshot (value.get "participant") msg.participant
  | .leave msg => value.get "t" = .string "leave" ∧ value.get "pid" = .string msg.pid.value
  | .patch msg => value.get "t" = .string "patch" ∧ value.get "seq" = number msg.seq ∧ ∃ items,
      value.get "patches" = .array items ∧ List.Forall₂ CarriesPatch items msg.patches
  | .pong msg => value.get "t" = .string "pong" ∧ value.get "pingTs" = number msg.pingTs
  | .auditAck _ => value.get "t" = .string "audit.ack"
  | .error _ => value.get "t" = .string "error"

def ofPoint (point : Copresence.RemoteCursorPoint) : RemoteCursorPoint where
  x := number point.x
  y := number point.y
  t := point.t

def ofParticipant (participant : Copresence.RemoteParticipant) : RemoteParticipant where
  color := .string participant.color
  lastSeenAt := participant.lastSeenAt
  cursorPrev := participant.cursorPrev.map ofPoint
  cursorLatest := participant.cursorLatest.map ofPoint
  scroll := participant.scroll.map fun scroll => (number scroll.x, number scroll.y)

def ofPair (pair : ℚ × ℚ) : JsValue × JsValue := (number pair.1, number pair.2)

def ofSeq : Option Int → Primitive
  | none => .number (.infinity true)
  | some seq => .number (.finite seq)

/-- The untyped client holds what the typed one does, and nothing else. -/
structure Agrees (client : Client) (typed : Copresence.Client) : Prop where
  pid : client.pid = typed.pid.value
  remotes : ∀ pid : ParticipantId,
    client.remotes.get? (.string pid.value) = (typed.remotes.get? pid).map ofParticipant
  named : ∀ key, (client.remotes.get? key).isSome → ∃ pid : ParticipantId, key = .string pid.value
  seq : client.lastPatchSeq.primitive = ofSeq typed.lastPatchSeq

section Elements

variable {item : JsValue} {pid : ParticipantId} {x y scrollX scrollY : Option ℚ}

/-- Two optional numbers are read as a position when both are there. -/
theorem position_eq {first second : String} (hx : item.get first = optionalNumber x)
    (hy : item.get second = optionalNumber y) :
    position item first second = (both x y).map ofPair := by
  rw [position, hx, hy]
  cases x <;> cases y <;> rfl

/-- What describes a participant is neither null nor undefined. -/
theorem Describes.not_nullish (h : Describes item pid x y scrollX scrollY) :
    item.isNullish = false := by
  have named := h.pid
  cases item <;> first | rfl | cases named

/-- Moving a cursor can be done before the types are forgotten or after. -/
theorem moveCursor_ofParticipant (participant : Copresence.RemoteParticipant) (now : Int)
    (cursor : Option (ℚ × ℚ)) :
    (ofParticipant participant).moveCursor now (cursor.map ofPair) =
      ofParticipant (participant.moveCursor now cursor) := by
  cases cursor <;> rfl

/-- Scrolling can be done before the types are forgotten or after. -/
theorem moveScroll_ofParticipant (participant : Copresence.RemoteParticipant)
    (scroll : Option (ℚ × ℚ)) :
    (ofParticipant participant).moveScroll (scroll.map ofPair) =
      ofParticipant (participant.moveScroll scroll) := by
  cases scroll <;> rfl

end Elements

namespace Agrees

variable {client : Client} {typed : Copresence.Client}

/-- Participants are told apart by the texts of their ids. -/
@[simp] theorem value_eq_iff {first second : ParticipantId} :
    first.value = second.value ↔ first = second := by
  cases first
  cases second
  simp

/-- Writing one participant keeps the two rosters in agreement. -/
theorem set (agrees : Agrees client typed) (pid : ParticipantId)
    (participant : Copresence.RemoteParticipant) (scrollFollow : ScrollFollow) :
    Agrees
      { client with
        remotes := client.remotes.set (.string pid.value) (ofParticipant participant), scrollFollow }
      { typed with remotes := typed.remotes.set pid participant } where
  pid := agrees.pid
  remotes := by
    intro other
    rw [JsMap.get?_set, JsMap.get?_set, agrees.remotes]
    by_cases own : other = pid
    · simp [own]
    · simp [own]
  named := by
    intro key held
    dsimp only at held
    rw [JsMap.get?_set] at held
    by_cases own : key = .string pid.value
    · exact ⟨pid, own⟩
    · rw [if_neg own] at held
      exact agrees.named key held
  seq := agrees.seq

/-- Forgetting one participant keeps them in agreement. -/
theorem forget (agrees : Agrees client typed) (pid : ParticipantId) :
    Agrees (client.forget (.string pid.value)) (typed.forget pid) where
  pid := agrees.pid
  remotes := by
    intro other
    rw [Client.forget, Copresence.Client.forget, JsMap.get?_delete, JsMap.get?_delete,
      agrees.remotes]
    by_cases own : other = pid
    · simp [own]
    · simp [own]
  named := by
    intro key held
    rw [Client.forget, JsMap.get?_delete] at held
    split at held
    · cases held
    · exact agrees.named key held
  seq := agrees.seq

/-- An item is taken for the page's own exactly when it names the page. -/
theorem isOwn_iff (agrees : Agrees client typed) {item : JsValue} {pid : ParticipantId}
    (h : item.get "pid" = .string pid.value) :
    (item.get "pid").isText client.pid = true ↔ pid = typed.pid := by
  rw [h, JsValue.isText, agrees.pid, decide_eq_true_iff, value_eq_iff]

/-- An item is kept under the id it names. -/
theorem keyOf_eq {item : JsValue} {pid : ParticipantId} (h : item.get "pid" = .string pid.value)
    (place : Nat) : client.keyOf (item, place) = .string pid.value := by
  rw [Client.keyOf, h]
  rfl

/-- A snapshot's item is taken as the snapshot. -/
theorem upserted (agrees : Agrees client typed) {item : JsValue} {participant : ParticipantSnapshot}
    (carries : CarriesSnapshot item participant) (now : Int) (place : Nat) :
    Agrees (client.upserted (fun _ => now) (item, place)) (typed.upsertRemote now participant) := by
  have fields := carries.fields
  rw [Client.upserted, Copresence.Client.upsertRemote]
  dsimp only
  by_cases own : participant.pid = typed.pid
  · rw [if_pos ((agrees.isOwn_iff fields.pid).mpr own), if_pos own]
    exact agrees
  · rw [if_neg fun same => own ((agrees.isOwn_iff fields.pid).mp same), if_neg own, keyOf_eq fields.pid,
      position_eq fields.x fields.y, position_eq fields.scrollX fields.scrollY, carries.color,
      agrees.remotes]
    have fresh : ({ color := .string participant.color, lastSeenAt := now } : RemoteParticipant) =
        ofParticipant { color := participant.color, lastSeenAt := now } := rfl
    rw [fresh, Option.getD_map]
    have recoloured : ∀ old : Copresence.RemoteParticipant,
        { ofParticipant old with color := .string participant.color, lastSeenAt := now } =
          ofParticipant { old with color := participant.color, lastSeenAt := now } := fun _ => rfl
    rw [recoloured, moveCursor_ofParticipant, moveScroll_ofParticipant]
    exact agrees.set participant.pid _ client.scrollFollow

/-- A patch of numbers can be applied, whoever is followed. -/
theorem applicable {item : JsValue} {patch : ParticipantPatch} (carries : CarriesPatch item patch) :
    client.Applicable item := by
  refine ⟨carries.not_nullish, ?_⟩
  intro _ target held
  rw [Client.followed] at held
  split at held
  · rw [position_eq carries.scrollX carries.scrollY, Option.map_eq_some_iff] at held
    obtain ⟨pair, _, rfl⟩ := held
    exact ⟨rfl, rfl⟩
  · cases held

/-- A patch's item is taken as the patch. -/
theorem patched (agrees : Agrees client typed) {item : JsValue} {patch : ParticipantPatch}
    (carries : CarriesPatch item patch) (now : Int) (place : Nat) :
    Agrees (client.patched (fun _ => now) (item, place)) (typed.applyPatch now patch) := by
  rw [Client.patched, Copresence.Client.applyPatch]
  dsimp only
  by_cases own : patch.pid = typed.pid
  · rw [if_pos ((agrees.isOwn_iff carries.pid).mpr own), if_pos own]
    exact agrees
  · rw [if_neg fun same => own ((agrees.isOwn_iff carries.pid).mp same), if_neg own, Client.next,
      keyOf_eq carries.pid]
    dsimp only
    rw [position_eq carries.x carries.y, position_eq carries.scrollX carries.scrollY,
      agrees.remotes]
    have fresh : ({ color := .string "#888888", lastSeenAt := now } : RemoteParticipant) =
        ofParticipant { color := "#888888", lastSeenAt := now } := rfl
    rw [fresh, Option.getD_map]
    have seen : ∀ old : Copresence.RemoteParticipant,
        { ofParticipant old with lastSeenAt := now } =
          ofParticipant { old with lastSeenAt := now } := fun _ => rfl
    rw [seen, moveCursor_ofParticipant, moveScroll_ofParticipant]
    exact agrees.set patch.pid _ _

/-- The two loops over the elements of a list keep step. -/
theorem foldl {α : Type} {C : JsValue → α → Prop} {turn : Client → JsValue × Nat → Client}
    {typedTurn : Copresence.Client → α → Copresence.Client}
    (kept : ∀ {client typed item element} (place : Nat), Agrees client typed → C item element →
      Agrees (turn client (item, place)) (typedTurn typed element))
    {items : List JsValue} {elements : List α} (carried : List.Forall₂ C items elements)
    (agrees : Agrees client typed) (place : Nat) :
    Agrees ((items.zipIdx place).foldl turn client) (elements.foldl typedTurn typed) := by
  induction carried generalizing client typed place with
  | nil => exact agrees
  | cons here _ ih => exact ih (kept place agrees here) (place + 1)

/-- The keys of a roster's items are the participants on it. -/
theorem keys_eq {items : List JsValue} {participants : List ParticipantSnapshot}
    (carried : List.Forall₂ CarriesSnapshot items participants) (place : Nat) :
    (items.zipIdx place).map client.keyOf =
      participants.map fun participant => .string participant.pid.value := by
  induction carried generalizing place with
  | nil => rfl
  | cons here _ ih =>
      rw [List.zipIdx_cons, List.map_cons, List.map_cons, keyOf_eq here.fields.pid, ih]

/-- A roster's items forget those whom the roster does not list. -/
theorem forgetUnseen (agrees : Agrees client typed) {items : List JsValue}
    {participants : List ParticipantSnapshot}
    (carried : List.Forall₂ CarriesSnapshot items participants) :
    Agrees (client.forgetUnseen items)
      ((typed.remotes.keys.filter fun known =>
        known ∉ participants.map ParticipantSnapshot.pid).foldl Copresence.Client.forget typed) := by
  have kept : ∀ (gone : List RemoteKey) (state : Client), gone.foldl Client.forget state =
      { state with remotes := gone.foldl JsMap.delete state.remotes } := by
    intro gone
    induction gone with
    | nil => exact fun _ => rfl
    | cons first gone ih => exact fun state => ih (state.forget first)
  have keptTyped : ∀ (gone : List ParticipantId) (state : Copresence.Client),
      gone.foldl Copresence.Client.forget state =
        { state with remotes := gone.foldl JsMap.delete state.remotes } := by
    intro gone
    induction gone with
    | nil => exact fun _ => rfl
    | cons first gone ih => exact fun state => ih (state.forget first)
  have seen : ∀ pid : ParticipantId,
      .string pid.value ∈ participants.map (fun participant => RemoteKey.string participant.pid.value) ↔
        pid ∈ participants.map ParticipantSnapshot.pid := by
    intro pid
    simp
  rw [Client.forgetUnseen, keys_eq carried, kept, keptTyped]
  exact {
    pid := agrees.pid
    remotes := by
      intro pid
      dsimp only
      rw [JsMap.get?_foldl_delete_filter, JsMap.get?_foldl_delete_filter, agrees.remotes]
      simp only [seen pid]
      split <;> rfl
    named := by
      intro key held
      dsimp only at held
      rw [JsMap.get?_foldl_delete_filter] at held
      split at held
      · cases held
      · exact agrees.named key held
    seq := agrees.seq }

end Agrees

/-- Every item of a list carries some element. -/
theorem exists_carried {α : Type} {C : JsValue → α → Prop} {items : List JsValue}
    {elements : List α} (carried : List.Forall₂ C items elements) {item : JsValue}
    (listed : item ∈ items) : ∃ element, C item element := by
  induction carried with
  | nil => cases listed
  | cons here _ ih =>
      rcases List.mem_cons.mp listed with rfl | listed
      · exact ⟨_, here⟩
      · exact ih listed

/-- The guard on patches compares the numbers. -/
theorem atMost_iff (stringToNumber : String → JsNumber) {client : Client}
    {typed : Copresence.Client} (agrees : Agrees client typed) (seq : Int) :
    Primitive.atMost stringToNumber (.number (.finite seq)) client.lastPatchSeq.primitive = true ↔
      ¬typed.Fresh seq := by
  rw [agrees.seq, Copresence.Client.Fresh]
  cases typed.lastPatchSeq with
  | none => simp [ofSeq, Primitive.atMost, Primitive.toNumber, JsNumber.atMost]
  | some last => simp [ofSeq, Primitive.atMost, Primitive.toNumber, JsNumber.atMost]

section Messages

variable {client : Client} {typed : Copresence.Client} (agrees : Agrees client typed) (now : Int)

include agrees

/-- A roster that is what its type says is taken without a throw, as the typed roster is. -/
theorem seedRoster_agrees {items : List JsValue} {participants : List ParticipantSnapshot}
    (carried : List.Forall₂ CarriesSnapshot items participants) :
    ∃ after, client.seedRoster (fun _ => now) (.array items) = .normal after ∧
      Agrees after (typed.seedRoster now participants) := by
  have readable : ∀ item ∈ items, item.isNullish = false := by
    intro item listed
    obtain ⟨participant, carries⟩ := exists_carried carried listed
    exact carries.fields.not_nullish
  refine ⟨_, Client.seedRoster_eq_normal readable, ?_⟩
  apply Agrees.foldl (C := CarriesSnapshot) _ carried (agrees.forgetUnseen carried) 0
  intro client typed item participant place agrees carries
  exact agrees.upserted carries now place

/-- A list of patches that is what its type says is applied without a throw. -/
theorem applyPatches_agrees {value : JsValue} {items : List JsValue}
    {patches : List ParticipantPatch} (list : value = .array items)
    (carried : List.Forall₂ CarriesPatch items patches) :
    ∃ after, client.applyPatches (fun _ => now) value = .normal after ∧
      Agrees after (patches.foldl (Copresence.Client.applyPatch now) typed) := by
  have applicable : ∀ patch ∈ items, client.Applicable patch := by
    intro patch listed
    obtain ⟨_, carries⟩ := exists_carried carried listed
    exact Agrees.applicable carries
  refine ⟨_, Client.applyPatches_eq_normal ⟨rfl, rfl⟩ (list ▸ rfl) applicable, ?_⟩
  apply Agrees.foldl (C := CarriesPatch) _ carried agrees 0
  intro client typed item patch place agrees carries
  exact agrees.patched carries now place

/-- A client handles what its type says as the typed one does. -/
theorem routeMessage_agrees (stringToNumber : String → JsNumber) (onLatency : Bool)
    {value : JsValue} {message : OutboundMessage} (carries : Carries value message) :
    ∃ after, client.routeMessage (fun _ => now) stringToNumber onLatency value = .normal after ∧
      Agrees after (typed.routeMessage now message) := by
  rw [Client.routeMessage]
  cases message with
  | welcome msg =>
      obtain ⟨kind, items, list, carried⟩ := carries
      simp only [kind, list]
      exact seedRoster_agrees agrees now carried
  | snapshot msg =>
      obtain ⟨kind, items, list, carried⟩ := carries
      simp only [kind, list]
      exact seedRoster_agrees agrees now carried
  | join msg =>
      obtain ⟨kind, carried⟩ := carries
      simp only [kind]
      exact ⟨_, Client.upsertRemote_eq carried.fields.not_nullish, agrees.upserted carried now 0⟩
  | leave msg =>
      obtain ⟨kind, pid⟩ := carries
      simp only [kind, pid]
      exact ⟨_, rfl, agrees.forget msg.pid⟩
  | patch msg =>
      obtain ⟨kind, seq, items, list, carried⟩ := carries
      simp only [kind]
      split
      · next none =>
          rw [seq] at none
          cases none
      · next primitive converted =>
          have held := converted
          rw [seq] at held
          obtain rfl : Primitive.number (.finite msg.seq) = primitive := Option.some.inj held
          rw [Copresence.Client.routeMessage]
          by_cases fresh : typed.Fresh msg.seq
          · have taken : Agrees
                { client with lastPatchSeq := ⟨value.get "seq", _, converted⟩ }
                { typed with lastPatchSeq := some msg.seq } :=
              { agrees with seq := rfl }
            rw [if_neg fun stale => (atMost_iff stringToNumber agrees msg.seq).mp stale fresh,
              if_pos fresh]
            exact applyPatches_agrees taken now list carried
          · rw [if_pos ((atMost_iff stringToNumber agrees msg.seq).mpr fresh), if_neg fresh]
            exact ⟨_, rfl, agrees⟩
  | pong msg =>
      obtain ⟨kind, pingTs⟩ := carries
      have converts : (value.get "pingTs").Convertible := by
        rw [pingTs]
        rfl
      simp only [kind, converts]
      exact ⟨client, by simp, agrees⟩
  | auditAck msg =>
      have kind : value.get "t" = .string "audit.ack" := carries
      simp only [kind]
      exact ⟨_, rfl, agrees⟩
  | error msg =>
      have kind : value.get "t" = .string "error" := carries
      simp only [kind]
      exact ⟨_, rfl, agrees⟩

end Messages

end Copresence.Untyped
