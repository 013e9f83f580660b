import Copresence.Client.Frames

/-! What a frame can do to the client that is not what its type says. A list
that is no list, or something in it that is no object, is only found out while
the frame is processed. -/
namespace Copresence.Untyped

open Collections Transition

namespace Client

variable (clock : Nat → Int)

/-- What `applyPatch` does with a patch it gets to the end of. -/
def patched (client : Client) (turn : JsValue × Nat) : Client :=
  if (turn.1.get "pid").isText client.pid then client
  else
    { client with
      remotes := client.remotes.set (client.keyOf turn) (client.next clock turn)
      scrollFollow :=
        if (client.followed turn.1).isSome then
          client.scrollFollow.beginProgrammaticScroll.endProgrammaticScroll
        else client.scrollFollow }

/-- The whole of a frame was processed: all that its lists hold, in order. -/
inductive Processed (client : Client) (message : JsValue) : Client → Prop
  | seeded (participants : List JsValue) :
      (message.get "t").isText "welcome" ∨ (message.get "t").isText "snapshot" →
      message.get "participants" = .array participants →
      Processed client message
        (participants.zipIdx.foldl (upserted clock) (client.forgetUnseen participants))
  | joined : (message.get "t").isText "join" →
      Processed client message (client.upserted clock (message.get "participant", 0))
  | left : (message.get "t").isText "leave" →
      Processed client message (client.forget (RemoteKey.of client.frames 0 (message.get "pid")))
  | patched (patches : List JsValue) (seq : PatchSeq) : (message.get "t").isText "patch" →
      seq.value = message.get "seq" → (message.get "patches").iterated = some patches →
      Processed client message
        (patches.zipIdx.foldl (patched clock) { client with lastPatchSeq := seq })

/-- A patch that `applyPatch` gets to the end of. -/
def Applicable (client : Client) (patch : JsValue) : Prop :=
  patch.isNullish = false ∧ ((patch.get "pid").isText client.pid = false →
    ∀ target, client.followed patch = some target → target.1.Convertible ∧ target.2.Convertible)

/-- What a message has to be, beyond its type, for the client to bear it. -/
def Digestible (stringToNumber : String → JsNumber) (onLatency : Bool) (client : Client)
    (message : JsValue) : Prop :=
  match message.get "t" with
  | .string "welcome" => ∃ participants, message.get "participants" = .array participants ∧
      ∀ participant ∈ participants, participant.isNullish = false
  | .string "snapshot" => ∃ participants, message.get "participants" = .array participants ∧
      ∀ participant ∈ participants, participant.isNullish = false
  | .string "join" => (message.get "participant").isNullish = false
  | .string "patch" => ∃ primitive, (message.get "seq").toPrimitive = some primitive ∧
      (primitive.atMost stringToNumber client.lastPatchSeq.primitive = true ∨
        ∃ patches, (message.get "patches").iterated = some patches ∧
          ∀ patch ∈ patches, client.Applicable patch)
  | .string "pong" => onLatency = true → (message.get "pingTs").Convertible
  | _ => True

/-- Nothing is thrown, and the frame is processed to its end or has changed
neither the roster nor the number of the last patch. -/
def Withstands (parse : String → Option JsValue) (stringToNumber : String → JsNumber)
    (onLatency : Bool) (client : Client) (raw : JsValue) : Prop :=
  ∃ after, client.handleRawMessage clock parse stringToNumber onLatency raw = .normal after ∧
    ((∃ message, parseOutboundFrame parse raw = some message ∧
      Processed clock { client with frames := client.frames + 1 } message after) ∨
    (after.remotes = client.remotes ∧ after.lastPatchSeq = client.lastPatchSeq))

section Turns

variable {clock} {client state : Client}

/-- An item that is an object is taken into the roster. -/
theorem upsertRemote_eq {turn : JsValue × Nat} (h : turn.1.isNullish = false) :
    state.upsertRemote clock turn = .normal (state.upserted clock turn) := by
  rw [upsertRemote, h]
  rfl

/-- An item throws exactly when it is null or undefined. -/
theorem upsertRemote_returns_iff {turn : JsValue × Nat} :
    (state.upsertRemote clock turn).Returns ↔ turn.1.isNullish = false := by
  rw [upsertRemote]
  cases turn.1.isNullish <;> simp

/-- A list of objects seeds the roster. -/
theorem seedRoster_eq_normal {items : List JsValue}
    (readable : ∀ item ∈ items, item.isNullish = false) :
    client.seedRoster clock (.array items) =
      .normal (items.zipIdx.foldl (upserted clock) (client.forgetUnseen items)) := by
  have none_nullish : items.any JsValue.isNullish = false := by
    rw [List.any_eq_false]
    intro item listed
    simp [readable item listed]
  rw [seedRoster, none_nullish, if_neg (by simp)]
  apply Completion.forOf_eq_normal (P := fun _ => True) (G := fun turn => turn.1.isNullish = false)
  · simp
  · intro state turn _ h
    exact upsertRemote_eq h
  · trivial
  · intro turn listed
    exact readable turn.1 (List.fst_mem_of_mem_zipIdx listed)

/-- Seeding is all or nothing: the participants are looked at before anything
is changed. -/
theorem seedRoster_returns_iff {participants : JsValue} :
    (client.seedRoster clock participants).Returns ↔
      ∃ items, participants = .array items ∧ ∀ item ∈ items, item.isNullish = false := by
  constructor
  · intro returns
    cases participants with
    | array items =>
        refine ⟨items, rfl, ?_⟩
        intro item listed
        by_contra nullish
        have some_nullish : items.any JsValue.isNullish = true := by
          rw [List.any_eq_true]
          exact ⟨item, listed, by simpa using nullish⟩
        rw [seedRoster, some_nullish, if_pos rfl] at returns
        exact Completion.not_returns_thrown _ returns
    | _ => exact absurd returns (Completion.not_returns_thrown _)
  · intro ⟨items, shape, readable⟩
    rw [shape, seedRoster_eq_normal readable]
    exact Completion.returns_normal _

/-- The same participants are followed, by the same client. -/
def SameReader (client state : Client) : Prop :=
  state.pid = client.pid ∧ state.scrollFollow.followingPid = client.scrollFollow.followingPid

/-- Whom a page follows depends on one variable alone. -/
theorem isFollowing_congr {first second : ScrollFollow}
    (same : first.followingPid = second.followingPid) (pid : JsValue) :
    first.isFollowing pid = second.isFollowing pid := by
  cases pid <;> simp [ScrollFollow.isFollowing, same]

/-- Whether a patch can be applied is the same for both. -/
theorem SameReader.applicable_iff (same : SameReader client state) (patch : JsValue) :
    state.Applicable patch ↔ client.Applicable patch := by
  rw [Applicable, Applicable, followed, followed, isFollowing_congr same.2, same.1]

/-- A patch that is applied changes nothing another patch is judged by. -/
theorem SameReader.patched (same : SameReader client state) (turn : JsValue × Nat) :
    SameReader client (state.patched clock turn) := by
  rw [Client.patched]
  split
  · exact same
  · refine ⟨same.1, ?_⟩
    dsimp only
    split <;> exact same.2

/-- A patch that can be applied is applied. -/
theorem applyPatch_eq {turn : JsValue × Nat} (h : state.Applicable turn.1) :
    state.applyPatch clock turn = .normal (state.patched clock turn) := by
  obtain ⟨readable, follows⟩ := h
  rw [applyPatch, readable, if_neg (by simp), Client.patched]
  split
  · rfl
  · next another =>
      cases followed : state.followed turn.1 with
      | none => simp
      | some target =>
          have converts := follows (by simpa using another) target followed
          simp [ScrollFollow.followScrollTo, converts, ScrollFollow.beginProgrammaticScroll,
            ScrollFollow.endProgrammaticScroll]

/-- A patch that cannot be applied throws. -/
theorem applyPatch_thrown {turn : JsValue × Nat} (h : ¬state.Applicable turn.1) :
    ¬(state.applyPatch clock turn).Returns := by
  rw [applyPatch]
  split
  · exact Completion.not_returns_thrown _
  · next readable =>
      split
      · next own =>
          exact absurd ⟨by simpa using readable, by simp [own]⟩ h
      · next another =>
          cases followed : state.followed turn.1 with
          | none =>
              refine absurd ⟨by simpa using readable, ?_⟩ h
              simp [followed]
          | some target =>
              by_cases converts : target.1.Convertible ∧ target.2.Convertible
              · refine absurd ⟨by simpa using readable, ?_⟩ h
                intro _ other hOther
                rw [followed] at hOther
                rw [← Option.some.inj hOther]
                exact converts
              · simp [ScrollFollow.followScrollTo, converts]

/-- A list of patches that can all be applied is applied in its order. -/
theorem applyPatches_eq_normal (same : SameReader client state) {value : JsValue}
    {patches : List JsValue} (list : value.iterated = some patches)
    (applicable : ∀ patch ∈ patches, client.Applicable patch) :
    state.applyPatches clock value =
      .normal (patches.zipIdx.foldl (Client.patched clock) state) := by
  rw [applyPatches, list]
  apply Completion.forOf_eq_normal (P := SameReader client)
    (G := fun turn => client.Applicable turn.1)
  · intro state turn same
    exact same.patched turn
  · intro state turn same h
    exact applyPatch_eq ((same.applicable_iff turn.1).mpr h)
  · exact same
  · intro turn listed
    exact applicable turn.1 (List.fst_mem_of_mem_zipIdx listed)

/-- A list of patches returns exactly when each of them can be applied. -/
theorem applyPatches_returns_iff (same : SameReader client state) {value : JsValue} :
    (state.applyPatches clock value).Returns ↔
      ∃ patches, value.iterated = some patches ∧ ∀ patch ∈ patches, client.Applicable patch := by
  constructor
  · intro returns
    rw [applyPatches] at returns
    cases list : value.iterated with
    | none =>
        rw [list] at returns
        exact absurd returns (Completion.not_returns_thrown _)
    | some patches =>
        rw [list] at returns
        refine ⟨patches, rfl, ?_⟩
        intro patch listed
        obtain ⟨place, here⟩ := List.mem_iff_getElem?.mp listed
        apply (Completion.forOf_returns_iff (P := SameReader client)
          (G := fun turn => client.Applicable turn.1) (f := Client.patched clock)
          _ _ _ same).mp returns (patch, place) (List.mk_mem_zipIdx_iff_getElem?.mpr here)
        · intro state turn same
          exact same.patched turn
        · intro state turn same h
          exact applyPatch_eq ((same.applicable_iff turn.1).mpr h)
        · intro state turn same h
          exact applyPatch_thrown fun applicable => h ((same.applicable_iff turn.1).mp applicable)
  · intro ⟨patches, list, applicable⟩
    rw [applyPatches_eq_normal same list applicable]
    exact Completion.returns_normal _

end Turns

section Routing

variable {clock} {stringToNumber : String → JsNumber} {onLatency : Bool} {client : Client}
variable {message : JsValue}

/-- A message returns exactly when it can be digested. -/
theorem routeMessage_returns_iff :
    (client.routeMessage clock stringToNumber onLatency message).Returns ↔
      client.Digestible stringToNumber onLatency message := by
  rw [routeMessage, Digestible]
  split
  · next kind =>
      simp only [kind]
      exact seedRoster_returns_iff
  · next kind =>
      simp only [kind]
      exact seedRoster_returns_iff
  · next kind =>
      simp only [kind]
      exact upsertRemote_returns_iff
  · next kind => simp [kind]
  · next kind =>
      simp only [kind]
      split
      · next none => simp [none]
      · next primitive converted =>
          simp only [converted]
          split
          · next stale => simp [stale]
          · next fresh =>
              have same : SameReader client
                  { client with lastPatchSeq := ⟨message.get "seq", primitive, converted⟩ } :=
                ⟨rfl, rfl⟩
              rw [applyPatches_returns_iff same]
              simp [fresh]
  · next kind =>
      simp only [kind]
      by_cases converts : (message.get "pingTs").Convertible <;> cases onLatency <;>
        simp [converts]
  · next kind => simp [kind]
  · next kind => simp [kind]
  · split <;> simp_all

/-- What is not thrown at is processed whole, or changes nothing. -/
theorem routeMessage_processed {after : Client}
    (h : client.routeMessage clock stringToNumber onLatency message = .normal after) :
    Processed clock client message after ∨
      (after.remotes = client.remotes ∧ after.lastPatchSeq = client.lastPatchSeq) := by
  have unchanged : Completion.normal client = .normal after →
      after.remotes = client.remotes ∧ after.lastPatchSeq = client.lastPatchSeq := by
    intro same
    rw [← Completion.normal.inj same]
    exact ⟨rfl, rfl⟩
  have seeded : (message.get "t").isText "welcome" = true ∨
      (message.get "t").isText "snapshot" = true →
      client.seedRoster clock (message.get "participants") = .normal after →
      Processed clock client message after := by
    intro kind seeds
    obtain ⟨items, list, readable⟩ := seedRoster_returns_iff.mp ⟨after, seeds⟩
    rw [list, seedRoster_eq_normal readable] at seeds
    rw [← Completion.normal.inj seeds]
    exact Processed.seeded items kind list
  rw [routeMessage] at h
  split at h
  · next kind => exact Or.inl (seeded (Or.inl (by simp [kind, JsValue.isText])) h)
  · next kind => exact Or.inl (seeded (Or.inr (by simp [kind, JsValue.isText])) h)
  · next kind =>
      have readable := upsertRemote_returns_iff.mp ⟨after, h⟩
      rw [upsertRemote_eq readable] at h
      rw [← Completion.normal.inj h]
      exact Or.inl (Processed.joined (by simp [kind, JsValue.isText]))
  · next kind =>
      rw [← Completion.normal.inj h]
      exact Or.inl (Processed.left (by simp [kind, JsValue.isText]))
  · next kind =>
      split at h
      · cases h
      · next primitive converted =>
          split at h
          · exact Or.inr (unchanged h)
          · have same : SameReader client
                { client with lastPatchSeq := ⟨message.get "seq", primitive, converted⟩ } :=
              ⟨rfl, rfl⟩
            obtain ⟨patches, list, applicable⟩ := (applyPatches_returns_iff same).mp ⟨after, h⟩
            rw [applyPatches_eq_normal same list applicable] at h
            rw [← Completion.normal.inj h]
            exact Or.inl (Processed.patched patches _ (by simp [kind, JsValue.isText]) rfl list)
  · split at h
    · cases h
    · exact Or.inr (unchanged h)
  · exact Or.inr (unchanged h)
  · exact Or.inr (unchanged h)
  · exact Or.inr (unchanged h)

end Routing

/-- A frame is withstood exactly if it is refused unread, or has the shape that
its type calls for where the client looks. -/
theorem withstands_iff_digestible (parse : String → Option JsValue)
    (stringToNumber : String → JsNumber) (onLatency : Bool) (client : Client) (raw : JsValue) :
    client.Withstands clock parse stringToNumber onLatency raw ↔
      ∀ message, parseOutboundFrame parse raw = some message →
        client.Digestible stringToNumber onLatency message := by
  rw [Withstands, handleRawMessage]
  cases parsed : parseOutboundFrame parse raw with
  | none =>
      constructor
      · intro _ message same
        cases same
      · intro _
        exact ⟨client, rfl, Or.inr ⟨rfl, rfl⟩⟩
  | some message =>
      have counted : (({ client with frames := client.frames + 1 } : Client).routeMessage clock
            stringToNumber onLatency message).Returns ↔
          client.Digestible stringToNumber onLatency message := routeMessage_returns_iff
      constructor
      · intro ⟨after, routed, _⟩ other same
        rw [← Option.some.inj same]
        exact counted.mp ⟨after, routed⟩
      · intro digestible
        obtain ⟨after, routed⟩ := counted.mpr (digestible message rfl)
        refine ⟨after, routed, ?_⟩
        exact (routeMessage_processed routed).imp (fun processed => ⟨message, rfl, processed⟩) id

end Client

section HalfApplied

/-- A patch of somebody, and nothing in the place of a second one. -/
def halfPatch : JsValue :=
  .object [("v", .number (.finite 1)), ("t", .string "patch"), ("seq", .number (.finite 1)),
    ("patches", .array [
      .object [("pid", .string "a"), ("x", .number (.finite (1 / 2))),
        ("y", .number (.finite (1 / 2)))],
      .null])]

def halfPatchText : String :=
  "\x7b\"v\":1,\"t\":\"patch\",\"seq\":1,\"patches\":" ++
    "[\x7b\"pid\":\"a\",\"x\":0.5,\"y\":0.5\x7d,null]\x7d"

def parseHalfPatch (text : String) : Option JsValue :=
  if text = halfPatchText then some halfPatch else none

/-- It throws with the first patch applied and the number taken. -/
theorem halfPatch_half_applied :
    ∃ after, ({ pid := "me" } : Client).handleRawMessage (fun _ => 0) parseHalfPatch
        (fun _ => .nan) false (.string halfPatchText) = .thrown after ∧
      after.remotes.keys = [.string "a"] ∧ after.lastPatchSeq.primitive = .number (.finite 1) := by
  refine ⟨_, rfl, ?_, ?_⟩
  · rfl
  · rfl

theorem halfPatch_not_withstood :
    ¬({ pid := "me" } : Client).Withstands (fun _ => 0) parseHalfPatch (fun _ => .nan) false
      (.string halfPatchText) := by
  obtain ⟨half, thrown, _⟩ := halfPatch_half_applied
  intro ⟨after, returned, _⟩
  rw [thrown] at returned
  cases returned

end HalfApplied

end Copresence.Untyped
