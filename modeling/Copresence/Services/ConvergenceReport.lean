import Copresence.Lib.CodeUnits
import Copresence.Services.ConvergenceTracker
import Mathlib.Data.Finset.Card

/-! The report of a session's convergence: one hash for each view the tracker
holds of it. How a number is written is a parameter. -/
namespace Copresence

open Collections

variable (numberText : ℚ → String)

/-- `value ?? ''` in a template. -/
def optionalText (value : Option ℚ) : String := (value.map numberText).getD ""

/-- One participant of the canonical representation. -/
def canonicalEntry (entry : ParticipantId × SimulatedParticipant) : String :=
  ":".intercalate [entry.1.value, entry.2.color, optionalText numberText entry.2.x,
    optionalText numberText entry.2.y, optionalText numberText entry.2.scrollX,
    optionalText numberText entry.2.scrollY]

/-- The sorted representation that is hashed. -/
def canonical (participants : JsMap ParticipantId SimulatedParticipant) : String :=
  "|".intercalate ((participants.sortedBy ParticipantId.value).map (canonicalEntry numberText))

/-- FNV-1a over the code units of the sorted representation. -/
def hashOf (participants : JsMap ParticipantId SimulatedParticipant) : String :=
  let hash := (codeUnits (canonical numberText participants)).foldl
    (fun hash unit => (hash ^^^ UInt32.ofNat unit) * 0x01000193) (0x811c9dc5 : UInt32)
  String.ofList (Nat.toDigits 16 hash.toNat)

theorem participantId_ext {first second : ParticipantId} (h : first.value = second.value) :
    first = second := by
  obtain ⟨text, _⟩ := first
  obtain rfl : text = second.value := h
  rfl

/-- The hash does not depend on the order the participants came in. -/
theorem hashOf_congr {participants others : JsMap ParticipantId SimulatedParticipant}
    (same : ∀ pid, participants.get? pid = others.get? pid) :
    hashOf numberText participants = hashOf numberText others := by
  have apart : ∀ first second : ParticipantId, first.value = second.value → first = second :=
    fun _ _ h => participantId_ext h
  rw [hashOf, hashOf, canonical, canonical, JsMap.sortedBy_congr apart same]

/-- The order of an object's keys is that of their insertion here. -/
structure ConvergenceSnapshot where
  hashes : JsMap String String
  converged : Bool

/-- `object[name] = text` on an object literal: `__proto__` is no property of
its own there, and setting it to a string does nothing. -/
def assign (object : JsMap String String) (name text : String) : JsMap String String :=
  if name = "__proto__" then object else object.set name text

def hashesOf (session : JsMap ParticipantId ParticipantView) : JsMap String String :=
  session.entries.foldl
    (fun hashes entry => assign hashes entry.1.value (hashOf numberText entry.2.participants))
    JsMap.empty

def ConvergenceTracker.snapshot (tracker : ConvergenceTracker) (sid : SessionId) :
    ConvergenceSnapshot :=
  match tracker.sessions.get? sid with
  | none => { hashes := JsMap.empty, converged := true }
  | some session =>
    if session.size = 0 then { hashes := JsMap.empty, converged := true }
    else
      let hashes := hashesOf numberText session
      let distinctHashes := hashes.values.toFinset
      { hashes, converged := distinctHashes.card ≤ 1 }

theorem assign_get? (object : JsMap String String) (name text other : String) :
    (assign object name text).get? other =
      if other = name then (if name = "__proto__" then object.get? other else some text)
      else object.get? other := by
  rw [assign]
  split
  · split <;> rfl
  · rw [JsMap.get?_set]

/-- Every view is hashed under its participant's id, with the one exception. -/
theorem hashesOf_get?_eq_some_iff {session : JsMap ParticipantId ParticipantView}
    {name hash : String} :
    (hashesOf numberText session).get? name = some hash ↔
      name ≠ "__proto__" ∧ ∃ pid view, pid.value = name ∧ session.get? pid = some view ∧
        hashOf numberText view.participants = hash := by
  have nodup : (session.entries.map fun entry => entry.1.value).Nodup := by
    rw [show (session.entries.map fun entry => entry.1.value) =
      (session.entries.map Prod.fst).map ParticipantId.value from List.map_map.symm]
    exact session.nodup.map fun _ _ h => participantId_ext h
  have turns := @foldl_own_key _ _ _ _ _
    (fun entry : ParticipantId × ParticipantView => entry.1.value) JsMap.get?
    (fun hashes entry => assign hashes entry.1.value (hashOf numberText entry.2.participants))
    (fun entry old =>
      if entry.1.value = "__proto__" then old else some (hashOf numberText entry.2.participants))
    (fun object entry other => assign_get? object _ _ other) session.entries nodup JsMap.empty
  by_cases listed : name ∈ session.entries.map fun entry => entry.1.value
  · obtain ⟨⟨pid, view⟩, he, rfl⟩ := List.mem_map.mp listed
    have held := JsMap.get?_eq_some_iff.mpr he
    rw [hashesOf, turns.1 _ he]
    dsimp only
    split
    · next proto => simp [proto]
    · next named =>
        constructor
        · intro h
          exact ⟨named, pid, view, rfl, held, Option.some.inj h⟩
        · intro ⟨_, other, shown, hName, hShown, hHash⟩
          obtain rfl := participantId_ext hName
          rw [held] at hShown
          rw [Option.some.inj hShown, hHash]
  · rw [hashesOf, turns.2 _ listed]
    constructor
    · intro h
      cases h
    · intro ⟨_, pid, view, hName, held, _⟩
      exact absurd (List.mem_map.mpr ⟨(pid, view), JsMap.get?_eq_some_iff.mp held, hName⟩) listed

namespace ConvergenceTracker

variable {tracker : ConvergenceTracker} {sid : SessionId}

theorem snapshot_get?_eq_some_iff {name hash : String} :
    (tracker.snapshot numberText sid).hashes.get? name = some hash ↔
      name ≠ "__proto__" ∧ ∃ pid view, pid.value = name ∧ tracker.held sid pid = some view ∧
        hashOf numberText view.participants = hash := by
  have nothing : (∀ pid, tracker.held sid pid = none) →
      (JsMap.empty.get? name = some hash ↔
        name ≠ "__proto__" ∧ ∃ pid view, pid.value = name ∧ tracker.held sid pid = some view ∧
          hashOf numberText view.participants = hash) := by
    intro none_held
    simp [none_held]
  rw [snapshot]
  cases hs : tracker.sessions.get? sid with
  | none => exact nothing fun pid => by rw [held, hs, Option.bind_none]
  | some session =>
      have found : ∀ pid, tracker.held sid pid = session.get? pid := by
        intro pid
        rw [held, hs, Option.bind_some]
      dsimp only
      split
      · next none_there =>
          exact nothing fun pid => (found pid).trans (JsMap.size_eq_zero_iff.mp none_there pid)
      · simp only [found]
        exact hashesOf_get?_eq_some_iff numberText

/-- The hashes are of everybody anything was delivered to, with one exception. -/
theorem mem_snapshot_keys_iff {name : String} :
    name ∈ (tracker.snapshot numberText sid).hashes.keys ↔
      name ≠ "__proto__" ∧ ∃ pid, pid.value = name ∧ (tracker.held sid pid).isSome := by
  rw [JsMap.mem_keys_iff]
  simp only [snapshot_get?_eq_some_iff]
  constructor
  · intro ⟨_, named, pid, view, hName, hHeld, _⟩
    exact ⟨named, pid, hName, Option.isSome_of_eq_some hHeld⟩
  · intro ⟨named, pid, hName, isHeld⟩
    obtain ⟨view, hHeld⟩ := Option.isSome_iff_exists.mp isHeld
    exact ⟨_, named, pid, view, hName, hHeld, rfl⟩

/-- Reported views that hold the same of everybody have converged. -/
theorem snapshot_converged (same : ∀ pid first other second, tracker.held sid pid = some first →
      tracker.held sid other = some second → pid.value ≠ "__proto__" → other.value ≠ "__proto__" →
        ∀ member, first.participants.get? member = second.participants.get? member) :
    (tracker.snapshot numberText sid).converged = true := by
  have agree : ∀ first ∈ (tracker.snapshot numberText sid).hashes.values,
      ∀ second ∈ (tracker.snapshot numberText sid).hashes.values, first = second := by
    intro first hFirst second hSecond
    obtain ⟨name, hName⟩ := JsMap.mem_values_iff.mp hFirst
    obtain ⟨other, hOther⟩ := JsMap.mem_values_iff.mp hSecond
    obtain ⟨named, pid, view, rfl, hView, rfl⟩ := (snapshot_get?_eq_some_iff numberText).mp hName
    obtain ⟨named', pid', view', rfl, hView', rfl⟩ :=
      (snapshot_get?_eq_some_iff numberText).mp hOther
    exact hashOf_congr numberText (same pid view pid' view' hView hView' named named')
  rw [snapshot] at agree ⊢
  cases hs : tracker.sessions.get? sid with
  | none => rfl
  | some session =>
      rw [hs] at agree
      dsimp only at agree ⊢
      split
      · rfl
      · next someone =>
          rw [if_neg someone] at agree
          apply decide_eq_true
          rw [Finset.card_le_one]
          intro first hFirst second hSecond
          exact agree first (List.mem_toFinset.mp hFirst) second (List.mem_toFinset.mp hSecond)

end ConvergenceTracker

end Copresence
