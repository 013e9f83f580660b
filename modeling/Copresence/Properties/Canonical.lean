import Copresence.Lib.Joined
import Copresence.Lib.Numerals
import Copresence.Models.Participant
import Copresence.Services.ConvergenceReport

/-! What the hash of a view is taken over. The order of insertion does not show
in it. Its bars and colons are not escaped, though, and a pid may hold both: two
views share it where the pids of one spell out participants of the other. -/
namespace Copresence

open Collections Floating

/-- Coordinates are numbers of 64 bits and colours are of the palette. -/
structure SimulatedParticipant.Painted (held : SimulatedParticipant) : Prop where
  color : held.color ∈ participantColors
  x : ∀ value, held.x = some value → binary64.Representable value
  y : ∀ value, held.y = some value → binary64.Representable value
  scrollX : ∀ value, held.scrollX = some value → binary64.Representable value
  scrollY : ∀ value, held.scrollY = some value → binary64.Representable value

/-- A simulated view in which everybody has a colour of the palette. -/
structure PaintedView where
  participants : JsMap ParticipantId SimulatedParticipant
  painted : ∀ pid held, participants.get? pid = some held → held.Painted

/-- What follows the pid in the representation. -/
def fieldsText (held : SimulatedParticipant) : List Char :=
  ':' :: held.color.toList ++ ':' :: (optionalText numberToString held.x).toList ++
    ':' :: (optionalText numberToString held.y).toList ++
    ':' :: (optionalText numberToString held.scrollX).toList ++
    ':' :: (optionalText numberToString held.scrollY).toList

/-- The participants in the order of the representation. -/
def listed (participants : JsMap ParticipantId SimulatedParticipant) :
    List (List Char × SimulatedParticipant) :=
  (participants.sortedBy ParticipantId.value).map fun entry => (entry.1.value.toList, entry.2)

/-- Different views whose participants are glued from the same pieces: some pid
of one holds a participant of the other, written out, a bar, and what is left of
a pid. -/
def Respelled (first second : JsMap ParticipantId SimulatedParticipant) : Prop :=
  (∃ pid, first.get? pid ≠ second.get? pid) ∧
    ∃ pieces, Glued '|' fieldsText pieces (listed first) ∧ Glued '|' fieldsText pieces (listed second)

section Fields

variable {mark : Char}

/-- No numeral holds a colon or a bar. -/
theorem not_mem_optionalText (h : mark = ':' ∨ mark = '|') (value : Option ℚ) :
    mark ∉ (optionalText numberToString value).toList := by
  cases value with
  | none => simp [optionalText]
  | some value =>
      intro listed
      have marks := numberToString_marks listed
      rcases h with rfl | rfl <;> exact absurd marks (by unfold NumeralMark; decide)

/-- An optional number is told by its text. -/
theorem optionalText_inj {value other : Option ℚ}
    (h : ∀ x, value = some x → binary64.Representable x)
    (h' : ∀ x, other = some x → binary64.Representable x)
    (same : (optionalText numberToString value).toList =
      (optionalText numberToString other).toList) : value = other := by
  cases value with
  | none =>
      cases other with
      | none => rfl
      | some y => exact absurd same.symm (numberToString_ne_nil y)
  | some x =>
      cases other with
      | none => exact absurd same (numberToString_ne_nil x)
      | some y => rw [numberToString_injOn (h x rfl) (h' y rfl) (String.toList_injective same)]

/-- A color holds neither a colon nor a bar. -/
theorem not_mem_color {held : SimulatedParticipant} (h : held.color ∈ participantColors)
    (h' : mark = ':' ∨ mark = '|') : mark ∉ held.color.toList := by
  have plain : ∀ color ∈ participantColors, ':' ∉ color.toList ∧ '|' ∉ color.toList := by decide
  rcases h' with rfl | rfl
  · exact (plain _ h).1
  · exact (plain _ h).2

/-- The five fields can be told from the end of the text. -/
theorem fieldsText_delimited :
    Delimited '|' fieldsText SimulatedParticipant.Painted where
  plain := by
    intro held painted
    have color := not_mem_color painted.color (Or.inr rfl)
    have number := fun value => not_mem_optionalText (Or.inr rfl) value
    simp [fieldsText, color, number]
  some := by
    intro held painted
    simp [fieldsText]
  apart := by
    intro key key' held other painted painted' same
    have number := fun value => not_mem_optionalText (Or.inl rfl) value
    rw [fieldsText, fieldsText] at same
    simp only [← List.append_assoc] at same
    obtain ⟨same, scrollY⟩ := last_mark_inj (number _) (number _) same
    obtain ⟨same, scrollX⟩ := last_mark_inj (number _) (number _) same
    obtain ⟨same, y⟩ := last_mark_inj (number _) (number _) same
    obtain ⟨same, x⟩ := last_mark_inj (number _) (number _) same
    obtain ⟨keys, color⟩ := last_mark_inj (not_mem_color painted.color (Or.inl rfl))
      (not_mem_color painted'.color (Or.inl rfl)) same
    have values : held = other := by
      rw [SimulatedParticipant.mk.injEq]
      exact ⟨String.toList_injective color, optionalText_inj painted.x painted'.x x,
        optionalText_inj painted.y painted'.y y,
        optionalText_inj painted.scrollX painted'.scrollX scrollX,
        optionalText_inj painted.scrollY painted'.scrollY scrollY⟩
    exact ⟨keys, values⟩

end Fields

section Listing

variable {participants others : JsMap ParticipantId SimulatedParticipant}

/-- The text of an entry is its pid and its fields, joined. -/
theorem canonicalEntry_toList (entry : ParticipantId × SimulatedParticipant) :
    (canonicalEntry numberToString entry).toList =
      written fieldsText (entry.1.value.toList, entry.2) := by
  simp [canonicalEntry, written, fieldsText]

/-- The canonical text is the texts of its entries, joined by bars. -/
theorem canonical_toList (participants : JsMap ParticipantId SimulatedParticipant) :
    (canonical numberToString participants).toList = joined '|' fieldsText (listed participants) := by
  have texts : String.toList ∘ canonicalEntry numberToString =
      written fieldsText ∘ fun entry => (entry.1.value.toList, entry.2) := by
    funext entry
    exact canonicalEntry_toList entry
  rw [canonical, String.toList_intercalate, joined, listed, List.map_map, List.map_map, texts]
  rfl

/-- The entries listed are those of the participants in the view. -/
theorem mem_listed_iff {pid : ParticipantId} {held : SimulatedParticipant} :
    (pid.value.toList, held) ∈ listed participants ↔ participants.get? pid = some held := by
  have entries : ∀ entry, entry ∈ participants.sortedBy ParticipantId.value ↔
      entry ∈ participants.entries := fun entry => (List.mergeSort_perm _ _).mem_iff
  rw [JsMap.get?_eq_some_iff, listed, List.mem_map]
  constructor
  · intro ⟨entry, hEntry, same⟩
    obtain ⟨keys, rfl⟩ := Prod.mk.inj same
    rw [← participantId_ext (String.toList_injective keys)]
    exact (entries entry).mp hEntry
  · intro hEntry
    exact ⟨(pid, held), (entries _).mpr hEntry, rfl⟩

/-- The listing says what everybody is held as, and nothing of the insertions. -/
theorem listed_eq_iff :
    listed participants = listed others ↔ ∀ pid, participants.get? pid = others.get? pid := by
  constructor
  · intro same pid
    apply Option.ext
    intro held
    rw [← mem_listed_iff, same, mem_listed_iff]
  · intro same
    have apart : ∀ first second : ParticipantId, first.value = second.value → first = second :=
      fun _ _ h => participantId_ext h
    rw [listed, JsMap.sortedBy_congr apart same, listed]

end Listing

namespace PaintedView

variable (first second : PaintedView)

/-- Every entry of a painted view has one of the colors. -/
theorem listed_painted : ∀ record ∈ listed first.participants, record.2.Painted := by
  intro record h
  rw [listed, List.mem_map] at h
  obtain ⟨entry, hEntry, rfl⟩ := h
  have held := (List.mergeSort_perm _ _).mem_iff.mp hEntry
  exact first.painted entry.1 entry.2 (JsMap.get?_eq_some_iff.mpr held)

/-- Two views share the representation if their listings share their pieces. -/
theorem canonical_eq_iff :
    canonical numberToString first.participants = canonical numberToString second.participants ↔
      ∃ pieces, Glued '|' fieldsText pieces (listed first.participants) ∧
        Glued '|' fieldsText pieces (listed second.participants) := by
  rw [← String.toList_inj, canonical_toList, canonical_toList]
  exact joined_eq_iff fieldsText_delimited first.listed_painted second.listed_painted

/-- Views of the same participants have the same canonical text. -/
theorem canonical_congr
    (same : ∀ pid, first.participants.get? pid = second.participants.get? pid) :
    canonical numberToString first.participants = canonical numberToString second.participants := by
  rw [← String.toList_inj, canonical_toList, canonical_toList, listed_eq_iff.mpr same]

/-- A view nobody's pid holds a bar in. -/
def Barless : Prop := ∀ pid, (first.participants.get? pid).isSome → '|' ∉ pid.value.toList

variable {first second} in
/-- In a view without bars no pid has one. -/
theorem Barless.listed (h : first.Barless) :
    ∀ record ∈ listed first.participants, '|' ∉ record.1 := by
  intro record hRecord
  rw [Copresence.listed, List.mem_map] at hRecord
  obtain ⟨entry, hEntry, rfl⟩ := hRecord
  have held := JsMap.get?_eq_some_iff.mpr ((List.mergeSort_perm _ _).mem_iff.mp hEntry)
  exact h entry.1 (Option.isSome_of_eq_some held)

/-- Without bars in the pids nothing can be taken for anything else. -/
theorem not_respelled_of_barless (h : first.Barless) (h' : second.Barless) :
    ¬Respelled first.participants second.participants := by
  intro ⟨⟨pid, apart⟩, pieces, left, right⟩
  have same := (left.eq_of_plain h.listed).symm.trans (right.eq_of_plain h'.listed)
  exact apart (listed_eq_iff.mp same pid)

/-- The representation tells exactly those views apart that do not spell each
other's participants out in their pids. -/
theorem canonical_iff_not_respelled :
    (canonical numberToString first.participants = canonical numberToString second.participants ↔
      ∀ pid, first.participants.get? pid = second.participants.get? pid) ↔
      ¬Respelled first.participants second.participants := by
  have shared := canonical_eq_iff first second
  constructor
  · intro tells ⟨⟨pid, apart⟩, pieces⟩
    exact apart (tells.mp (shared.mpr pieces) pid)
  · intro notRespelled
    constructor
    · intro same pid
      by_contra apart
      exact notRespelled ⟨⟨pid, apart⟩, shared.mp same⟩
    · exact canonical_congr first second

end PaintedView

section Sharing

/-- A participant of one of the colors is painted, whatever else it lacks. -/
theorem painted_of_color {color : String} (h : color ∈ participantColors) :
    ({ color } : SimulatedParticipant).Painted where
  color := h
  x := fun _ held => nomatch held
  y := fun _ held => nomatch held
  scrollX := fun _ held => nomatch held
  scrollY := fun _ held => nomatch held

/-- One participant, whose pid spells another one out. -/
def spelling : PaintedView where
  participants := JsMap.empty.set ⟨"a:#e6194b::::|b", by decide⟩ { color := "#3cb44b" }
  painted := by
    intro pid held h
    rw [JsMap.get?_set, JsMap.get?_empty] at h
    split at h
    · rw [← Option.some.inj h]
      exact painted_of_color (by decide)
    · cases h

/-- The participants that it is taken for. -/
def spelled : PaintedView where
  participants := (JsMap.empty.set ⟨"a", nonempty_a⟩ { color := "#e6194b" }).set ⟨"b", nonempty_b⟩
    { color := "#3cb44b" }
  painted := by
    intro pid held h
    rw [JsMap.get?_set, JsMap.get?_set, JsMap.get?_empty] at h
    split at h
    · rw [← Option.some.inj h]
      exact painted_of_color (by decide)
    · split at h
      · rw [← Option.some.inj h]
        exact painted_of_color (by decide)
      · cases h

/-- The view of one participant whose pid spells out two. -/
theorem listed_spelling :
    listed spelling.participants = [("a:#e6194b::::|b".toList, { color := "#3cb44b" })] := by
  rw [listed, JsMap.sortedBy, List.mergeSort_of_pairwise]
  · rfl
  · decide

/-- The view of the two participants it spells out. -/
theorem listed_spelled : listed spelled.participants =
    [("a".toList, { color := "#e6194b" }), ("b".toList, { color := "#3cb44b" })] := by
  rw [listed, JsMap.sortedBy, List.mergeSort_of_pairwise]
  · rfl
  · decide

/-- The one is the other, spelled differently. -/
theorem spelling_respelled : Respelled spelling.participants spelled.participants := by
  have alone : spelling.participants.get? ⟨"a", by decide⟩ ≠
      spelled.participants.get? ⟨"a", by decide⟩ := by decide
  refine ⟨⟨_, alone⟩, listed spelled.participants, ?_, ?_⟩
  · rw [listed_spelling, listed_spelled]
    exact (Glued.nil.apart _).together _ _
  · rw [listed_spelled]
    exact (Glued.nil.apart _).apart _

/-- So the representation is not canonical. -/
theorem spelling_shares_canonical : ¬∀ first second : PaintedView,
    canonical numberToString first.participants = canonical numberToString second.participants ↔
      ∀ pid, first.participants.get? pid = second.participants.get? pid := by
  intro tells
  obtain ⟨⟨pid, apart⟩, pieces⟩ := spelling_respelled
  exact apart ((tells spelling spelled).mp (spelling.canonical_eq_iff spelled |>.mpr pieces) pid)

end Sharing

end Copresence
