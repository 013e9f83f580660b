import Copresence.Models.Session

/-! The cursor and the scroll of a presence as two fields under one law: a
field takes what is newer than what it has, and neither looks at the other. -/
namespace Copresence

namespace PresenceField

def ofPresence : PresenceField → PresenceState → Option (ℚ × ℚ)
  | cursor, presence => presence.cursor.map fun point => (point.x, point.y)
  | scroll, presence => presence.scroll.map fun position => (position.x, position.y)

def marked : PresenceField → PresenceDirty → Bool
  | cursor, flags => flags.cursor
  | scroll, flags => flags.scroll

@[simp] theorem ofPresence_empty (field : PresenceField) :
    field.ofPresence emptyPresence = none := by
  cases field <;> rfl

@[simp] theorem isSome_ofPresence_cursor (state : PresenceState) :
    (cursor.ofPresence state).isSome = state.cursor.isSome :=
  Option.isSome_map

@[simp] theorem isSome_ofPresence_scroll (state : PresenceState) :
    (scroll.ofPresence state).isSome = state.scroll.isSome :=
  Option.isSome_map

/-- The number of the write a presence has this field from. -/
def seqOf : PresenceField → PresenceState → Option Int
  | cursor, presence => presence.cursorSeq
  | scroll, presence => presence.scrollSeq

/-- The write of this field, through its own guard. -/
def write : PresenceField → PresenceState → ℚ × ℚ → Int → PresenceState
  | cursor, presence, point, seq => presence.withCursor ⟨point.1, point.2⟩ seq
  | scroll, presence, point, seq => presence.withScroll ⟨point.1, point.2⟩ seq

def flag : PresenceField → PresenceDirty
  | cursor => { cursor := true }
  | scroll => { scroll := true }

/-- Whether the presence would take a write of this field with this number. -/
def Takes (field : PresenceField) (presence : PresenceState) (seq : Int) : Prop :=
  ∀ recorded, field.seqOf presence = some recorded → recorded < seq

variable (field : PresenceField) (presence : PresenceState) (point : ℚ × ℚ) (seq : Int)

theorem write_of_not_takes (refuses : ¬field.Takes presence seq) :
    field.write presence point seq = presence := by
  obtain ⟨recorded, h⟩ := Classical.not_forall.mp refuses
  obtain ⟨stored, notNewer⟩ := Classical.not_imp.mp h
  have stale : seq ≤ recorded := Int.not_lt.mp notNewer
  cases field with
  | cursor =>
      simp only [seqOf] at stored
      simp [write, PresenceState.withCursor, stored, stale]
  | scroll =>
      simp only [seqOf] at stored
      simp [write, PresenceState.withScroll, stored, stale]

/-- A write that is taken is there with its number, and the other field stays. -/
theorem write_of_takes (takes : field.Takes presence seq) (other : PresenceField) :
    other.ofPresence (field.write presence point seq) =
        (if other = field then some point else other.ofPresence presence) ∧
      other.seqOf (field.write presence point seq) =
        if other = field then some seq else other.seqOf presence := by
  cases field with
  | cursor =>
      have taken : presence.withCursor ⟨point.1, point.2⟩ seq =
          { presence with cursor := some ⟨point.1, point.2⟩, cursorSeq := some seq } := by
        rw [PresenceState.withCursor]
        split
        · next recorded h => exact if_neg (Int.not_le.mpr (takes recorded h))
        · rfl
      rw [write, taken]
      cases other <;> exact ⟨rfl, rfl⟩
  | scroll =>
      have taken : presence.withScroll ⟨point.1, point.2⟩ seq =
          { presence with scroll := some ⟨point.1, point.2⟩, scrollSeq := some seq } := by
        rw [PresenceState.withScroll]
        split
        · next recorded h => exact if_neg (Int.not_le.mpr (takes recorded h))
        · rfl
      rw [write, taken]
      cases other <;> exact ⟨rfl, rfl⟩

theorem write_ne_iff : field.write presence point seq ≠ presence ↔ field.Takes presence seq := by
  constructor
  · intro changed
    by_contra refuses
    exact changed (field.write_of_not_takes presence point seq refuses)
  · intro takes same
    have numbered := (field.write_of_takes presence point seq takes field).2
    rw [same, if_pos rfl] at numbered
    exact Int.lt_irrefl seq (takes seq numbered)

theorem ofPresence_write_of_ne {other : PresenceField} (another : other ≠ field) :
    other.ofPresence (field.write presence point seq) = other.ofPresence presence := by
  by_cases takes : field.Takes presence seq
  · rw [(field.write_of_takes presence point seq takes other).1, if_neg another]
  · rw [field.write_of_not_takes presence point seq takes]

/-- After a write, taken or not, the field takes what is newer than both. -/
theorem takes_write (other : PresenceField) (later : Int) :
    other.Takes (field.write presence point seq) later ↔
      other.Takes presence later ∧ (other = field → seq < later) := by
  by_cases takes : field.Takes presence seq
  · rw [Takes, (field.write_of_takes presence point seq takes other).2]
    by_cases same : other = field
    · subst same
      rw [if_pos rfl]
      constructor
      · intro h
        have passed := h seq rfl
        exact ⟨fun recorded hr => Int.lt_trans (takes recorded hr) passed, fun _ => passed⟩
      · intro ⟨_, passed⟩ recorded hr
        rw [← Option.some.inj hr]
        exact passed rfl
    · rw [if_neg same]
      exact (and_iff_left fun h => absurd h same).symm
  · rw [field.write_of_not_takes presence point seq takes]
    refine (and_iff_left_of_imp ?_).symm
    intro h same
    subst same
    by_contra old
    exact takes fun recorded hr => Int.lt_of_lt_of_le (h recorded hr) (Int.not_lt.mp old)

variable (other : PresenceField) (second : ℚ × ℚ) (later : Int)

/-- Writes with different numbers may be swapped. -/
theorem write_comm (consistent : seq = later → point = second) :
    field.write (field.write presence point seq) second later =
      field.write (field.write presence second later) point seq := by
  by_cases h : seq = later
  · rw [h, consistent h]
  · cases field with
    | cursor => grind [write, PresenceState.withCursor]
    | scroll => grind [write, PresenceState.withScroll]

/-- So may writes of different fields. -/
theorem write_comm_of_ne (another : other ≠ field) :
    other.write (field.write presence point seq) second later =
      field.write (other.write presence second later) point seq := by
  cases field with
  | cursor =>
      cases other with
      | cursor => exact absurd rfl another
      | scroll => grind [write, PresenceState.withCursor, PresenceState.withScroll]
  | scroll =>
      cases other with
      | cursor => grind [write, PresenceState.withCursor, PresenceState.withScroll]
      | scroll => exact absurd rfl another

/-- A field is written with the same effect whatever the other one holds. -/
theorem write_eq_self_of_ne (another : other ≠ field) :
    other.write (field.write presence point seq) second later = field.write presence point seq ↔
      other.write presence second later = presence := by
  rw [← not_iff_not, ← ne_eq, ← ne_eq, write_ne_iff, write_ne_iff, takes_write]
  exact and_iff_left fun h => absurd h another

/-- A later write never brings the old presence back. -/
theorem write_no_return
    (back : field.write (field.write presence point seq) second later = presence) :
    field.write presence point seq = presence := by
  by_contra changed
  have takes := (field.write_ne_iff presence point seq).mp changed
  by_cases again : field.Takes (field.write presence point seq) later
  · have numbered := (field.write_of_takes _ second later again field).2
    rw [back, if_pos rfl] at numbered
    have older := takes later numbered
    have newer := ((field.takes_write presence point seq field later).mp again).2 rfl
    omega
  · rw [field.write_of_not_takes _ second later again] at back
    exact changed back

/-- A write repeated is refused. -/
theorem write_write :
    field.write (field.write presence point seq) point seq = field.write presence point seq := by
  apply write_of_not_takes
  intro again
  exact Int.lt_irrefl seq (((field.takes_write presence point seq field seq).mp again).2 rfl)

end PresenceField

theorem PresenceField.marked_flag (field other : PresenceField) :
    other.marked field.flag = true ↔ other = field := by
  cases field <;> cases other <;> simp [flag, marked]

/-- A write is flagged as the field it writes, and leaves the others as they were. -/
theorem PresenceField.ofPresence_write_of_unmarked {field other : PresenceField}
    (unmarked : other.marked field.flag = false) (presence : PresenceState) (point : ℚ × ℚ)
    (seq : Int) : other.ofPresence (field.write presence point seq) = other.ofPresence presence := by
  apply ofPresence_write_of_ne
  intro same
  rw [(field.marked_flag other).mpr same] at unmarked
  cases unmarked

def SessionEvent.seq : SessionEvent → Int
  | .hello msg => msg.seq
  | .cursor msg => msg.seq
  | .scroll msg => msg.seq
  | .bye msg => msg.seq

/-- The field an event writes, and the position it writes. -/
def SessionEvent.writes : SessionEvent → Option (PresenceField × ℚ × ℚ)
  | .cursor msg => some (.cursor, msg.x, msg.y)
  | .scroll msg => some (.scroll, msg.scrollX, msg.scrollY)
  | _ => none

theorem SessionEvent.IsPresence.writes {event : SessionEvent} (isPresence : event.IsPresence) :
    ∃ write, event.writes = some write := by
  cases event with
  | hello => exact isPresence.elim
  | cursor msg => exact ⟨_, rfl⟩
  | scroll msg => exact ⟨_, rfl⟩
  | bye => exact isPresence.elim

end Copresence
