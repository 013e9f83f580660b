import Mathlib.Data.List.Rotate

/-! A buffer that appends until it is full and from then on overwrites its
oldest item: read from its write index on, it is the end of what was written. -/
namespace Collections

variable {α : Type*}

structure RingBuffer (α : Type*) where
  items : List α := []
  writeIndex : Nat := 0

/-- The last `bound` items of a history, all of a shorter one. -/
def lastOf (bound : Nat) (history : List α) : List α := history.drop (history.length - bound)

/-- The end of a history is as long as the bound or the history. -/
@[simp] theorem length_lastOf (bound : Nat) (history : List α) :
    (lastOf bound history).length = min history.length bound := by
  rw [lastOf, List.length_drop]
  omega

/-- A short history is its own end. -/
theorem lastOf_of_length_le {bound : Nat} {history : List α} (short : history.length ≤ bound) :
    lastOf bound history = history := by
  rw [lastOf, Nat.sub_eq_zero_of_le short, List.drop_zero]

/-- With one more item the oldest falls out. -/
theorem lastOf_concat {bound : Nat} {history : List α} (long : bound ≤ history.length)
    (positive : 0 < bound) (item : α) :
    lastOf bound (history ++ [item]) = (lastOf bound history).tail ++ [item] := by
  have start : (history ++ [item]).length - bound = history.length - bound + 1 := by
    rw [List.length_append, List.length_singleton]
    omega
  rw [lastOf, start, List.drop_append_of_le_length (by omega), lastOf, List.tail_drop]

namespace RingBuffer

def write (bound : Nat) (ring : RingBuffer α) (item : α) : RingBuffer α :=
  if ring.items.length < bound then { ring with items := ring.items ++ [item] }
  else
    { items := ring.items.set ring.writeIndex item
      writeIndex := (ring.writeIndex + 1) % bound }

/-- The write index is at the oldest item, and the items from there on, round
to the newest, are the end of the history. -/
structure Slides (bound : Nat) (ring : RingBuffer α) (history : List α) : Prop where
  window : ring.items.rotate ring.writeIndex = lastOf bound history
  below : ring.writeIndex < bound
  growing : history.length < bound → ring.writeIndex = 0

variable {bound : Nat} {ring : RingBuffer α} {history : List α}

/-- An empty buffer holds the end of nothing. -/
theorem slides_empty (positive : 0 < bound) : Slides bound ({} : RingBuffer α) [] where
  window := by simp [lastOf]
  below := positive
  growing := fun _ => rfl

/-- A buffer holds as many items as were written, up to the bound. -/
theorem Slides.length (slides : Slides bound ring history) :
    ring.items.length = min history.length bound := by
  have length := congrArg List.length slides.window
  rwa [List.length_rotate, length_lastOf] at length

/-- In whatever order, the buffer holds the end of what was written. -/
theorem Slides.perm (slides : Slides bound ring history) :
    ring.items.Perm (lastOf bound history) := by
  rw [← slides.window]
  exact (List.rotate_perm _ _).symm

/-- To overwrite the oldest item and go on one place is to drop it and append. -/
theorem rotate_set {items : List α} {index : Nat} (inside : index < items.length) (item : α) :
    (items.set index item).rotate (index + 1) = (items.rotate index).tail ++ [item] := by
  have insideSet : index + 1 ≤ (items.set index item).length := by
    rw [List.length_set]
    exact inside
  rw [List.rotate_eq_drop_append_take insideSet, List.rotate_eq_drop_append_take inside.le,
    List.drop_set_of_lt (Nat.lt_succ_self index), List.drop_eq_getElem_cons inside,
    List.cons_append, List.tail_cons, List.append_assoc, List.take_set,
    List.take_succ_eq_append_getElem inside]
  congr 1
  have place : (items.take index).length = index := by
    rw [List.length_take]
    omega
  rw [List.set_append_right _ _ place.le, place, Nat.sub_self, List.set_cons_zero]

/-- Writing one item more moves the end along. -/
theorem Slides.write (slides : Slides bound ring history) (item : α) :
    Slides bound (ring.write bound item) (history ++ [item]) := by
  have positive : 0 < bound := Nat.lt_of_le_of_lt (Nat.zero_le _) slides.below
  have length := slides.length
  rw [RingBuffer.write]
  split
  · next room =>
      have short : history.length < bound := by omega
      have start := slides.growing short
      have items : ring.items = history := by
        have window := slides.window
        rwa [start, List.rotate_zero, lastOf_of_length_le short.le] at window
      constructor
      · dsimp only
        rw [start, List.rotate_zero, items, lastOf_of_length_le]
        rw [List.length_append, List.length_singleton]
        exact short
      · exact slides.below
      · exact fun _ => start
  · next full =>
      have long : bound ≤ history.length := by omega
      have filled : ring.items.length = bound := by omega
      have inside : ring.writeIndex < ring.items.length := by
        rw [filled]
        exact slides.below
      constructor
      · dsimp only
        have wrapped := List.rotate_mod (ring.items.set ring.writeIndex item) (ring.writeIndex + 1)
        rw [List.length_set, filled] at wrapped
        rw [wrapped, rotate_set inside, slides.window, lastOf_concat long positive]
      · exact Nat.mod_lt _ positive
      · intro short
        rw [List.length_append, List.length_singleton] at short
        omega

end RingBuffer

end Collections
