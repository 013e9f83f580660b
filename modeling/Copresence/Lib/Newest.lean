import Mathlib.Data.Finset.Card
import Mathlib.Data.Finset.Lattice.Fold
import Mathlib.Data.Finset.Max
import Mathlib.Data.List.Sort

/-! The `bound` items of a finite set with the largest keys, and how a list
sorted by key is cut into them and the others. -/
namespace Ranking

section Sets

variable {α β : Type*} [LinearOrder β] (key : α → β)

/-- The items of the set with a larger key. -/
def above (set : Finset α) (item : α) : Finset α := {other ∈ set | key item < key other}

/-- The items with fewer than `bound` others above them. -/
def newest (bound : Nat) (set : Finset α) : Finset α :=
  {item ∈ set | (above key set item).card < bound}

variable {key} {bound : Nat} {set part whole : Finset α} {item : α}

theorem mem_above {other : α} : other ∈ above key set item ↔ other ∈ set ∧ key item < key other :=
  Finset.mem_filter

theorem mem_newest : item ∈ newest key bound set ↔ item ∈ set ∧ (above key set item).card < bound :=
  Finset.mem_filter

theorem newest_subset : newest key bound set ⊆ set := Finset.filter_subset _ _

theorem above_subset (h : part ⊆ whole) : above key part item ⊆ above key whole item :=
  Finset.filter_subset_filter _ h

variable [DecidableEq α]

/-- A newcomer can only push others out. -/
theorem newest_insert_subset :
    newest key bound (insert item set) ⊆ insert item (newest key bound set) := by
  intro other h
  obtain ⟨there, few⟩ := mem_newest.mp h
  rw [Finset.mem_insert] at there ⊢
  apply there.imp_right
  intro old
  have more : above key set other ⊆ above key (insert item set) other :=
    above_subset (Finset.subset_insert item set)
  have fewer := Finset.card_le_card more
  exact mem_newest.mpr ⟨old, Nat.lt_of_le_of_lt fewer few⟩

/-- A part that has the newest of the whole has the same newest: the largest
item missing above another would be one of them. -/
theorem newest_eq_of_subset (kept : newest key bound whole ⊆ part) (h : part ⊆ whole) :
    newest key bound part = newest key bound whole := by
  ext item
  constructor
  · intro inPart
    obtain ⟨there, few⟩ := mem_newest.mp inPart
    by_contra outside
    let missing := above key whole item \ part
    have gap : missing.Nonempty := by
      rw [Finset.sdiff_nonempty]
      intro covered
      apply outside
      have same : above key whole item ⊆ above key part item := by
        intro other higher
        exact mem_above.mpr ⟨covered higher, (mem_above.mp higher).2⟩
      exact mem_newest.mpr ⟨h there, Nat.lt_of_le_of_lt (Finset.card_le_card same) few⟩
    obtain ⟨largest, hm, largestOf⟩ := Finset.exists_max_image missing key gap
    obtain ⟨higher, notInPart⟩ := Finset.mem_sdiff.mp hm
    obtain ⟨inWhole, higher'⟩ := mem_above.mp higher
    have covered : above key whole largest ⊆ above key part item := by
      intro other ho
      obtain ⟨there', beyond'⟩ := mem_above.mp ho
      have beyond : key item < key other := higher'.trans beyond'
      by_contra unseen
      have absent : other ∉ part := fun inPart' => unseen (mem_above.mpr ⟨inPart', beyond⟩)
      have among : other ∈ missing :=
        Finset.mem_sdiff.mpr ⟨mem_above.mpr ⟨there', beyond⟩, absent⟩
      exact absurd beyond' (not_lt.mpr (largestOf other among))
    exact notInPart (kept (mem_newest.mpr
      ⟨inWhole, Nat.lt_of_le_of_lt (Finset.card_le_card covered) few⟩))
  · intro inWhole
    obtain ⟨there, few⟩ := mem_newest.mp inWhole
    exact mem_newest.mpr
      ⟨kept inWhole, Nat.lt_of_le_of_lt (Finset.card_le_card (above_subset h)) few⟩

end Sets

section Lists

variable {α β : Type*} [LinearOrder β] {key : α → β}

theorem nodup_of_increasing {items : List α}
    (increasing : items.Pairwise fun first second => key first < key second) : items.Nodup := by
  apply increasing.imp
  rintro first second less rfl
  exact lt_irrefl _ less

variable [DecidableEq α]

/-- Of an increasing list the newest are the last `bound`. -/
theorem newest_toFinset (bound : Nat) {items : List α}
    (increasing : items.Pairwise fun first second => key first < key second) :
    newest key bound items.toFinset = (items.drop (items.length - bound)).toFinset := by
  have cut := List.take_append_drop (items.length - bound) items
  have length := List.length_drop (i := items.length - bound) (l := items)
  have lengthFront := List.length_take (i := items.length - bound) (l := items)
  have nodup := nodup_of_increasing increasing
  generalize items.take (items.length - bound) = front at cut lengthFront
  generalize items.drop (items.length - bound) = back at cut length ⊢
  subst cut
  obtain ⟨_, incBack, across⟩ := List.pairwise_append.mp increasing
  have nodupBack : back.Nodup := nodup_of_increasing incBack
  ext item
  rw [mem_newest, List.mem_toFinset, List.mem_toFinset, List.mem_append]
  constructor
  · rintro ⟨inFront | inBack, few⟩
    · -- all of the back is above an item of the front, and the back is full
      exfalso
      have full : back.toFinset ⊆ above key (front ++ back).toFinset item := by
        intro other ho
        rw [List.mem_toFinset] at ho
        exact mem_above.mpr ⟨by simp [ho], across item inFront other ho⟩
      have count := Finset.card_le_card full
      rw [List.toFinset_card_of_nodup nodupBack] at count
      have some : 0 < front.length := List.length_pos_of_mem inFront
      omega
    · exact inBack
  · intro inBack
    refine ⟨Or.inr inBack, ?_⟩
    have rest : above key (front ++ back).toFinset item ⊆ back.toFinset.erase item := by
      intro other ho
      obtain ⟨there, higher'⟩ := mem_above.mp ho
      rw [List.mem_toFinset, List.mem_append] at there
      rw [Finset.mem_erase, List.mem_toFinset]
      constructor
      · rintro rfl
        exact lt_irrefl _ higher'
      · apply there.resolve_left
        intro inFront
        exact lt_asymm higher' (across other inFront item inBack)
    have count := Finset.card_le_card rest
    rw [Finset.card_erase_of_mem (List.mem_toFinset.mpr inBack),
      List.toFinset_card_of_nodup nodupBack] at count
    have some : 0 < back.length := List.length_pos_of_mem inBack
    omega

/-- What is cut off is the rest. -/
theorem mem_take_iff (bound : Nat) {items : List α}
    (increasing : items.Pairwise fun first second => key first < key second) (item : α) :
    item ∈ items.take (items.length - bound) ↔
      item ∈ items ∧ item ∉ newest key bound items.toFinset := by
  rw [newest_toFinset bound increasing, List.mem_toFinset]
  have nodup := nodup_of_increasing increasing
  have cut := List.take_append_drop (items.length - bound) items
  generalize items.take (items.length - bound) = front at cut ⊢
  generalize items.drop (items.length - bound) = back at cut ⊢
  subst cut
  have disjoint := (List.nodup_append'.mp nodup).2.2
  rw [List.mem_append]
  constructor
  · intro inFront
    exact ⟨Or.inl inFront, fun inBack => disjoint inFront inBack⟩
  · intro ⟨there, notInBack⟩
    exact there.resolve_right notInBack

end Lists

section Stability

variable {α : Type*} {r s : α → α → Prop} [DecidableRel r] [Std.Total r] [IsTrans α r]

theorem pairwise_orderedInsert_stable {item : α} {items : List α}
    (first : ∀ other ∈ items, s item other)
    (sorted : items.Pairwise fun a b => r a b ∧ (r b a → s a b)) :
    (items.orderedInsert r item).Pairwise fun a b => r a b ∧ (r b a → s a b) := by
  induction items with
  | nil => simp
  | cons head items ih =>
      obtain ⟨before, rest⟩ := List.pairwise_cons.mp sorted
      rw [List.orderedInsert_cons]
      split
      · next le =>
          refine List.pairwise_cons.mpr ⟨?_, sorted⟩
          intro other hm
          refine ⟨?_, fun _ => first other hm⟩
          rcases List.mem_cons.mp hm with rfl | hm
          · exact le
          · exact IsTrans.trans _ _ _ le (before other hm).1
      · next notLe =>
          have inserted := ih (fun other hm => first other (List.mem_cons_of_mem _ hm)) rest
          refine List.pairwise_cons.mpr ⟨?_, inserted⟩
          intro other hm
          rcases (List.mem_orderedInsert r).mp hm with rfl | hm
          · exact ⟨(Std.Total.total head other).resolve_right notLe, fun le => absurd le notLe⟩
          · exact before other hm

/-- Insertion sort leaves equals in the order it found them. -/
theorem pairwise_insertionSort_stable {items : List α} (listed : items.Pairwise s) :
    (items.insertionSort r).Pairwise fun a b => r a b ∧ (r b a → s a b) := by
  induction items with
  | nil => simp
  | cons head items ih =>
      obtain ⟨before, rest⟩ := List.pairwise_cons.mp listed
      rw [List.insertionSort_cons]
      apply pairwise_orderedInsert_stable _ (ih rest)
      intro other hm
      exact before other ((List.mem_insertionSort r).mp hm)

end Stability

end Ranking
