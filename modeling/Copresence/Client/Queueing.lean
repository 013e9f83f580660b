import Copresence.Client.Connection

/-! What the outbound queue keeps: every message that is not lossy, in order,
and of each lossy type the newest message alone. -/
namespace Copresence

open Collections

/-- The messages no drop policy may touch, in order. -/
def nonLossy (messages : List InboundMessage) : List InboundMessage :=
  messages.filter fun message => classify message.t ≠ .lossy

theorem nonLossy_append (first second : List InboundMessage) :
    nonLossy (first ++ second) = nonLossy first ++ nonLossy second :=
  List.filter_append ..

theorem nonLossy_singleton_lossy {message : InboundMessage} (h : classify message.t = .lossy) :
    nonLossy [message] = [] := by
  simp [nonLossy, h]

theorem nonLossy_idem (messages : List InboundMessage) :
    nonLossy (nonLossy messages) = nonLossy messages := by
  rw [nonLossy, nonLossy, List.filter_filter]
  simp

/-- Replacing an element that a filter drops by another that it drops. -/
theorem filter_set_of_dropped {α : Type} {p : α → Bool} {items : List α} {index : Nat} {new : α}
    (hNew : p new = false) (hOld : ∀ old, items[index]? = some old → p old = false) :
    (items.set index new).filter p = items.filter p := by
  induction items generalizing index with
  | nil => rfl
  | cons item items ih =>
      cases index with
      | zero =>
          have dropped := hOld item rfl
          rw [List.set_cons_zero, List.filter_cons_of_neg (by simp [hNew]),
            List.filter_cons_of_neg (by simp [dropped])]
      | succ index =>
          have rest := ih fun old h => hOld old h
          rw [List.set_cons_succ, List.filter_cons, List.filter_cons, rest]

theorem getElem?_concat_iff {α : Type} {items : List α} {new item : α} {index : Nat} :
    (items ++ [new])[index]? = some item ↔
      items[index]? = some item ∨ (index = items.length ∧ item = new) := by
  rcases Nat.lt_trichotomy index items.length with h | h | h
  · rw [List.getElem?_append_left h]
    constructor
    · exact Or.inl
    · rintro (hi | ⟨rfl, _⟩)
      · exact hi
      · exact absurd h (Nat.lt_irrefl _)
  · rw [h, List.getElem?_concat_length, List.getElem?_eq_none (Nat.le_refl _)]
    simp [eq_comm]
  · rw [List.getElem?_eq_none (by rw [List.length_append, List.length_singleton]; omega),
      List.getElem?_eq_none (by omega)]
    constructor
    · intro hi
      cases hi
    · rintro (hi | ⟨rfl, _⟩)
      · cases hi
      · exact absurd h (Nat.lt_irrefl _)

namespace OutboundQueue

/-- Each lossy type's slot is where the one queued message of the type is. -/
def Slotted (queue : OutboundQueue) : Prop :=
  ∀ t index, queue.lossySlot.get? t = some index ↔
    classify t = .lossy ∧ ∃ message, queue.items[index]? = some message ∧ message.t = t

theorem slotted_empty : empty.Slotted := by
  intro t index
  simp [empty]

variable {queue : OutboundQueue} {message : InboundMessage}

/-- Two queued messages of one lossy type are one and the same. -/
theorem Slotted.unique (slotted : queue.Slotted) {first second : Nat} {one other : InboundMessage}
    (hFirst : queue.items[first]? = some one) (hSecond : queue.items[second]? = some other)
    (lossy : classify one.t = .lossy) (same : other.t = one.t) : first = second := by
  have slot := (slotted one.t first).mpr ⟨lossy, one, hFirst, rfl⟩
  have slot' := (slotted one.t second).mpr ⟨lossy, other, hSecond, same⟩
  exact Option.some.inj (slot.symm.trans slot')

/-- How a message is queued: at the end, or in the place of the queued message
of its type. -/
theorem enqueue_cases (slotted : queue.Slotted) (message : InboundMessage) :
    (classify message.t ≠ .lossy ∧ (queue.enqueue message).items = queue.items ++ [message] ∧
        (queue.enqueue message).lossySlot = queue.lossySlot) ∨
      (classify message.t = .lossy ∧ (∀ old ∈ queue.items, old.t ≠ message.t) ∧
        (queue.enqueue message).items = queue.items ++ [message] ∧
        (queue.enqueue message).lossySlot =
          queue.lossySlot.set message.t queue.items.length) ∨
      (classify message.t = .lossy ∧ ∃ index old, queue.items[index]? = some old ∧
        old.t = message.t ∧ (queue.enqueue message).items = queue.items.set index message ∧
        (queue.enqueue message).lossySlot = queue.lossySlot) := by
  rw [enqueue]
  split
  · next kept => exact Or.inl ⟨kept, rfl, rfl⟩
  · next lossy =>
      have lossy := not_not.mp lossy
      split
      · next index slot =>
          obtain ⟨_, old, h, ht⟩ := (slotted _ _).mp slot
          exact Or.inr (Or.inr ⟨lossy, index, old, h, ht, rfl, rfl⟩)
      · next noSlot =>
          refine Or.inr (Or.inl ⟨lossy, ?_, rfl, rfl⟩)
          intro old hm ht
          obtain ⟨index, h⟩ := List.mem_iff_getElem?.mp hm
          rw [(slotted message.t index).mpr ⟨lossy, old, h, ht⟩] at noSlot
          cases noSlot

/-- A message behind the others adds none of another type. -/
theorem exists_concat_iff_of_ne {items : List InboundMessage} {message : InboundMessage}
    {t : MessageType} (other : message.t ≠ t) {index : Nat} :
    (∃ found, (items ++ [message])[index]? = some found ∧ found.t = t) ↔
      ∃ found, items[index]? = some found ∧ found.t = t := by
  apply exists_congr
  intro found
  rw [getElem?_concat_iff]
  constructor
  · rintro ⟨h | ⟨_, rfl⟩, hf⟩
    · exact ⟨h, hf⟩
    · exact absurd hf other
  · intro ⟨h, hf⟩
    exact ⟨Or.inl h, hf⟩

theorem Slotted.enqueue (slotted : queue.Slotted) (message : InboundMessage) :
    (queue.enqueue message).Slotted := by
  intro t index
  rcases enqueue_cases slotted message with ⟨kept, items, slot⟩ | ⟨lossy, none, items, slot⟩ |
    ⟨lossy, place, old, hOld, ht, items, slot⟩
  · rw [items, slot, slotted t index]
    apply and_congr_right
    intro lossy
    rw [exists_concat_iff_of_ne]
    intro same
    rw [same] at kept
    exact kept lossy
  · rw [items, slot, JsMap.get?_set]
    split
    · next same =>
        subst same
        constructor
        · intro h
          rw [← Option.some.inj h]
          exact ⟨lossy, message, List.getElem?_concat_length, rfl⟩
        · intro ⟨_, found, h, hf⟩
          rcases getElem?_concat_iff.mp h with h | ⟨rfl, _⟩
          · exact absurd hf (none found (List.mem_of_getElem? h))
          · rfl
    · next other =>
        rw [slotted t index, exists_concat_iff_of_ne (Ne.symm other)]
  · rw [items, slot, slotted t index]
    apply and_congr_right
    intro _
    rw [List.getElem?_set]
    split
    · next same =>
        subst same
        have bound : place < queue.items.length := (List.getElem?_eq_some_iff.mp hOld).1
        rw [if_pos bound]
        simp [hOld, ht]
    · exact Iff.rfl

/-- Nothing that is not lossy is dropped, replaced or reordered. -/
theorem nonLossy_enqueue (slotted : queue.Slotted) (message : InboundMessage) :
    nonLossy (queue.enqueue message).items = nonLossy queue.items ++ nonLossy [message] := by
  rcases enqueue_cases slotted message with ⟨_, items, _⟩ | ⟨_, _, items, _⟩ |
    ⟨lossy, place, old, hOld, ht, items, _⟩
  · rw [items, nonLossy_append]
  · rw [items, nonLossy_append]
  · rw [items, nonLossy_singleton_lossy lossy, List.append_nil]
    apply filter_set_of_dropped
    · simp [lossy]
    · intro found h
      rw [hOld] at h
      rw [← Option.some.inj h, ht]
      simp [lossy]

/-- A queued lossy message is the newest one or of another type. -/
theorem mem_enqueue_lossy (slotted : queue.Slotted) {found : InboundMessage}
    (hm : found ∈ (queue.enqueue message).items) (lossy : classify found.t = .lossy) :
    found = message ∨ (found ∈ queue.items ∧ found.t ≠ message.t) := by
  rcases enqueue_cases slotted message with ⟨kept, items, _⟩ | ⟨_, none, items, _⟩ |
    ⟨_, place, old, hOld, ht, items, _⟩
  · rw [items] at hm
    rcases List.mem_append.mp hm with hm | hm
    · refine Or.inr ⟨hm, fun same => ?_⟩
      rw [same] at lossy
      exact kept lossy
    · exact Or.inl (List.mem_singleton.mp hm)
  · rw [items] at hm
    rcases List.mem_append.mp hm with hm | hm
    · exact Or.inr ⟨hm, none found hm⟩
    · exact Or.inl (List.mem_singleton.mp hm)
  · rw [items] at hm
    obtain ⟨index, h⟩ := List.mem_iff_getElem?.mp hm
    by_cases same : place = index
    · rw [← same, List.getElem?_set_self (List.getElem?_eq_some_iff.mp hOld).1] at h
      exact Or.inl (Option.some.inj h).symm
    · rw [List.getElem?_set_ne same] at h
      refine Or.inr ⟨List.mem_of_getElem? h, fun ht' => same ?_⟩
      exact slotted.unique hOld h (by rw [ht, ← ht']; exact lossy) (ht'.trans ht.symm)

end OutboundQueue

namespace ClientConnection

/-- What is left of a flush is queued without its lossy messages. -/
theorem requeue_items (left : List InboundMessage) (queue : OutboundQueue) :
    (requeue left queue).items = queue.items ++ nonLossy left ∧
      (requeue left queue).lossySlot = queue.lossySlot := by
  induction left generalizing queue with
  | nil => exact ⟨(List.append_nil _).symm, rfl⟩
  | cons message left ih =>
      by_cases lossy : classify message.t = .lossy
      · have dropped : requeue (message :: left) queue = requeue left queue := by
          rw [requeue, List.foldl_cons, if_pos lossy]
          rfl
        have kept : nonLossy (message :: left) = nonLossy left :=
          List.filter_cons_of_neg (by simp [lossy])
        rw [dropped, kept]
        exact ih queue
      · have pushed : requeue (message :: left) queue = requeue left (queue.enqueue message) := by
          rw [requeue, List.foldl_cons, if_neg lossy]
          rfl
        have kept : nonLossy (message :: left) = message :: nonLossy left :=
          List.filter_cons_of_pos (by simp [lossy])
        have slot : (queue.enqueue message).lossySlot = queue.lossySlot := by
          rw [OutboundQueue.enqueue, if_pos lossy]
          rfl
        obtain ⟨items, slots⟩ := ih (queue.enqueue message)
        rw [pushed, kept, items, slots, slot, OutboundQueue.enqueue_lossless lossy, List.append_assoc]
        exact ⟨rfl, rfl⟩

theorem requeue_slotted (left : List InboundMessage) :
    (requeue left OutboundQueue.empty).Slotted := by
  obtain ⟨items, slots⟩ := requeue_items left OutboundQueue.empty
  intro t index
  rw [items, slots]
  constructor
  · intro h
    cases h
  · intro ⟨lossy, message, h, ht⟩
    have hm : message ∈ nonLossy left := List.mem_of_getElem? h
    rw [nonLossy, List.mem_filter, decide_eq_true_iff, ht] at hm
    exact absurd lossy hm.2

/-- A flush sends a part from the front. -/
theorem sendPending_append (bufferedAmount : Nat → Int) (i : Nat) (pending : List InboundMessage) :
    (sendPending bufferedAmount i pending).1 ++ (sendPending bufferedAmount i pending).2 =
      pending := by
  induction pending generalizing i with
  | nil => rfl
  | cons message rest ih =>
      rw [sendPending]
      split
      · rfl
      · show message :: (_ ++ _) = _
        rw [ih]

end ClientConnection

end Copresence
