import Copresence.Client.Queueing
import Copresence.Lib.Run
import Copresence.Models.SequenceGuard

/-! What one drain of the outbound queue hands over, and when it is in order of
the sequence numbers. -/
namespace Copresence

open Collections

inductive QueueCall where
  | enqueue (message : InboundMessage)
  | drain

namespace QueueCall

/-- The queue and the batches drained from it so far, the first one first. -/
def step (state : OutboundQueue × List (List InboundMessage)) :
    QueueCall → OutboundQueue × List (List InboundMessage)
  | enqueue message => (state.1.enqueue message, state.2)
  | drain => (state.1.drain.2, state.2 ++ [state.1.drain.1])

def run (calls : List QueueCall) : OutboundQueue × List (List InboundMessage) :=
  Transition.run step (OutboundQueue.empty, []) calls

/-- Everything enqueued, in order. -/
def enqueued : List QueueCall → List InboundMessage
  | [] => []
  | enqueue message :: calls => message :: enqueued calls
  | drain :: calls => enqueued calls

/-- What was enqueued since the last drain. -/
def since (calls : List QueueCall) : List InboundMessage :=
  calls.foldl (fun waiting call =>
    match call with
    | enqueue message => waiting ++ [message]
    | drain => []) []

/-- The lists of messages enqueued before each drain and after the one before. -/
def spans (calls : List QueueCall) : List (List InboundMessage) :=
  (calls.foldl (fun (found : List InboundMessage × List (List InboundMessage)) call =>
    match call with
    | enqueue message => (found.1 ++ [message], found.2)
    | drain => ([], found.2 ++ [found.1])) ([], [])).2

end QueueCall

/-- In order of the sequence numbers. -/
def Increasing (messages : List InboundMessage) : Prop :=
  messages.Pairwise fun first second => first.seq < second.seq

instance (messages : List InboundMessage) : Decidable (Increasing messages) :=
  inferInstanceAs (Decidable (List.Pairwise _ messages))

/-- Of what was enqueued, a message that is not lossy, or the newest of its
type. -/
def Kept (since : List InboundMessage) (message : InboundMessage) : Prop :=
  message ∈ since ∧ (classify message.t = .lossy →
    ∀ other ∈ since, other.t = message.t → other.seq ≤ message.seq)

/-- The first and the newest message of one lossy type. -/
structure Reach (since : List InboundMessage) (first newest : InboundMessage) : Prop where
  first_mem : first ∈ since
  newest_mem : newest ∈ since
  lossy : classify first.t = .lossy
  same : newest.t = first.t
  bounds : ∀ other ∈ since, other.t = first.t → first.seq ≤ other.seq ∧ other.seq ≤ newest.seq

/-- Between the first and the newest message of a lossy type stand no message
that is not lossy, and not both the first and the newest of another lossy type. -/
def Unovertaken (since : List InboundMessage) : Prop :=
  ∀ first newest, Reach since first newest →
    (∀ other ∈ since, classify other.t ≠ .lossy →
      ¬(first.seq < other.seq ∧ other.seq < newest.seq)) ∧
    ∀ opening closing, Reach since opening closing →
      ¬(first.seq < opening.seq ∧ closing.seq < newest.seq)

/-- A slot of the queue was taken by its first message and has its second: the
same, or the newest of the type. -/
inductive Slot (since : List InboundMessage) : InboundMessage × InboundMessage → Prop where
  | kept {message : InboundMessage} (hm : message ∈ since) (h : classify message.t ≠ .lossy) :
      Slot since (message, message)
  | newest {first newest : InboundMessage} (reach : Reach since first newest) :
      Slot since (first, newest)

/-- How the queue stands to what was enqueued since it was last empty. -/
structure Lined (since : List InboundMessage) (slots : List (InboundMessage × InboundMessage))
    (queue : OutboundQueue) : Prop where
  slotted : queue.Slotted
  items : queue.items = slots.map Prod.snd
  ordered : Increasing (slots.map Prod.fst)
  slot : ∀ slot ∈ slots, Slot since slot
  covered : ∀ message ∈ since, ∃ slot ∈ slots, slot.1.t = message.t ∧
    (classify message.t ≠ .lossy → slot = (message, message))

/-- An empty queue is lined up with nothing. -/
theorem lined_empty : Lined [] [] OutboundQueue.empty where
  slotted := OutboundQueue.slotted_empty
  items := rfl
  ordered := List.Pairwise.nil
  slot := by
    intro slot h
    cases h
  covered := by
    intro message hm
    cases hm

section Lined

variable {since : List InboundMessage} {slots : List (InboundMessage × InboundMessage)}
  {queue : OutboundQueue} {message : InboundMessage}

/-- Both messages of a slot were enqueued, of one type, the second no older than
the first. -/
theorem Slot.facts {slot : InboundMessage × InboundMessage} (h : Slot since slot) :
    slot.1 ∈ since ∧ slot.2 ∈ since ∧ slot.2.t = slot.1.t ∧ slot.1.seq ≤ slot.2.seq := by
  cases h with
  | kept hm _ => exact ⟨hm, hm, rfl, Int.le_refl _⟩
  | newest reach =>
      exact ⟨reach.first_mem, reach.newest_mem, reach.same,
        (reach.bounds _ reach.newest_mem reach.same).1⟩

/-- A message of another type leaves a slot as it is. -/
theorem Slot.concat_of_ne {slot : InboundMessage × InboundMessage} (h : Slot since slot)
    (other : slot.1.t ≠ message.t) : Slot (since ++ [message]) slot := by
  cases h with
  | kept hm lossless => exact .kept (List.mem_append_left _ hm) lossless
  | @newest first newest reach =>
      refine .newest ⟨List.mem_append_left _ reach.first_mem,
        List.mem_append_left _ reach.newest_mem, reach.lossy, reach.same, ?_⟩
      intro old hm same
      rcases List.mem_append.mp hm with hm | hm
      · exact reach.bounds old hm same
      · rw [List.mem_singleton.mp hm] at same
        exact absurd same.symm other

/-- A message that is not lossy leaves every slot as it is. -/
theorem Slot.concat_of_kept {slot : InboundMessage × InboundMessage} (h : Slot since slot)
    (lossless : classify message.t ≠ .lossy) : Slot (since ++ [message]) slot := by
  cases h with
  | kept hm other => exact .kept (List.mem_append_left _ hm) other
  | @newest first newest reach =>
      apply (Slot.newest reach).concat_of_ne
      intro same
      exact lossless (same ▸ reach.lossy)

/-- A newer message of its type takes over a slot. -/
theorem Slot.concat_of_eq {slot : InboundMessage × InboundMessage} (h : Slot since slot)
    (lossy : classify message.t = .lossy) (same : slot.1.t = message.t)
    (newer : ∀ old ∈ since, old.seq < message.seq) :
    Slot (since ++ [message]) (slot.1, message) := by
  cases h with
  | kept _ lossless =>
      dsimp only at same
      rw [same] at lossless
      exact absurd lossy lossless
  | @newest first newest reach =>
      dsimp only at same ⊢
      refine .newest ⟨List.mem_append_left _ reach.first_mem,
        List.mem_append_right _ (List.mem_singleton_self _), reach.lossy, same.symm, ?_⟩
      intro old hm hOld
      rcases List.mem_append.mp hm with hm | hm
      · exact ⟨(reach.bounds old hm hOld).1, Int.le_of_lt (newer old hm)⟩
      · rw [List.mem_singleton.mp hm]
        exact ⟨Int.le_of_lt (newer first reach.first_mem), Int.le_refl _⟩

/-- Replacing in the remembered place replaces the one message of the type. -/
theorem set_eq_map {index : Nat} {old : InboundMessage} (slotted : queue.Slotted)
    (hOld : queue.items[index]? = some old) (lossy : classify message.t = .lossy)
    (same : old.t = message.t) :
    queue.items.set index message =
      queue.items.map fun item => if item.t = message.t then message else item := by
  apply List.ext_getElem?
  intro place
  rw [List.getElem?_map]
  by_cases here : index = place
  · subst here
    rw [List.getElem?_set_self (List.getElem?_eq_some_iff.mp hOld).1, hOld, Option.map_some,
      if_pos same]
  · rw [List.getElem?_set_ne here]
    cases hItem : queue.items[place]? with
    | none => rfl
    | some item =>
        rw [Option.map_some, if_neg]
        intro hItemType
        exact here (slotted.unique hOld hItem (same ▸ lossy) (hItemType.trans same.symm))

/-- A message for a slot of its own goes behind the others. -/
theorem Lined.push (lined : Lined since slots queue)
    (newer : ∀ old ∈ since, old.seq < message.seq)
    (items : (queue.enqueue message).items = queue.items ++ [message])
    (own : Slot (since ++ [message]) (message, message))
    (others : ∀ slot ∈ slots, Slot (since ++ [message]) slot) :
    Lined (since ++ [message]) (slots ++ [(message, message)]) (queue.enqueue message) where
  slotted := lined.slotted.enqueue message
  items := by rw [items, lined.items, List.map_append]; rfl
  ordered := by
    rw [Increasing, List.map_append, List.pairwise_append]
    refine ⟨lined.ordered, List.pairwise_singleton _ _, ?_⟩
    intro opening hOpening last hLast
    obtain ⟨slot, hs, rfl⟩ := List.mem_map.mp hOpening
    rw [List.map_singleton, List.mem_singleton] at hLast
    rw [hLast]
    exact newer _ (lined.slot slot hs).facts.1
  slot := by
    intro slot hs
    rcases List.mem_append.mp hs with hs | hs
    · exact others slot hs
    · rw [List.mem_singleton.mp hs]
      exact own
  covered := by
    intro old hm
    rcases List.mem_append.mp hm with hm | hm
    · obtain ⟨slot, hs, covers⟩ := lined.covered old hm
      exact ⟨slot, List.mem_append_left _ hs, covers⟩
    · rw [List.mem_singleton.mp hm]
      exact ⟨_, List.mem_append_right _ (List.mem_singleton_self _), rfl, fun _ => rfl⟩

/-- A newer message takes the slot of its type or a new one at the end. -/
theorem Lined.enqueue (lined : Lined since slots queue)
    (newer : ∀ old ∈ since, old.seq < message.seq) :
    ∃ slots, Lined (since ++ [message]) slots (queue.enqueue message) := by
  have last : message ∈ since ++ [message] := List.mem_append_right _ (List.mem_singleton_self _)
  rcases OutboundQueue.enqueue_cases lined.slotted message with ⟨lossless, items, _⟩ |
    ⟨lossy, none, items, _⟩ | ⟨lossy, index, old, hOld, same, items, _⟩
  · exact ⟨_, lined.push newer items (.kept last lossless)
      fun slot hs => (lined.slot slot hs).concat_of_kept lossless⟩
  · have new : ∀ slot ∈ slots, slot.1.t ≠ message.t := by
      intro slot hs same
      have hItem : slot.2 ∈ queue.items := by
        rw [lined.items]
        exact List.mem_map_of_mem hs
      exact none slot.2 hItem ((lined.slot slot hs).facts.2.2.1.trans same)
    refine ⟨_, lined.push newer items (.newest ⟨last, last, lossy, rfl, ?_⟩)
      fun slot hs => (lined.slot slot hs).concat_of_ne (new slot hs)⟩
    intro other hm same
    rcases List.mem_append.mp hm with hm | hm
    · obtain ⟨slot, hs, hType, _⟩ := lined.covered other hm
      exact absurd (hType.trans same) (new slot hs)
    · rw [List.mem_singleton.mp hm]
      exact ⟨Int.le_refl _, Int.le_refl _⟩
  · refine ⟨slots.map fun slot => (slot.1, if slot.2.t = message.t then message else slot.2), ?_⟩
    constructor
    · exact lined.slotted.enqueue message
    · rw [items, set_eq_map lined.slotted hOld lossy same, lined.items, List.map_map, List.map_map]
      rfl
    · rw [List.map_map]
      exact lined.ordered
    · intro slot hs
      obtain ⟨before, hb, rfl⟩ := List.mem_map.mp hs
      have was := lined.slot before hb
      have hType := was.facts.2.2.1
      split
      · next own => exact was.concat_of_eq lossy (hType.symm.trans own) newer
      · next other => exact was.concat_of_ne fun own => other (hType.trans own)
    · intro other hm
      rcases List.mem_append.mp hm with hm | hm
      · obtain ⟨slot, hs, hType, covers⟩ := lined.covered other hm
        refine ⟨_, List.mem_map_of_mem hs, hType, fun lossless => ?_⟩
        have own := covers lossless
        have kept : slot.2.t ≠ message.t := by
          intro h
          rw [own] at h
          exact lossless (h ▸ lossy)
        rw [if_neg kept, own]
      · rw [List.mem_singleton.mp hm]
        have hm : old ∈ queue.items := List.mem_of_getElem? hOld
        rw [lined.items] at hm
        obtain ⟨slot, hs, rfl⟩ := List.mem_map.mp hm
        have hType := (lined.slot slot hs).facts.2.2.1
        exact ⟨_, List.mem_map_of_mem hs, hType.symm.trans same, fun lossless => absurd lossy lossless⟩

/-- Two members of a list stand in it one way or the other, or are the same. -/
theorem pairwise_cases {α : Type} {R : α → α → Prop} {items : List α} (h : items.Pairwise R) :
    ∀ one ∈ items, ∀ other ∈ items, one = other ∨ R one other ∨ R other one := by
  induction h with
  | nil =>
      intro one hOne
      cases hOne
  | @cons item rest before _ ih =>
      intro one hOne other hOther
      rcases List.mem_cons.mp hOne with rfl | hOneRest
      · rcases List.mem_cons.mp hOther with rfl | hOtherRest
        · exact Or.inl rfl
        · exact Or.inr (Or.inl (before other hOtherRest))
      · rcases List.mem_cons.mp hOther with rfl | hOtherRest
        · exact Or.inr (Or.inr (before one hOneRest))
        · exact ih one hOneRest other hOtherRest

/-- In an increasing list a number is the number of one message. -/
theorem Increasing.inj {messages : List InboundMessage} (ordered : Increasing messages)
    {one other : InboundMessage} (hOne : one ∈ messages) (hOther : other ∈ messages)
    (same : one.seq = other.seq) : one = other := by
  rcases pairwise_cases ordered one hOne other hOther with h | h | h
  · exact h
  · exact absurd same (Int.ne_of_lt h)
  · exact absurd same.symm (Int.ne_of_lt h)

/-- The first and the newest of a lossy type stand in one slot. -/
theorem Lined.exists_of_reach (lined : Lined since slots queue) (ordered : Increasing since)
    {first newest : InboundMessage} (reach : Reach since first newest) :
    (first, newest) ∈ slots := by
  obtain ⟨slot, hs, hType, _⟩ := lined.covered first reach.first_mem
  have here := lined.slot slot hs
  cases here with
  | kept _ lossless =>
      dsimp only at hType
      rw [hType] at lossless
      exact absurd reach.lossy lossless
  | @newest opening closing other =>
      dsimp only at hType
      have hFirst := (other.bounds first reach.first_mem hType.symm).1
      have hOpening := (reach.bounds opening other.first_mem hType).1
      have hNewest := (other.bounds newest reach.newest_mem (reach.same.trans hType.symm)).2
      have hClosing := (reach.bounds closing other.newest_mem (other.same.trans hType)).2
      have starts := ordered.inj reach.first_mem other.first_mem (Int.le_antisymm hOpening hFirst)
      have ends := ordered.inj reach.newest_mem other.newest_mem (Int.le_antisymm hNewest hClosing)
      rw [starts, ends]
      exact hs

/-- A message that is not lossy stands in a slot of its own. -/
theorem Lined.exists_of_kept (lined : Lined since slots queue) {message : InboundMessage}
    (hm : message ∈ since) (lossless : classify message.t ≠ .lossy) :
    (message, message) ∈ slots := by
  obtain ⟨slot, hs, _, own⟩ := lined.covered message hm
  rw [own lossless] at hs
  exact hs

/-- A batch is in order where no slot's message overtakes another's. -/
theorem Lined.increasing_iff_slots (lined : Lined since slots queue) :
    Increasing queue.items ↔
      ∀ one ∈ slots, ∀ other ∈ slots, one.1.seq < other.1.seq → one.2.seq < other.2.seq := by
  have places : slots.Pairwise fun one other => one.1.seq < other.1.seq :=
    (List.pairwise_map (R := fun one other : InboundMessage => one.seq < other.seq)).mp
      lined.ordered
  rw [lined.items, Increasing, List.pairwise_map]
  constructor
  · intro increasing one hOne other hOther ahead
    rcases pairwise_cases (places.and increasing) one hOne other hOther with same | h | h
    · rw [same] at ahead
      exact absurd ahead (Int.lt_irrefl _)
    · exact h.2
    · exact absurd (Int.lt_trans ahead h.1) (Int.lt_irrefl _)
  · intro keeps
    exact places.imp_of_mem fun hOne hOther h => keeps _ hOne _ hOther h

/-- The queue is in order exactly when no kept message was overtaken. -/
theorem Lined.increasing_iff (lined : Lined since slots queue) (ordered : Increasing since) :
    Increasing queue.items ↔ Unovertaken since := by
  rw [lined.increasing_iff_slots]
  constructor
  · intro keeps first newest reach
    have here := lined.exists_of_reach ordered reach
    constructor
    · intro other hm lossless between
      have after := keeps _ here _ (lined.exists_of_kept hm lossless) between.1
      exact absurd (Int.lt_trans after between.2) (Int.lt_irrefl _)
    · intro opening closing inner between
      have after := keeps _ here _ (lined.exists_of_reach ordered inner) between.1
      exact absurd (Int.lt_trans after between.2) (Int.lt_irrefl _)
  · intro free one hOne other hOther places
    have behind := lined.slot other hOther
    have further := behind.facts.2.2.2
    have ahead := lined.slot one hOne
    cases ahead with
    | kept _ _ => exact Int.lt_of_lt_of_le places further
    | @newest first newest reach =>
        dsimp only at places ⊢
        cases behind with
        | @kept message hm lossless =>
            dsimp only at places ⊢
            have upTo := (free first newest reach).1 message hm lossless
            have apart : newest.seq ≠ message.seq := by
              intro same
              rw [← ordered.inj reach.newest_mem hm same, reach.same] at lossless
              exact lossless reach.lossy
            omega
        | @newest opening closing inner =>
            dsimp only at places ⊢
            have upTo := (free first newest reach).2 opening closing inner
            have apart : newest.seq ≠ closing.seq := by
              intro same
              have one := ordered.inj reach.newest_mem inner.newest_mem same
              have hType : first.t = opening.t := by rw [← reach.same, one, inner.same]
              have back := (inner.bounds first reach.first_mem hType).1
              omega
            omega

/-- The queue holds exactly what is to be kept. -/
theorem Lined.mem_iff (lined : Lined since slots queue) (ordered : Increasing since)
    {message : InboundMessage} : message ∈ queue.items ↔ Kept since message := by
  rw [lined.items, List.mem_map]
  constructor
  · rintro ⟨slot, hs, rfl⟩
    have here := lined.slot slot hs
    refine ⟨here.facts.2.1, fun lossy other hm same => ?_⟩
    cases here with
    | kept _ lossless => exact absurd lossy lossless
    | newest reach => exact (reach.bounds other hm (same.trans reach.same)).2
  · intro ⟨hm, newest⟩
    by_cases lossy : classify message.t = .lossy
    · obtain ⟨slot, hs, hType, _⟩ := lined.covered message hm
      have here := lined.slot slot hs
      refine ⟨slot, hs, ?_⟩
      cases here with
      | kept _ lossless =>
          dsimp only at hType
          rw [hType] at lossless
          exact absurd lossy lossless
      | @newest first last reach =>
          dsimp only at hType ⊢
          have upTo := (reach.bounds message hm hType.symm).2
          have above := newest lossy last reach.newest_mem (reach.same.trans hType)
          exact ordered.inj reach.newest_mem hm (Int.le_antisymm above upTo)
    · exact ⟨_, lined.exists_of_kept hm lossy, rfl⟩

/-- Two slots never hold the same message. -/
theorem Lined.nodup (lined : Lined since slots queue) : queue.items.Nodup := by
  rw [lined.items, List.Nodup, List.pairwise_map]
  apply (List.pairwise_map.mp lined.ordered).imp_of_mem
  intro one other hOne hOther places same
  have ahead := lined.slot one hOne
  have behind := lined.slot other hOther
  have hType : one.1.t = other.1.t := by
    rw [← ahead.facts.2.2.1, same, behind.facts.2.2.1]
  cases ahead with
  | kept _ lossless =>
      cases behind with
      | kept _ _ =>
          dsimp only at same places
          rw [same] at places
          exact Int.lt_irrefl _ places
      | newest reach =>
          dsimp only at hType
          rw [hType] at lossless
          exact lossless reach.lossy
  | @newest first newest reach =>
      dsimp only at hType places
      cases behind with
      | kept _ lossless =>
          dsimp only at hType
          rw [← hType] at lossless
          exact lossless reach.lossy
      | newest inner =>
          dsimp only at hType places
          have back := (inner.bounds first reach.first_mem hType).1
          omega

end Lined

namespace QueueCall

/-- One call more is one step more. -/
theorem run_concat (calls : List QueueCall) (call : QueueCall) :
    run (calls ++ [call]) = step (run calls) call :=
  Transition.run_concat ..

/-- An enqueued message is the last since the drain before it. -/
theorem since_enqueue (calls : List QueueCall) (message : InboundMessage) :
    since (calls ++ [enqueue message]) = since calls ++ [message] := by
  rw [since, List.foldl_append]
  rfl

/-- After a drain nothing has been enqueued yet. -/
theorem since_drain (calls : List QueueCall) : since (calls ++ [drain]) = [] := by
  rw [since, List.foldl_append]
  rfl

/-- The messages waiting and the spans before them, as the fold keeps them. -/
theorem spans_fold (calls : List QueueCall) :
    calls.foldl (fun (found : List InboundMessage × List (List InboundMessage)) call =>
      match call with
      | enqueue message => (found.1 ++ [message], found.2)
      | drain => ([], found.2 ++ [found.1])) ([], []) = (since calls, spans calls) := by
  induction calls using List.reverseRecOn with
  | nil => rfl
  | append_singleton calls call ih =>
      rw [spans, List.foldl_append, ih]
      cases call with
      | enqueue message => rw [since_enqueue]; rfl
      | drain => rw [since_drain]; rfl

/-- Enqueueing closes no span. -/
theorem spans_enqueue (calls : List QueueCall) (message : InboundMessage) :
    spans (calls ++ [enqueue message]) = spans calls := by
  rw [spans, List.foldl_append, spans_fold]
  rfl

/-- A drain closes the span of what was enqueued since the one before. -/
theorem spans_drain (calls : List QueueCall) :
    spans (calls ++ [drain]) = spans calls ++ [since calls] := by
  rw [spans, List.foldl_append, spans_fold]
  rfl

/-- What is enqueued in two runs is enqueued in the first, then in the second. -/
theorem enqueued_append (calls later : List QueueCall) :
    enqueued (calls ++ later) = enqueued calls ++ enqueued later := by
  induction calls with
  | nil => rfl
  | cons call calls ih =>
      cases call with
      | enqueue message => rw [List.cons_append, enqueued, enqueued, ih]; rfl
      | drain => exact ih

/-- Everything enqueued is in the spans and what waits behind them. -/
theorem enqueued_eq (calls : List QueueCall) :
    enqueued calls = (spans calls).flatten ++ since calls := by
  induction calls using List.reverseRecOn with
  | nil => rfl
  | append_singleton calls call ih =>
      rw [enqueued_append, ih]
      cases call with
      | enqueue message =>
          rw [spans_enqueue, since_enqueue, List.append_assoc]
          rfl
      | drain =>
          rw [spans_drain, since_drain, List.flatten_append, List.flatten_singleton]
          rfl

/-- The queue and every batch stand to what was enqueued as `Lined` says. -/
theorem run_lined {calls : List QueueCall} (ordered : Increasing (enqueued calls)) :
    (∃ slots, Lined (since calls) slots (run calls).1) ∧
      List.Forall₂ (fun span batch => Increasing span ∧
          ∃ slots queue, Lined span slots queue ∧ queue.items = batch)
        (spans calls) (run calls).2 := by
  induction calls using List.reverseRecOn with
  | nil => exact ⟨⟨[], lined_empty⟩, List.Forall₂.nil⟩
  | append_singleton calls call ih =>
      rw [enqueued_append, Increasing, List.pairwise_append] at ordered
      obtain ⟨⟨slots, lined⟩, batches⟩ := ih ordered.1
      rw [run_concat]
      cases call with
      | enqueue message =>
          rw [since_enqueue, spans_enqueue]
          refine ⟨lined.enqueue ?_, batches⟩
          intro old hm
          have before : old ∈ enqueued calls := by
            rw [enqueued_eq]
            exact List.mem_append_right _ hm
          exact ordered.2.2 old before message List.mem_cons_self
      | drain =>
          rw [since_drain, spans_drain]
          have waiting : Increasing (since calls) := by
            have all := ordered.1
            rw [enqueued_eq, List.pairwise_append] at all
            exact all.2.1
          have last := List.Forall₂.cons (R := fun span batch => Increasing span ∧
            ∃ slots queue, Lined span slots queue ∧ queue.items = batch)
            ⟨waiting, slots, (run calls).1, lined, rfl⟩ List.Forall₂.nil
          exact ⟨⟨[], lined_empty⟩, List.rel_append batches last⟩

/-- What one span says of its batch, all spans say of all batches. -/
theorem forall_iff_of_forall₂ {α β : Type} {P : α → Prop} {Q : β → Prop} {spans : List α}
    {batches : List β} (h : List.Forall₂ (fun span batch => Q batch ↔ P span) spans batches) :
    (∀ batch ∈ batches, Q batch) ↔ ∀ span ∈ spans, P span := by
  induction h with
  | nil => simp
  | cons same _ ih => rw [List.forall_mem_cons, List.forall_mem_cons, same, ih]

/-- Every batch has a span of its own. -/
theorem exists_of_forall₂ {α β : Type} {R : α → β → Prop} {spans : List α} {batches : List β}
    (h : List.Forall₂ R spans batches) {batch : β} (hm : batch ∈ batches) :
    ∃ span ∈ spans, R span batch := by
  induction h with
  | nil => cases hm
  | @cons span first _ _ own _ ih =>
      rcases List.mem_cons.mp hm with rfl | hm
      · exact ⟨span, List.mem_cons_self, own⟩
      · obtain ⟨found, hf, other⟩ := ih hm
        exact ⟨found, List.mem_cons_of_mem _ hf, other⟩

/-- Batches are apart as their spans are. -/
theorem apart_of_forall₂ {spans batches : List (List InboundMessage)}
    (h : List.Forall₂ (fun span batch => ∀ message ∈ batch, message ∈ span) spans batches)
    (apart : spans.Pairwise fun first second =>
      ∀ one ∈ first, ∀ other ∈ second, one.seq < other.seq) :
    batches.Pairwise fun first second =>
      ∀ one ∈ first, ∀ other ∈ second, one.seq < other.seq := by
  induction h with
  | nil => exact List.Pairwise.nil
  | @cons span batch spans batches within rest ih =>
      rw [List.pairwise_cons] at apart ⊢
      refine ⟨?_, ih apart.2⟩
      intro later hLater one hOne other hOther
      obtain ⟨span', hSpan, within'⟩ := exists_of_forall₂ rest hLater
      exact apart.1 span' hSpan one (within one hOne) other (within' other hOther)

/-- What each batch holds, and when it is in order. -/
theorem run_batches {calls : List QueueCall} (ordered : Increasing (enqueued calls)) :
    List.Forall₂ (fun span batch => (batch.Nodup ∧ ∀ message, message ∈ batch ↔ Kept span message) ∧
        (Increasing batch ↔ Unovertaken span))
      (spans calls) (run calls).2 := by
  apply (run_lined ordered).2.imp
  rintro span batch ⟨increasing, slots, queue, lined, rfl⟩
  exact ⟨⟨lined.nodup, fun message => lined.mem_iff increasing⟩, lined.increasing_iff increasing⟩

/-- A guard takes all batches, one after the other, when each is in order. -/
theorem acceptAll_batches {calls : List QueueCall} (ordered : Increasing (enqueued calls)) :
    SequenceGuard.acceptAll {} ((run calls).2.flatten.map InboundMessage.seq) = true ↔
      ∀ batch ∈ (run calls).2, Increasing batch := by
  have within : List.Forall₂ (fun span batch => ∀ message ∈ batch, message ∈ span)
      (spans calls) (run calls).2 := by
    apply (run_batches ordered).imp
    intro span batch h message hm
    exact ((h.1.2 message).mp hm).1
  rw [enqueued_eq, Increasing, List.pairwise_append, List.pairwise_flatten] at ordered
  have apart := apart_of_forall₂ within ordered.1.2
  have fresh : ∀ seq ∈ (run calls).2.flatten.map InboundMessage.seq,
      SequenceGuard.Newer {} seq := by
    intro seq _ last hl
    cases hl
  rw [SequenceGuard.acceptAll_iff, and_iff_right fresh, List.pairwise_map, List.pairwise_flatten,
    and_iff_left apart]
  rfl

/-- Every batch is of the messages that are not lossy and the newest of each
lossy type; all are in order, as the server's guard asks, exactly when nothing
stands where a lossy message would overtake it. -/
theorem batches_ordered_iff (calls : List QueueCall) (ordered : Increasing (enqueued calls)) :
    List.Forall₂ (fun span batch => batch.Nodup ∧ ∀ message, message ∈ batch ↔ Kept span message)
      (spans calls) (run calls).2 ∧
    ((∀ batch ∈ (run calls).2, Increasing batch) ↔ ∀ span ∈ spans calls, Unovertaken span) ∧
    (SequenceGuard.acceptAll {} ((run calls).2.flatten.map InboundMessage.seq) = true ↔
      ∀ span ∈ spans calls, Unovertaken span) := by
  have batches := run_batches ordered
  have inOrder : (∀ batch ∈ (run calls).2, Increasing batch) ↔
      ∀ span ∈ spans calls, Unovertaken span := by
    apply forall_iff_of_forall₂
    apply batches.imp
    intro span batch h
    exact h.2
  refine ⟨?_, inOrder, ?_⟩
  · apply batches.imp
    intro span batch h
    exact h.1
  · rw [acceptAll_batches ordered, inOrder]

def envelope (seq : Int) : Envelope :=
  { v := 1, sid := ⟨"s", nonempty_s⟩, pid := ⟨"a", nonempty_a⟩, seq := seq, ts := 0 }

def cursor (seq : Int) : QueueCall :=
  enqueue (.cursor { toEnvelope := envelope seq, x := 0, y := 0 })

def bye (seq : Int) : QueueCall := enqueue (.bye { toEnvelope := envelope seq })

/-- The cursor is replaced while it is the last in the queue. -/
def replacedLast : List QueueCall := [bye 1, cursor 2, cursor 3, drain, cursor 4, bye 5, drain]

/-- The cursor is replaced in its place before the bye. -/
def replacedFirst : List QueueCall := [cursor 1, bye 2, cursor 3, drain]

/-- Replacing the last message of a queue overtakes nothing. -/
theorem replacedLast_unovertaken :
    Increasing (enqueued replacedLast) ∧ ∀ span ∈ spans replacedLast, Unovertaken span := by
  have ordered : Increasing (enqueued replacedLast) := by decide
  refine ⟨ordered, (batches_ordered_iff replacedLast ordered).2.2.mp ?_⟩
  decide

/-- The batch is cursor 3, bye 2, and the guard refuses the bye. -/
theorem replacedFirst_refused :
    Increasing (enqueued replacedFirst) ∧
      (run replacedFirst).2.map (fun batch => batch.map InboundMessage.seq) = [[3, 2]] ∧
      ¬ (∀ batch ∈ (run replacedFirst).2, Increasing batch) ∧
      SequenceGuard.acceptAll {} ((run replacedFirst).2.flatten.map InboundMessage.seq) = false := by
  decide

end QueueCall

end Copresence
