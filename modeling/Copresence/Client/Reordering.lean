import Copresence.Client.Remotes
import Copresence.Server.Run
import Mathlib.Data.List.Perm.Subperm
import Mathlib.Data.List.MinMax
import Mathlib.Algebra.Order.Ring.Int

/-! Reordered and duplicated delivery. Patches are guarded by their number,
joins and leaves by nothing: which lists of messages come out the same however
they are delivered. -/
namespace Copresence

open Collections

open Client (Shown)

/-- The roster and presence messages of one client after its welcome: joins
announce newcomers, without coordinates, and no number is used twice. -/
structure SentAfterWelcome (sent : List OutboundMessage) : Prop where
  kinds : ∀ message ∈ sent,
    (∃ msg, message = .join msg) ∨ (∃ msg, message = .leave msg) ∨ ∃ msg, message = .patch msg
  bareJoins : ∀ msg, .join msg ∈ sent → ∀ field : PresenceField,
    field.ofSnapshot msg.participant = none
  numbered : ∀ first second, .patch first ∈ sent → .patch second ∈ sent →
    first.seq = second.seq → first = second

/-- Nothing lost, anything repeated, any order. -/
structure DeliveryOf (sent delivered : List OutboundMessage) : Prop where
  complete : sent.Subperm delivered
  genuine : ∀ message ∈ delivered, message ∈ sent

def Joins (sent : List OutboundMessage) (pid : ParticipantId) (color : String) : Prop :=
  ∃ msg, .join msg ∈ sent ∧ msg.participant.pid = pid ∧ msg.participant.color = color

def Leaves (sent : List OutboundMessage) (pid : ParticipantId) : Prop :=
  ∃ msg, .leave msg ∈ sent ∧ msg.pid = pid

/-- A patch of the list that is newer than what the client had at the start. -/
def Effective (start : Client) (sent : List OutboundMessage) (patch : PatchMessage) : Prop :=
  .patch patch ∈ sent ∧ start.Fresh patch.seq

/-- The newest effective patch. -/
def Top (start : Client) (sent : List OutboundMessage) (top : PatchMessage) : Prop :=
  Effective start sent top ∧ ∀ patch, Effective start sent patch → patch.seq ≤ top.seq

/-- The messages about `pid` that make its picture independent of delivery. -/
structure OrderFree (start : Client) (sent : List OutboundMessage) (pid : ParticipantId) :
    Prop where
  /-- Whoever leaves is not mentioned otherwise. -/
  leaves : Leaves sent pid →
    (∀ color, ¬ Joins sent pid color) ∧ ∀ patch, Effective start sent patch → ¬ patch.Names pid
  /-- All joins agree on the colour. -/
  colors : ∀ first second, Joins sent pid first → Joins sent pid second → first = second
  /-- Somebody known only from patches is in the newest. -/
  appears : start.shown pid = none → (∀ color, ¬ Joins sent pid color) →
    ∀ patch, Effective start sent patch → patch.Names pid →
      ∃ top, Top start sent top ∧ top.Names pid
  /-- A position sent is in the newest patch, or was there from the start. -/
  fields : ∀ (field : PresenceField) patch value, Effective start sent patch →
    field.carried pid patch.patches = some value →
      (∃ top, Top start sent top ∧ (field.carried pid top.patches).isSome) ∨
        field.shownOf (start.shown pid) = some value

section Messages

variable (pid : ParticipantId) (old : Option Shown)

/-- After a list of patches a field shows the last value carried for it, or what it did. -/
theorem Picture.shownOf_foldl_patched (field : PresenceField) (patches : List ParticipantPatch) :
    field.shownOf (patches.foldl (patched pid) old) =
      (field.carried pid patches).or (field.shownOf old) := by
  induction patches generalizing old with
  | nil => rfl
  | cons patch patches ih =>
      have one : field.shownOf (patched pid old patch) =
          (if pid = patch.pid then field.ofPatch patch else none).or (field.shownOf old) := by
        rw [patched]
        split
        · cases old <;> cases field <;> simp [PresenceField.shownOf, Shown.patch, Shown.move,
            PresenceField.ofShown, PresenceField.ofPatch]
        · rfl
      rw [List.foldl_cons, ih, one, PresenceField.carried, Option.or_assoc]

/-- A patch shows somebody unknown in grey, and nobody in another color than before. -/
theorem Picture.color_foldl_patched (patches : List ParticipantPatch) :
    (patches.foldl (patched pid) old).map Shown.color =
      if pid ∈ patches.map ParticipantPatch.pid then
        some ((old.map Shown.color).getD "#888888")
      else old.map Shown.color := by
  induction patches generalizing old with
  | nil => rfl
  | cons patch patches ih =>
      rw [List.foldl_cons, ih, patched, List.map_cons]
      by_cases hp : pid = patch.pid
      · rw [if_pos hp, if_pos (List.mem_cons.mpr (Or.inl hp))]
        cases old <;> simp [Shown.patch, Shown.move]
      · rw [if_neg hp]
        simp only [List.mem_cons, hp, false_or]

/-- A patch colours a newcomer grey and nobody else. -/
theorem Picture.color_patch (patch : PatchMessage) :
    (patch.patches.foldl (patched pid) old).map Shown.color =
      if patch.Names pid then some ((old.map Shown.color).getD "#888888")
      else old.map Shown.color :=
  color_foldl_patched pid old patch.patches

/-- A snapshot without a position moves nobody. -/
theorem Picture.shownOf_upserted_bare (field : PresenceField) (participant : ParticipantSnapshot)
    (bare : field.ofSnapshot participant = none) :
    field.shownOf (upserted pid old participant) = field.shownOf old := by
  rw [shownOf_upserted, bare, ite_self, Option.none_or]

/-- A snapshot brings the color of its participant. -/
theorem Picture.color_upserted (participant : ParticipantSnapshot) :
    (upserted pid old participant).map Shown.color =
      if pid = participant.pid then some participant.color else old.map Shown.color := by
  rw [upserted]
  split
  · rfl
  · rfl

end Messages

section Deliveries

variable {start : Client} {sent delivered : List OutboundMessage} {pid : ParticipantId}

/-- The guard never falls back behind where it started. -/
def Behind (start : Client) (picture : Picture) : Prop :=
  ∀ seq, picture.Fresh seq → start.Fresh seq

/-- At the start the guard has not fallen back. -/
theorem behind_start : Behind start (start.picture pid) := fun _ fresh => fresh

/-- No message that was sent takes the guard back behind where it started. -/
theorem Behind.see (sentOk : SentAfterWelcome sent) {picture : Picture}
    (behind : Behind start picture) {message : OutboundMessage} (hm : message ∈ sent) :
    Behind start (picture.see pid message) := by
  rcases sentOk.kinds message hm with ⟨msg, rfl⟩ | ⟨msg, rfl⟩ | ⟨msg, rfl⟩
  · exact behind
  · rw [Picture.see]
    split
    · exact behind
    · exact behind
  · rw [Picture.see]
    split
    · next fresh =>
        intro seq later last hl
        have here := behind msg.seq fresh last hl
        have next := later msg.seq rfl
        omega
    · exact behind

/-- A property of what is shown that no message of the list disturbs. -/
theorem stays_shown (sentOk : SentAfterWelcome sent) (delivery : DeliveryOf sent delivered)
    {P : Option Shown → Prop} (initially : P (start.shown pid))
    (joins : ∀ msg old, .join msg ∈ sent → P old → P (Picture.upserted pid old msg.participant))
    (leaves : Leaves sent pid → P none)
    (patches : ∀ patch old, Effective start sent patch → P old →
      P (patch.patches.foldl (Picture.patched pid) old)) :
    P (Transition.run (Picture.see pid) (start.picture pid) delivered).shown := by
  refine (Transition.invariant_run_mem
    (P := fun picture => Behind start picture ∧ P picture.shown) ⟨behind_start, initially⟩ ?_).2
  intro picture message hd ⟨behind, holds⟩
  have hm := delivery.genuine message hd
  refine ⟨behind.see sentOk hm, ?_⟩
  rcases sentOk.kinds message hm with ⟨msg, rfl⟩ | ⟨msg, rfl⟩ | ⟨msg, rfl⟩
  · exact joins msg _ hm holds
  · rw [Picture.see]
    split
    · next he => exact leaves ⟨msg, hm, he.symm⟩
    · exact holds
  · rw [Picture.see]
    split
    · next fresh => exact patches msg _ ⟨hm, behind _ fresh⟩ holds
    · exact holds

/-- What the newest patch makes true, and joins do not undo, is true in the
end: it is applied whenever it comes first, and nothing is applied after it. -/
theorem top_decides (sentOk : SentAfterWelcome sent) (delivery : DeliveryOf sent delivered)
    {top : PatchMessage} (hTop : Top start sent top) (stays : ¬ Leaves sent pid)
    {P : Option Shown → Prop}
    (joins : ∀ msg old, .join msg ∈ sent → P old → P (Picture.upserted pid old msg.participant))
    (decides : ∀ old, P (top.patches.foldl (Picture.patched pid) old)) :
    P (Transition.run (Picture.see pid) (start.picture pid) delivered).shown := by
  obtain ⟨⟨topSent, topFresh⟩, newest⟩ := hTop
  have occurs : .patch top ∈ delivered := delivery.complete.subset topSent
  let Guarded : Picture → Prop := fun picture =>
    Behind start picture ∧ (picture.Fresh top.seq ∨ picture.lastPatchSeq = some top.seq) ∧
      (picture.lastPatchSeq = some top.seq → P picture.shown)
  have initially : Guarded (start.picture pid) := by
    refine ⟨behind_start, Or.inl topFresh, fun reached => ?_⟩
    have earlier := topFresh top.seq reached
    omega
  have preserved : ∀ picture, ∀ message ∈ delivered, Guarded picture →
      Guarded (picture.see pid message) := by
    rintro picture message hd ⟨behind, below, holds⟩
    have hm := delivery.genuine message hd
    refine ⟨behind.see sentOk hm, ?_⟩
    rcases sentOk.kinds message hm with ⟨msg, rfl⟩ | ⟨msg, rfl⟩ | ⟨msg, rfl⟩
    · exact ⟨below, fun reached => joins msg _ hm (holds reached)⟩
    · rw [Picture.see, if_neg fun he => stays ⟨msg, hm, he.symm⟩]
      exact ⟨below, holds⟩
    · rw [Picture.see]
      split
      · next fresh =>
          have le := newest msg ⟨hm, behind _ fresh⟩
          by_cases same : msg.seq = top.seq
          · obtain rfl := sentOk.numbered msg top hm topSent same
            exact ⟨Or.inr rfl, fun _ => decides _⟩
          · refine ⟨Or.inl ?_, fun reached => absurd (Option.some.inj reached) same⟩
            rintro last ⟨⟩
            omega
      · exact ⟨below, holds⟩
  have kept : ∀ picture : Picture, ∀ message ∈ delivered, Guarded picture →
      picture.lastPatchSeq = some top.seq →
      (picture.see pid message).lastPatchSeq = some top.seq := by
    rintro picture message hd ⟨behind, -⟩ reached
    have hm := delivery.genuine message hd
    rcases sentOk.kinds message hm with ⟨msg, rfl⟩ | ⟨msg, rfl⟩ | ⟨msg, rfl⟩
    · exact reached
    · rw [Picture.see]
      split
      · exact reached
      · exact reached
    · rw [Picture.see, if_neg]
      · exact reached
      · intro fresh
        have le := newest msg ⟨hm, behind _ fresh⟩
        have lt := fresh top.seq reached
        omega
  have reached := Transition.eventually_run initially preserved kept occurs (by
    rintro picture ⟨-, below, -⟩
    rw [Picture.see]
    split
    · rfl
    · next stale => exact below.resolve_left stale)
  exact (Transition.invariant_run_mem initially preserved).2.2 reached

/-- The joins of the list bring no positions. -/
theorem SentAfterWelcome.join_keeps (sentOk : SentAfterWelcome sent) (field : PresenceField)
    (position : Option (ℚ × ℚ)) (msg : JoinMessage) (old : Option Shown) (hm : .join msg ∈ sent)
    (holds : field.shownOf old = position) :
    field.shownOf (Picture.upserted pid old msg.participant) = position := by
  rw [Picture.shownOf_upserted_bare pid old field _ (sentOk.bareJoins msg hm field)]
  exact holds

/-- The last join to arrive has the colour of all joins. -/
theorem OrderFree.color_joined (sentOk : SentAfterWelcome sent) (free : OrderFree start sent pid)
    (stays : ¬ Leaves sent pid) {color : String} (joins : Joins sent pid color)
    (delivery : DeliveryOf sent delivered) :
    (Transition.run (Picture.see pid) (start.picture pid) delivered).shown.map Shown.color =
      some color := by
  obtain ⟨msg, hSent, hPid, hColor⟩ := joins
  have occurs := delivery.complete.subset hSent
  refine Transition.eventually_run (P := fun _ => True)
    (Q := fun picture : Picture => picture.shown.map Shown.color = some color) trivial
    (fun _ _ _ _ => trivial) ?_ occurs ?_
  · intro picture message hd _ colored
    rcases sentOk.kinds message (delivery.genuine message hd) with
      ⟨other, rfl⟩ | ⟨other, rfl⟩ | ⟨other, rfl⟩
    · rw [Picture.see, Picture.color_upserted]
      split
      · next he =>
          rw [free.colors _ _ ⟨other, delivery.genuine _ hd, he.symm, rfl⟩
            ⟨msg, hSent, hPid, hColor⟩]
      · exact colored
    · rw [Picture.see, if_neg fun he => stays ⟨other, delivery.genuine _ hd, he.symm⟩]
      exact colored
    · rw [Picture.see]
      split
      · rw [Picture.color_patch, colored]
        split <;> rfl
      · exact colored
  · intro picture _
    rw [Picture.see, Picture.color_upserted, if_pos hPid.symm, hColor]

section Unjoined

variable (sentOk : SentAfterWelcome sent) (stays : ¬ Leaves sent pid)
  (noJoin : ∀ msg, .join msg ∈ sent → pid ≠ msg.participant.pid)

include noJoin in
/-- A join of somebody else does not change what is shown. -/
theorem upserted_unjoined (msg : JoinMessage) (old : Option Shown) (hm : .join msg ∈ sent) :
    Picture.upserted pid old msg.participant = old := by
  rw [Picture.upserted, if_neg (noJoin msg hm)]

include sentOk stays noJoin

/-- Somebody shown from the start keeps the color, however the messages come. -/
theorem color_known {shown : Shown} (hStart : start.shown pid = some shown)
    (delivery : DeliveryOf sent delivered) :
    (Transition.run (Picture.see pid) (start.picture pid) delivered).shown.map Shown.color =
      some shown.color := by
  refine stays_shown sentOk delivery (P := fun old => old.map Shown.color = some shown.color)
    (by rw [hStart]; rfl) (fun msg old hm holds => by rwa [upserted_unjoined noJoin msg old hm])
    (fun left => absurd left stays) ?_
  intro patch old _ holds
  rw [Picture.color_patch, holds]
  split <;> rfl

/-- Grey whenever it is there, and there because of the newest patch. -/
theorem color_appeared (hStart : start.shown pid = none) {top : PatchMessage}
    (hTop : Top start sent top) (hNamed : top.Names pid) (delivery : DeliveryOf sent delivered) :
    (Transition.run (Picture.see pid) (start.picture pid) delivered).shown.map Shown.color =
      some "#888888" := by
  have initially : ((start.shown pid).map Shown.color).getD "#888888" = "#888888" := by
    rw [hStart]
    rfl
  have grey := stays_shown sentOk delivery
    (P := fun old => (old.map Shown.color).getD "#888888" = "#888888") initially
    (fun msg old hm holds => by rwa [upserted_unjoined noJoin msg old hm]) (fun left => absurd left stays)
    (fun patch old _ holds => by
      rw [Picture.color_patch]
      split
      · exact holds
      · exact holds)
  have there := top_decides sentOk delivery hTop stays
    (P := fun old => (old.map Shown.color).isSome)
    (fun msg old hm holds => by rwa [upserted_unjoined noJoin msg old hm])
    (fun old => by
      rw [Picture.color_patch, if_pos hNamed]
      rfl)
  obtain ⟨color, hc⟩ := Option.isSome_iff_exists.mp there
  rw [hc] at grey ⊢
  exact congrArg some grey

/-- Somebody no newer patch names is not shown by patches alone. -/
theorem color_unnamed (hStart : start.shown pid = none)
    (unnamed : ∀ patch, Effective start sent patch → ¬ patch.Names pid)
    (delivery : DeliveryOf sent delivered) :
    (Transition.run (Picture.see pid) (start.picture pid) delivered).shown.map Shown.color =
      none := by
  refine stays_shown sentOk delivery (P := fun old => old.map Shown.color = none)
    (by rw [hStart]; rfl) (fun msg old hm holds => by rwa [upserted_unjoined noJoin msg old hm])
    (fun left => absurd left stays) ?_
  intro patch old effective holds
  rw [Picture.unnamed_patch pid _ patch (unnamed patch effective)]
  exact holds

end Unjoined

/-- The final colour, or absence, does not depend on the delivery. -/
theorem OrderFree.color (sentOk : SentAfterWelcome sent) (free : OrderFree start sent pid)
    (stays : ¬ Leaves sent pid) : ∃ color, ∀ delivered, DeliveryOf sent delivered →
      (Transition.run (Picture.see pid) (start.picture pid) delivered).shown.map Shown.color =
        color := by
  by_cases joined : ∃ color, Joins sent pid color
  · obtain ⟨color, joins⟩ := joined
    exact ⟨some color, fun _ => free.color_joined sentOk stays joins⟩
  · have noJoin : ∀ msg, .join msg ∈ sent → pid ≠ msg.participant.pid :=
      fun msg hm he => joined ⟨msg.participant.color, msg, hm, he.symm, rfl⟩
    cases hStart : start.shown pid with
    | some shown => exact ⟨some shown.color, fun _ => color_known sentOk stays noJoin hStart⟩
    | none =>
        by_cases named : ∃ patch, Effective start sent patch ∧ patch.Names pid
        · obtain ⟨patch, effective, hNames⟩ := named
          obtain ⟨top, hTop, hNamed⟩ := free.appears hStart
            (fun color hj => joined ⟨color, hj⟩) patch effective hNames
          exact ⟨some "#888888", fun _ => color_appeared sentOk stays noJoin hStart hTop hNamed⟩
        · exact ⟨none, fun _ => color_unnamed sentOk stays noJoin hStart
            fun patch effective h => named ⟨patch, effective, h⟩⟩

/-- Nor does either position. -/
theorem OrderFree.field (sentOk : SentAfterWelcome sent) (free : OrderFree start sent pid)
    (stays : ¬ Leaves sent pid) (field : PresenceField) :
    ∃ position, ∀ delivered, DeliveryOf sent delivered →
      field.shownOf
        (Transition.run (Picture.see pid) (start.picture pid) delivered).shown = position := by
  by_cases decided : ∃ top, Top start sent top ∧ (field.carried pid top.patches).isSome
  · obtain ⟨top, hTop, hCarried⟩ := decided
    obtain ⟨value, hv⟩ := Option.isSome_iff_exists.mp hCarried
    refine ⟨some value, fun delivered delivery => ?_⟩
    refine top_decides sentOk delivery hTop stays (P := fun old => field.shownOf old = some value)
      (sentOk.join_keeps field _) ?_
    intro old
    rw [Picture.shownOf_foldl_patched, hv]
    rfl
  · refine ⟨field.shownOf (start.shown pid), fun delivered delivery => ?_⟩
    refine stays_shown sentOk delivery
      (P := fun old => field.shownOf old = field.shownOf (start.shown pid)) rfl
      (sentOk.join_keeps field _) (fun left => absurd left stays) ?_
    intro patch old effective holds
    rw [Picture.shownOf_foldl_patched, holds]
    cases hv : field.carried pid patch.patches with
    | none => rfl
    | some value => exact ((free.fields field patch value effective hv).resolve_left decided).symm

/-- Somebody who leaves is gone in the end, however the messages come. -/
theorem OrderFree.left (sentOk : SentAfterWelcome sent) (free : OrderFree start sent pid)
    (left : Leaves sent pid) (delivery : DeliveryOf sent delivered) :
    (Transition.run (Picture.see pid) (start.picture pid) delivered).shown = none := by
  obtain ⟨noJoin, unnamed⟩ := free.leaves left
  obtain ⟨msg, hSent, rfl⟩ := left
  refine Transition.eventually_run (P := Behind start)
    (Q := fun picture : Picture => picture.shown = none) behind_start
    (fun picture message hd behind => behind.see sentOk (delivery.genuine message hd)) ?_
    (delivery.complete.subset hSent) ?_
  · intro picture message hd behind gone
    have hm := delivery.genuine message hd
    rcases sentOk.kinds message hm with ⟨other, rfl⟩ | ⟨other, rfl⟩ | ⟨other, rfl⟩
    · rw [Picture.see, Picture.upserted, if_neg]
      · exact gone
      · exact fun he => noJoin _ ⟨other, hm, he.symm, rfl⟩
    · rw [Picture.see]
      split
      · rfl
      · exact gone
    · rw [Picture.see]
      split
      · next fresh =>
          rw [Picture.unnamed_patch _ _ other (unnamed other ⟨hm, behind _ fresh⟩)]
          exact gone
      · exact gone
  · intro picture _
    rw [Picture.see, if_pos rfl]

/-- Where the order is free, any two deliveries show the same. -/
theorem OrderFree.same (sentOk : SentAfterWelcome sent) (free : OrderFree start sent pid)
    {first second : List OutboundMessage} (hFirst : DeliveryOf sent first)
    (hSecond : DeliveryOf sent second) :
    (Transition.run (Picture.see pid) (start.picture pid) first).shown =
      (Transition.run (Picture.see pid) (start.picture pid) second).shown := by
  by_cases left : Leaves sent pid
  · rw [free.left sentOk left hFirst, free.left sentOk left hSecond]
  · refine shown_ext ?_ fun field => ?_
    · obtain ⟨color, settled⟩ := free.color sentOk left
      rw [settled first hFirst, settled second hSecond]
    · obtain ⟨position, settled⟩ := free.field sentOk left field
      rw [settled first hFirst, settled second hSecond]

theorem DeliveryOf.refl : DeliveryOf sent sent := ⟨List.Subperm.refl sent, fun _ h => h⟩

/-- A repeated message may come last. -/
theorem DeliveryOf.concat {message : OutboundMessage} (hm : message ∈ sent) :
    DeliveryOf sent (sent ++ [message]) := by
  refine ⟨(List.sublist_append_left sent [message]).subperm, fun other h => ?_⟩
  rcases List.mem_append.mp h with h | h
  · exact h
  · rw [List.mem_singleton.mp h]
    exact hm

/-- Or first. -/
theorem DeliveryOf.cons (delivery : DeliveryOf sent delivered) {message : OutboundMessage}
    (hm : message ∈ sent) : DeliveryOf sent (message :: delivered) := by
  refine ⟨delivery.complete.trans (List.sublist_cons_self message delivered).subperm,
    fun other h => ?_⟩
  rcases List.mem_cons.mp h with rfl | h
  · exact hm
  · exact delivery.genuine other h

/-- One kind of message may overtake all others, and a repeated one come
between. -/
theorem DeliveryOf.overtaking (early : OutboundMessage → Bool) {message : OutboundMessage}
    (hm : message ∈ sent) :
    DeliveryOf sent (sent.filter early ++ message :: sent.filter fun other => !early other) := by
  refine ⟨?_, fun other h => ?_⟩
  · have split := (List.filter_append_perm early sent).symm.subperm
    refine split.trans (List.Sublist.subperm ?_)
    exact List.Sublist.append (List.Sublist.refl _) (List.sublist_cons_self _ _)
  · rcases List.mem_append.mp h with h | h
    · exact (List.mem_filter.mp h).1
    · rcases List.mem_cons.mp h with rfl | h
      · exact hm
      · exact (List.mem_filter.mp h).1

def asPatch : OutboundMessage → Option PatchMessage
  | .patch msg => some msg
  | _ => none

/-- Among the newer patches there is a newest. -/
theorem exists_top {patch : PatchMessage} (effective : Effective start sent patch) :
    ∃ top, Top start sent top := by
  have effective_iff : ∀ other, other ∈ (sent.filterMap asPatch).filter
      (fun other => start.Fresh other.seq) ↔ Effective start sent other := by
    intro other
    rw [List.mem_filter, List.mem_filterMap, decide_eq_true_eq]
    refine and_congr_left fun _ => ⟨?_, fun h => ⟨_, h, rfl⟩⟩
    intro ⟨message, hm, hp⟩
    cases message <;> cases hp
    exact hm
  cases h : ((sent.filterMap asPatch).filter fun other => start.Fresh other.seq).argmax
      (fun other => other.seq) with
  | none =>
      rw [List.argmax_eq_none] at h
      have listed := (effective_iff patch).mpr effective
      rw [h] at listed
      cases listed
  | some top =>
      refine ⟨top, (effective_iff top).mp (List.argmax_mem h), fun other hOther => ?_⟩
      exact List.le_of_mem_argmax (f := fun other : PatchMessage => other.seq)
        ((effective_iff other).mpr hOther) h

/-- An effective patch that comes first is applied. -/
theorem Effective.see {patch : PatchMessage} (effective : Effective start sent patch) :
    (start.picture pid).see pid (.patch patch) =
      { lastPatchSeq := some patch.seq
        shown := patch.patches.foldl (Picture.patched pid) (start.shown pid) } :=
  if_pos effective.2

/-- Once the newest patch was seen, only joins and leaves have an effect. -/
theorem after_top (sentOk : SentAfterWelcome sent) {top : PatchMessage}
    (hTop : Top start sent top) (stays : ¬ Leaves sent pid) {P : Option Shown → Prop}
    (joins : ∀ msg old, .join msg ∈ sent → P old → P (Picture.upserted pid old msg.participant))
    {picture : Picture} (reached : picture.lastPatchSeq = some top.seq) (holds : P picture.shown) :
    P (Transition.run (Picture.see pid) picture sent).shown := by
  refine (Transition.invariant_run_mem (P := fun picture : Picture =>
    picture.lastPatchSeq = some top.seq ∧ P picture.shown) ⟨reached, holds⟩ ?_).2
  intro picture message hm ⟨reached, holds⟩
  rcases sentOk.kinds message hm with ⟨msg, rfl⟩ | ⟨msg, rfl⟩ | ⟨msg, rfl⟩
  · exact ⟨reached, joins msg _ hm holds⟩
  · rw [Picture.see, if_neg fun he => stays ⟨msg, hm, he.symm⟩]
    exact ⟨reached, holds⟩
  · rw [Picture.see, if_neg]
    · exact ⟨reached, holds⟩
    · intro fresh
      have newer := fresh top.seq reached
      have older := hTop.2 msg ⟨hm, fun last hl => by
        have := hTop.1.2 last hl
        omega⟩
      omega

/-- Whoever is shown stays so while nobody reports a leave. -/
theorem stays_there (pid : ParticipantId) (sentOk : SentAfterWelcome sent) (messages : List OutboundMessage)
    (genuine : ∀ m ∈ messages, m ∈ sent) (stays : ¬ Leaves messages pid) (picture : Picture)
    (there : (picture.shown.map Shown.color).isSome) :
    ((Transition.run (Picture.see pid) picture messages).shown.map Shown.color).isSome := by
  refine Transition.invariant_run_mem
    (P := fun picture : Picture => (picture.shown.map Shown.color).isSome) there ?_
  intro picture message hm there
  rcases sentOk.kinds message (genuine message hm) with ⟨msg, rfl⟩ | ⟨msg, rfl⟩ | ⟨msg, rfl⟩
  · rw [Picture.see, Picture.color_upserted]
    split
    · rfl
    · exact there
  · rw [Picture.see, if_neg fun he => stays ⟨msg, hm, he.symm⟩]
    exact there
  · rw [Picture.see]
    split
    · rw [Picture.color_patch]
      split
      · rfl
      · exact there
    · exact there

/-- All deliveries of the list show the same of this participant. -/
def SameHowever (start : Client) (sent : List OutboundMessage) (pid : ParticipantId) : Prop :=
  ∀ first second, DeliveryOf sent first → DeliveryOf sent second →
    (Transition.run (Picture.see pid) (start.picture pid) first).shown =
      (Transition.run (Picture.see pid) (start.picture pid) second).shown

/-- The leaves of this participant, which an arrival order can put first. -/
def isLeaveOf (pid : ParticipantId) : OutboundMessage → Bool
  | .leave msg => pid = msg.pid
  | _ => false

/-- Whoever leaves must be brought in by nothing that could come after. -/
theorem SameHowever.leaves (sentOk : SentAfterWelcome sent) (same : SameHowever start sent pid)
    (left : Leaves sent pid) :
    (∀ color, ¬ Joins sent pid color) ∧ ∀ patch, Effective start sent patch → ¬ patch.Names pid := by
  have gone : ∀ delivered, DeliveryOf sent delivered →
      (Transition.run (Picture.see pid) (start.picture pid) delivered).shown = none := by
    obtain ⟨msg, hSent, rfl⟩ := left
    intro delivered delivery
    rw [same delivered _ delivery (DeliveryOf.concat hSent), Transition.run_concat, Picture.see,
      if_pos rfl]
  constructor
  · rintro color ⟨msg, hSent, rfl, rfl⟩
    have shown := gone _ (DeliveryOf.concat hSent)
    rw [Transition.run_concat, Picture.see, Picture.upserted, if_pos rfl] at shown
    cases shown
  · rintro patch ⟨hSent, fresh⟩ named
    have shown := gone _ (DeliveryOf.overtaking (isLeaveOf pid) hSent)
    -- The leaves do not move the guard, so the patch is applied after them.
    have guard : (Transition.run (Picture.see pid) (start.picture pid)
        (sent.filter (isLeaveOf pid))).lastPatchSeq = start.lastPatchSeq := by
      refine Transition.invariant_run_mem
        (P := fun picture : Picture => picture.lastPatchSeq = start.lastPatchSeq) rfl ?_
      intro picture message hm unmoved
      have isEarly := (List.mem_filter.mp hm).2
      cases message with
      | leave msg =>
          rw [Picture.see]
          split
          · exact unmoved
          · exact unmoved
      | _ => cases isEarly
    rw [Transition.run_append, Transition.run_cons] at shown
    have there := stays_there pid sentOk (sent.filter fun other => !isLeaveOf pid other)
      (fun message hm => (List.mem_filter.mp hm).1)
      (by
        rintro ⟨msg, hm, rfl⟩
        have late := (List.mem_filter.mp hm).2
        simp [isLeaveOf] at late)
      (Picture.see pid (Transition.run (Picture.see pid) (start.picture pid)
        (sent.filter (isLeaveOf pid))) (.patch patch))
      (by
        rw [Picture.see, if_pos, Picture.color_patch, if_pos named]
        · rfl
        · intro last hl
          rw [guard] at hl
          exact fresh last hl)
    rw [shown] at there
    cases there

/-- All joins of one participant must name one color. -/
theorem SameHowever.colors (same : SameHowever start sent pid) {color other : String}
    (first : Joins sent pid color) (second : Joins sent pid other) : color = other := by
  obtain ⟨first, hFirst, hp, rfl⟩ := first
  obtain ⟨second, hSecond, hq, rfl⟩ := second
  have shown := congrArg (Option.map Shown.color)
    (same _ _ (DeliveryOf.concat hFirst) (DeliveryOf.concat hSecond))
  rw [Transition.run_concat, Transition.run_concat, Picture.see, Picture.see,
    Picture.color_upserted, Picture.color_upserted, if_pos hp.symm, if_pos hq.symm] at shown
  exact Option.some.inj shown

/-- Somebody unknown that a patch names must be named by the newest one. -/
theorem SameHowever.appears (sentOk : SentAfterWelcome sent) (same : SameHowever start sent pid)
    (unknown : start.shown pid = none) (noJoin : ∀ color, ¬ Joins sent pid color)
    {patch : PatchMessage} (effective : Effective start sent patch) (named : patch.Names pid) :
    ∃ top, Top start sent top ∧ top.Names pid := by
  obtain ⟨top, hTop⟩ := exists_top effective
  refine ⟨top, hTop, ?_⟩
  by_contra unnamed
  have stays : ¬ Leaves sent pid := fun left => (same.leaves sentOk left).2 patch effective named
  -- The newest first: nothing ever names the participant.
  have absent : (Transition.run (Picture.see pid) (start.picture pid)
      (.patch top :: sent)).shown = none := by
    rw [Transition.run_cons, hTop.1.see, Picture.unnamed_patch _ _ top unnamed]
    have unjoined : ∀ msg, .join msg ∈ sent → pid ≠ msg.participant.pid :=
      fun other hm he => noJoin _ ⟨other, hm, he.symm, rfl⟩
    exact after_top sentOk hTop stays (P := fun old => old = none)
      (fun msg old hm holds => by rwa [upserted_unjoined unjoined msg old hm]) rfl unknown
  have there := stays_there pid sentOk sent (fun _ h => h) stays
    (Picture.see pid (start.picture pid) (.patch patch))
    (by
      rw [effective.see, Picture.color_patch, if_pos named]
      rfl)
  rw [← Transition.run_cons, same _ _ (DeliveryOf.refl.cons effective.1)
    (DeliveryOf.refl.cons hTop.1.1), absent] at there
  cases there

section Newest

variable (sentOk : SentAfterWelcome sent) {top : PatchMessage} (hTop : Top start sent top)
  (stays : ¬ Leaves sent pid) {field : PresenceField}
  (topCarries : field.carried pid top.patches = none)

include sentOk hTop stays topCarries

/-- With the newest patch first, a field it does not carry stays as it was. -/
theorem newest_keeps : field.shownOf (Transition.run (Picture.see pid) (start.picture pid)
    (.patch top :: sent)).shown = field.shownOf (start.shown pid) := by
  rw [Transition.run_cons, hTop.1.see]
  refine after_top sentOk hTop stays
    (P := fun old => field.shownOf old = field.shownOf (start.shown pid))
    (sentOk.join_keeps field _) rfl ?_
  rw [Picture.shownOf_foldl_patched, topCarries]
  rfl

/-- With another patch before it, the field shows what that one carries. -/
theorem older_moves {patch : PatchMessage} {value : ℚ × ℚ}
    (effective : Effective start sent patch) (carried : field.carried pid patch.patches = some value) :
    field.shownOf (Transition.run (Picture.see pid) (start.picture pid)
      (.patch patch :: .patch top :: sent)).shown = some value := by
  rw [Transition.run_cons, Transition.run_cons, effective.see]
  have applied := Picture.shownOf_foldl_patched pid (start.shown pid) field patch.patches
  rw [carried] at applied
  by_cases again : top.seq ≤ patch.seq
  · -- The patch is the newest one itself.
    have equal := sentOk.numbered patch top effective.1 hTop.1.1
      (le_antisymm (hTop.2 patch effective) again)
    rw [equal, topCarries] at carried
    cases carried
  · rw [Picture.see, if_pos]
    · refine after_top sentOk hTop stays (P := fun old => field.shownOf old = some value)
        (sentOk.join_keeps field _) rfl ?_
      rw [Picture.shownOf_foldl_patched, topCarries]
      exact applied
    · rintro last ⟨⟩
      omega

end Newest

/-- A field that a newer patch carries must be carried by the newest one, or not change. -/
theorem SameHowever.fields (sentOk : SentAfterWelcome sent) (same : SameHowever start sent pid)
    (field : PresenceField) {patch : PatchMessage} {value : ℚ × ℚ}
    (effective : Effective start sent patch) (carried : field.carried pid patch.patches = some value) :
    (∃ top, Top start sent top ∧ (field.carried pid top.patches).isSome) ∨
      field.shownOf (start.shown pid) = some value := by
  obtain ⟨top, hTop⟩ := exists_top effective
  by_cases carries : (field.carried pid top.patches).isSome
  · exact Or.inl ⟨top, hTop, carries⟩
  · have topCarries := Option.not_isSome_iff_eq_none.mp carries
    have named : patch.Names pid := by
      by_contra unnamed
      have shown := Picture.shownOf_foldl_patched pid none field patch.patches
      rw [Picture.unnamed_patch pid none patch unnamed, carried] at shown
      cases shown
    have stays : ¬ Leaves sent pid := fun left => (same.leaves sentOk left).2 patch effective named
    have alike := congrArg field.shownOf (same _ _ (DeliveryOf.refl.cons hTop.1.1)
      ((DeliveryOf.refl.cons hTop.1.1).cons effective.1))
    rw [newest_keeps sentOk hTop stays topCarries,
      older_moves sentOk hTop stays topCarries effective carried] at alike
    exact Or.inr alike

/-- What comes out the same in every order is free of the order. -/
theorem SameHowever.orderFree (sentOk : SentAfterWelcome sent)
    (same : SameHowever start sent pid) : OrderFree start sent pid where
  leaves := same.leaves sentOk
  colors := fun _ _ first second => same.colors first second
  appears := fun unknown noJoin _ effective named =>
    same.appears sentOk unknown noJoin effective named
  fields := fun field _ _ effective carried => same.fields sentOk field effective carried

end Deliveries

open Scenario

/-- Somebody joins a session and leaves it again. -/
def visit : List Stamped :=
  arrival 0 1 session alice 1 ++ arrival 5 2 session bob 1 ++ [⟨9, .close 2⟩]

/-- What the one who stays is sent of it. -/
def visitSent : List OutboundMessage :=
  [.join
      { sid := session, seq := 0, ts := 5
        participant := { pid := bob, color := "#469990", lastSeenAt := 5 } },
    leaveMessage session bob 9]

/-- What is sent in a visit comes after the welcome. -/
theorem visitSent_afterWelcome : SentAfterWelcome visitSent := by
  refine ⟨?_, ?_, ?_⟩
  · simp [visitSent, leaveMessage]
  · intro msg hm field
    simp only [visitSent, leaveMessage, List.mem_cons, OutboundMessage.join.injEq, reduceCtorEq,
      List.not_mem_nil, or_false] at hm
    subst hm
    cases field <;> rfl
  · intro first second hm
    simp [visitSent, leaveMessage] at hm

end Copresence
