import Copresence.Lib.Run
import Copresence.Server.Run
import Copresence.Services.AuditEntries

/-! Retries of one event: a report that was folded into another record leaves
its own id unknown, so what a retry does depends on what came between. -/
namespace Copresence

open Collections

namespace AuditLog

/-- The id of the record a call's report is put into. -/
def endsUpIn (log : AuditLog) (entry : AuditRecordInput) : EventId :=
  match log.get entry.eventId with
  | some stored => stored.eventId
  | none =>
    match log.convergent entry with
    | some found => found.eventId
    | none => entry.eventId

/-- A repeated call gives the record its first call ended up in another report,
and does nothing else. -/
def Retried (log : AuditLog) (home : EventId) (retry : AuditRecordInput) : Prop :=
  ∃ record, log.get home = some record ∧
    log.record retry = (log.put (record.addReport retry.report), false)

/-- Either the first call got a record of its own, or the record it was folded
into is still the first of the pair's latest ends, with no start later. -/
def StillHome (log : AuditLog) (home : EventId) (retry : AuditRecordInput) : Prop :=
  home = retry.eventId ∨
    retry.kind = .sessionEnd ∧
      ∃ closing ∈ (pairEntries .sessionEnd retry.sid retry.pid log.entries).argmax
          AuditRecordInput.recordedAt,
        closing.eventId = home ∧
          ∀ start ∈ pairEntries .sessionStart retry.sid retry.pid log.entries,
            start.recordedAt ≤ closing.recordedAt

/-- In `past`, the id was first passed in the call `first` after `before`. -/
structure FirstCall (past : List AuditRecordInput) (eventId : EventId)
    (before : List AuditRecordInput) (first : AuditRecordInput) : Prop where
  split : ∃ between, past = before ++ first :: between
  named : first.eventId = eventId
  new : eventId ∉ before.map AuditRecordInput.eventId

variable {log : AuditLog} {entry : AuditRecordInput}

theorem endsUpIn_stored {stored : AuditRecord} (h : log.get entry.eventId = some stored) :
    log.endsUpIn entry = entry.eventId := by
  rw [endsUpIn, h]
  exact log.keyed _ _ h

theorem endsUpIn_folded {found : AuditRecord} (fresh : log.get entry.eventId = none)
    (isEnd : entry.kind = .sessionEnd) (h : log.openSessionEnd entry.sid entry.pid = some found) :
    log.endsUpIn entry = found.eventId := by
  rw [endsUpIn, fresh, convergent, if_pos isEnd, h]

theorem endsUpIn_created (fresh : log.get entry.eventId = none)
    (none : entry.kind = .sessionEnd → log.openSessionEnd entry.sid entry.pid = none) :
    log.endsUpIn entry = entry.eventId := by
  have nothing : log.convergent entry = Option.none := by
    rw [convergent]
    split
    · next isEnd => exact none isEnd
    · rfl
  rw [endsUpIn, fresh, nothing]

/-- The record a call ends up in is there, and has its report. -/
theorem record_endsUpIn (log : AuditLog) (entry : AuditRecordInput) :
    ∃ home, (log.record entry).1.get (log.endsUpIn entry) = some home ∧
      entry.report ∈ home.reports := by
  have own : ∀ record, (log.record entry).1 = log.put record →
      (log.record entry).1.get record.eventId = some record := by
    intro record hw
    rw [hw, get_put, if_pos rfl]
  rcases log.record_cases entry with ⟨stored, h, hw⟩ | ⟨found, fresh, isEnd, h, hw⟩ | ⟨fresh, none, hw⟩
  · have hId : stored.eventId = entry.eventId := log.keyed _ _ h
    rw [endsUpIn_stored h, ← hId]
    exact ⟨_, own (stored.addReport entry.report) (by rw [hw]),
      List.mem_append_right _ (List.mem_singleton_self _)⟩
  · rw [endsUpIn_folded fresh isEnd h]
    exact ⟨_, own (found.addReport entry.report) (by rw [hw]),
      List.mem_append_right _ (List.mem_singleton_self _)⟩
  · rw [endsUpIn_created fresh none]
    exact ⟨_, own { entry with reports := [entry.report] } (by rw [hw]), List.mem_singleton_self _⟩

theorem stillHome_iff {home : EventId} (other : home ≠ entry.eventId) :
    log.StillHome home entry ↔ entry.kind = .sessionEnd ∧
      ∃ found, log.openSessionEnd entry.sid entry.pid = some found ∧ found.eventId = home := by
  rw [StillHome, or_iff_right other]
  apply and_congr_right
  intro _
  constructor
  · intro ⟨closing, hm, hId, settled⟩
    have hOpen := openEntry_eq_some_iff.mpr ⟨hm, settled⟩
    rw [← openSessionEnd_entry, Option.map_eq_some_iff] at hOpen
    obtain ⟨found, h, rfl⟩ := hOpen
    exact ⟨found, h, hId⟩
  · intro ⟨found, h, hId⟩
    have hOpen := log.openSessionEnd_entry entry.sid entry.pid
    rw [h, Option.map_some] at hOpen
    obtain ⟨hm, settled⟩ := openEntry_eq_some_iff.mp hOpen.symm
    exact ⟨found.toAuditRecordInput, hm, hId, settled⟩

theorem get_record_kept {eventId : EventId} (h : (log.get eventId).isSome)
    (entry : AuditRecordInput) : ((log.record entry).1.get eventId).isSome := by
  obtain ⟨stored, hs⟩ := Option.isSome_iff_exists.mp h
  obtain ⟨kept, hk, _⟩ := get_record_detail hs entry
  rw [hk]
  rfl

/-- A retry of a call that got a record of its own is recognised by its id. -/
theorem retried_of_stored {stored : AuditRecord} (h : log.get entry.eventId = some stored) :
    log.Retried entry.eventId entry := by
  rcases log.record_cases entry with ⟨found, hFound, hw⟩ | ⟨_, fresh, _⟩ | ⟨fresh, _⟩
  · exact ⟨found, hFound, hw⟩
  · rw [h] at fresh
    cases fresh
  · rw [h] at fresh
    cases fresh

/-- A record that takes a report is not what another record was. -/
theorem put_addReport_inj {first second : AuditRecord} {report : AuditReport}
    (h : log.get second.eventId = some second)
    (same : log.put (first.addReport report) = log.put (second.addReport report)) :
    first.eventId = second.eventId := by
  have found := congrArg (fun log => log.get second.eventId) same
  simp only [get_put] at found
  by_contra other
  have apart : second.eventId ≠ (first.addReport report).eventId := fun he => other he.symm
  have own : second.eventId = (second.addReport report).eventId := rfl
  rw [if_neg apart, if_pos own, h] at found
  have grown := congrArg (fun record => record.reports.length) (Option.some.inj found)
  simp [AuditRecord.addReport] at grown

/-- A retry of a folded call goes where the first went exactly when its record
is still the one that is open. -/
theorem retried_iff_stillHome {home : EventId} {record : AuditRecord}
    (h : log.get home = some record) (other : home ≠ entry.eventId)
    (unknown : log.get entry.eventId = none) :
    log.Retried home entry ↔ log.StillHome home entry := by
  have hId : record.eventId = home := log.keyed _ _ h
  rw [stillHome_iff other]
  rcases log.record_cases entry with ⟨stored, hs, _⟩ | ⟨found, _, isEnd, hOpen, hw⟩ | ⟨_, none, hw⟩
  · rw [unknown] at hs
    cases hs
  · constructor
    · intro ⟨kept, hk, same⟩
      rw [h, Option.some.injEq] at hk
      rw [hw, ← hk] at same
      have own : log.get record.eventId = some record := by rw [hId, h]
      exact ⟨isEnd, found, hOpen, (put_addReport_inj own (Prod.mk.inj same).1).trans hId⟩
    · intro ⟨_, still, hStill, he⟩
      rw [hOpen, Option.some.injEq] at hStill
      have own := log.mem_all_iff.mp (log.openSessionEnd_spec hOpen).1
      refine ⟨found, ?_, hw⟩
      rw [← he, ← hStill]
      exact own
  · constructor
    · intro ⟨kept, _, same⟩
      rw [hw] at same
      cases (Prod.mk.inj same).2
    · intro ⟨isEnd, found, hFound, _⟩
      rw [none isEnd] at hFound
      cases hFound

variable {past before : List AuditRecordInput} {first : AuditRecordInput} {eventId : EventId}

/-- The homes of a history are in the log, and an id that has a record is at
home in it. -/
def Homes (past : List AuditRecordInput) : Prop :=
  ∀ eventId before first, FirstCall past eventId before first →
    ((recordAll past).get ((recordAll before).endsUpIn first)).isSome ∧
      (((recordAll past).get eventId).isSome → (recordAll before).endsUpIn first = eventId)

theorem FirstCall.mem (h : FirstCall past eventId before first) :
    eventId ∈ past.map AuditRecordInput.eventId := by
  obtain ⟨⟨between, rfl⟩, rfl, _⟩ := h
  exact List.mem_map_of_mem (List.mem_append_right _ List.mem_cons_self)

/-- A first call of the longer history is one of the shorter, or the last. -/
theorem FirstCall.of_concat (h : FirstCall (past ++ [entry]) eventId before first) :
    FirstCall past eventId before first ∨ (before = past ∧ first = entry) := by
  obtain ⟨⟨between, hSplit⟩, named, new⟩ := h
  rcases List.eq_nil_or_concat between with rfl | ⟨shorter, last, rfl⟩
  · obtain ⟨rfl, he⟩ := List.append_inj' hSplit rfl
    exact Or.inr ⟨rfl, (List.cons.inj he).1.symm⟩
  · rw [List.concat_eq_append, ← List.cons_append, ← List.append_assoc] at hSplit
    obtain ⟨rfl, _⟩ := List.append_inj' hSplit rfl
    exact Or.inl ⟨⟨shorter, rfl⟩, named, new⟩

/-- The home of a call that was the first with its id. -/
theorem homes_new (new : entry.eventId ∉ past.map AuditRecordInput.eventId) :
    ((recordAll (past ++ [entry])).get ((recordAll past).endsUpIn entry)).isSome ∧
      (((recordAll (past ++ [entry])).get entry.eventId).isSome →
        (recordAll past).endsUpIn entry = entry.eventId) := by
  have unknown := get_recordAll_fresh new
  rw [recordAll_concat]
  obtain ⟨home, hHome, _⟩ := (recordAll past).record_endsUpIn entry
  refine ⟨by rw [hHome]; rfl, ?_⟩
  rcases (recordAll past).record_cases entry with
    ⟨stored, h, _⟩ | ⟨found, fresh, isEnd, h, hw⟩ | ⟨fresh, none, _⟩
  · rw [unknown] at h
    cases h
  · have own := mem_all_iff _ |>.mp (openSessionEnd_spec _ h).1
    have apart : entry.eventId ≠ (found.addReport entry.report).eventId := by
      intro he
      have hSome : (recordAll past).get found.eventId = some found := own
      rw [show found.eventId = entry.eventId from he.symm, fresh] at hSome
      cases hSome
    rw [hw, get_put, if_neg apart, fresh]
    intro h
    cases h
  · intro _
    exact endsUpIn_created fresh none

/-- A call that meets the condition leaves every home as it was. -/
theorem homes_concat (homes : Homes past)
    (met : ∀ before first, FirstCall past entry.eventId before first →
      (recordAll past).StillHome ((recordAll before).endsUpIn first) entry) :
    Homes (past ++ [entry]) := by
  intro eventId before first h
  rcases h.of_concat with h | ⟨rfl, rfl⟩
  · obtain ⟨there, own⟩ := homes eventId before first h
    rw [recordAll_concat]
    refine ⟨get_record_kept there entry, ?_⟩
    by_cases again : eventId = entry.eventId
    · subst again
      rcases met before first h with same | ⟨isEnd, closing, hm, _, settled⟩
      · exact fun _ => same
      · have hOpen := openEntry_eq_some_iff.mpr ⟨hm, settled⟩
        rw [get_isSome_iff, entries_record, if_pos (Or.inr ⟨isEnd, by rw [hOpen]; rfl⟩),
          ← get_isSome_iff]
        exact own
    · rw [get_record_isSome again]
      exact own
  · rw [← h.named]
    exact homes_new (by rw [h.named]; exact h.new)

/-- In any history, every repeated call does what a retry should exactly when
no id is repeated whose first call was folded into a record that, by then, is
no longer the one that is open. -/
theorem retries_iff (calls : List AuditRecordInput) :
    (∀ past retry, past ++ [retry] <+: calls →
        ∀ before first, FirstCall past retry.eventId before first →
          (recordAll past).Retried ((recordAll before).endsUpIn first) retry) ↔
      ∀ past retry, past ++ [retry] <+: calls →
        ∀ before first, FirstCall past retry.eventId before first →
          (recordAll past).StillHome ((recordAll before).endsUpIn first) retry := by
  apply Transition.forall_history_iff_of_kept (R := Homes)
  · intro eventId before first h
    cases h.mem
  · intro past retry _ homes
    apply forall_congr'
    intro before
    apply forall_congr'
    intro first
    apply imp_congr_right
    intro h
    obtain ⟨there, own⟩ := homes _ before first h
    obtain ⟨record, hRecord⟩ := Option.isSome_iff_exists.mp there
    by_cases same : (recordAll before).endsUpIn first = retry.eventId
    · rw [same] at hRecord ⊢
      exact iff_of_true (retried_of_stored hRecord) (Or.inl rfl)
    · have unknown : (recordAll past).get retry.eventId = none := by
        rw [← Option.not_isSome_iff_eq_none]
        exact fun known => same (own known)
      exact retried_iff_stillHome hRecord same unknown
  · intro past retry _ homes met
    exact homes_concat homes met

open Scenario

/-- The end that a bfcache restore replays after the session was reopened. -/
def replayedEnd : List AuditRecordInput :=
  [clientEntry session alice 1 .sessionStart 0, clientEntry session alice 2 .sessionEnd 10,
    clientEntry session alice 3 .sessionEnd 11, clientEntry session alice 4 .sessionStart 20,
    clientEntry session alice 3 .sessionEnd 21]

/-- It closes the new instance instead. -/
theorem replayedEnd_closes_again :
    ¬ ∀ past retry, past ++ [retry] <+: replayedEnd →
      ∀ before first, FirstCall past retry.eventId before first →
        (recordAll past).Retried ((recordAll before).endsUpIn first) retry := by
  intro idempotent
  obtain ⟨record, _, same⟩ := idempotent (replayedEnd.take 4)
    (clientEntry session alice 3 .sessionEnd 21) (List.prefix_refl _) (replayedEnd.take 2)
    (clientEntry session alice 3 .sessionEnd 11) ⟨⟨_, rfl⟩, rfl, by decide⟩
  have created : ((recordAll (replayedEnd.take 4)).record
      (clientEntry session alice 3 .sessionEnd 21)).2 = true := by decide
  rw [same] at created
  cases created

end AuditLog

end Copresence
