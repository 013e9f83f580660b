import Copresence.Lib.Run
import Copresence.Server.Run
import Copresence.Services.AuditEntries

/-! The audit log against the open/closed machine it stands for: each start of
a participant opens an instance of its session, and the first end after it
closes that instance. -/
namespace Copresence

open Collections

/-- `closer` is the end that closed an instance last. -/
structure SessionInstance where
  start : Option AuditRecordInput := none
  closer : Option AuditRecordInput := none
  isOpen : Bool := true

namespace SessionInstance

def note (current : SessionInstance) (entry : AuditRecordInput) : SessionInstance :=
  match entry.kind with
  | .sessionStart => { current with start := some entry, isOpen := true }
  | .sessionEnd =>
    if current.isOpen then { current with closer := some entry, isOpen := false } else current
  | _ => current

/-- The instance these calls leave a participant of a session with. -/
def after (calls : List AuditRecordInput) (sid : SessionId) (pid : ParticipantId) :
    SessionInstance :=
  (calls.filter fun entry => entry.sid = sid ∧ entry.pid = pid).foldl note {}

/-- If an instance has been opened again, it was later than the last close. -/
def ReopenedLater (current : SessionInstance) : Prop :=
  current.isOpen = true →
    ∀ closer ∈ current.closer, ∀ start ∈ current.start, closer.recordedAt < start.recordedAt

section After

variable {calls : List AuditRecordInput} {entry : AuditRecordInput} {sid : SessionId}
  {pid : ParticipantId}

theorem after_concat_own (own : entry.sid = sid ∧ entry.pid = pid) :
    after (calls ++ [entry]) sid pid = (after calls sid pid).note entry := by
  rw [after, List.filter_append, List.filter_cons_of_pos (by simpa using own), List.filter_nil,
    List.foldl_append]
  rfl

theorem after_concat_other (other : ¬(entry.sid = sid ∧ entry.pid = pid)) :
    after (calls ++ [entry]) sid pid = after calls sid pid := by
  rw [after, List.filter_append, List.filter_cons_of_neg (by simpa using other), List.filter_nil,
    List.append_nil]
  rfl

end After

end SessionInstance

namespace AuditLog

/-- What the log should do with an end: a record of its own if the instance is
open, else another report for the record that closed it. -/
structure FollowsInstance (log : AuditLog) (current : SessionInstance)
    (entry : AuditRecordInput) : Prop where
  created : current.isOpen = true → (log.record entry).2 = true ∧
    (log.record entry).1.all = log.all ++ [{ entry with reports := [entry.report] }]
  folded : current.isOpen = false → (log.record entry).2 = false ∧
    ∃ closing ∈ log.all, current.closer.map AuditRecordInput.eventId = some closing.eventId ∧
      (log.record entry).1 = log.put (closing.addReport entry.report)

/-- The entries of one participant tell its instance. -/
structure Tracks (entries : List AuditRecordInput) (sid : SessionId) (pid : ParticipantId)
    (current : SessionInstance) : Prop where
  start : current.start = (pairEntries .sessionStart sid pid entries).getLast?
  closer : current.closer = (pairEntries .sessionEnd sid pid entries).getLast?
  increasing : (pairEntries .sessionEnd sid pid entries).Pairwise
    fun first second => first.recordedAt < second.recordedAt
  reopened : current.isOpen = true → current.start = none → current.closer = none
  closed : current.isOpen = false → ∃ closer, current.closer = some closer ∧
    ∀ start ∈ pairEntries .sessionStart sid pid entries, start.recordedAt ≤ closer.recordedAt

section Tracks

variable {entries : List AuditRecordInput} {sid : SessionId} {pid : ParticipantId}
  {current : SessionInstance}

/-- The open end is the last close, unless a start is later. -/
theorem Tracks.openEntry (h : Tracks entries sid pid current) :
    openEntry entries sid pid = current.closer.filter fun closer =>
      ∀ start ∈ pairEntries .sessionStart sid pid entries,
        start.recordedAt ≤ closer.recordedAt := by
  rw [Copresence.openEntry, argmax_of_increasing h.increasing, h.closer]

/-- In an instance that is not open, the last close is the open end. -/
theorem Tracks.openEntry_closed (h : Tracks entries sid pid current)
    (closed : current.isOpen = false) :
    Copresence.openEntry entries sid pid = current.closer := by
  obtain ⟨closer, hCloser, settled⟩ := h.closed closed
  rw [h.openEntry, hCloser]
  exact if_pos (decide_eq_true settled)

/-- In an open one no end is, exactly when the last start is later. -/
theorem Tracks.openEntry_open (h : Tracks entries sid pid current) (isOpen : current.isOpen = true)
    (ordered : entries.Pairwise fun first second => first.recordedAt ≤ second.recordedAt) :
    Copresence.openEntry entries sid pid = none ↔ current.ReopenedLater := by
  have newest : ∀ last ∈ current.start, ∀ start ∈ pairEntries .sessionStart sid pid entries,
      start.recordedAt ≤ last.recordedAt := by
    intro last hLast
    rw [h.start] at hLast
    exact le_of_getLast?_of_ordered (ordered.sublist List.filter_sublist) hLast
  rw [h.openEntry, Option.filter_eq_none_iff]
  simp only [decide_eq_true_eq]
  constructor
  · intro someNewer _ closer hCloser last hLast
    have hNot := someNewer closer hCloser
    push Not at hNot
    obtain ⟨start, hm, newer⟩ := hNot
    exact lt_of_lt_of_le newer (newest last hLast start hm)
  · intro reopened closer hCloser settled
    cases hLast : current.start with
    | none =>
        rw [h.reopened isOpen hLast] at hCloser
        cases hCloser
    | some last =>
        have hm : last ∈ pairEntries .sessionStart sid pid entries :=
          List.mem_of_getLast? (h.start.symm.trans hLast)
        exact absurd (settled last hm) (not_le.mpr (reopened isOpen closer hCloser last hLast))

end Tracks

variable {past : List AuditRecordInput} {entry : AuditRecordInput}

/-- Whether the log does the right thing with an end is decided by the times
of the last close and the last start. -/
theorem followsInstance_iff {log : AuditLog} {current : SessionInstance}
    (tracks : Tracks log.entries entry.sid entry.pid current)
    (ordered : log.entries.Pairwise fun first second => first.recordedAt ≤ second.recordedAt)
    (fresh : log.get entry.eventId = none) (isEnd : entry.kind = .sessionEnd) :
    log.FollowsInstance current entry ↔ current.ReopenedLater := by
  rcases log.record_cases entry with ⟨stored, h, _⟩ | ⟨found, _, _, h, hw⟩ | ⟨_, none, hw⟩
  · rw [fresh] at h
    cases h
  · have hm := (log.openSessionEnd_spec h).1
    have hOpen := log.openSessionEnd_entry entry.sid entry.pid
    rw [h, Option.map_some] at hOpen
    constructor
    · intro follows isOpen
      have created := (follows.created isOpen).1
      rw [hw] at created
      cases created
    · intro reopened
      constructor
      · intro isOpen
        rw [(tracks.openEntry_open isOpen ordered).mpr reopened] at hOpen
        cases hOpen
      · intro closed
        rw [tracks.openEntry_closed closed] at hOpen
        exact ⟨by rw [hw], found, hm, by rw [← hOpen]; rfl, by rw [hw]⟩
  · have hOpen := log.openSessionEnd_entry entry.sid entry.pid
    rw [none isEnd, Option.map_none] at hOpen
    constructor
    · intro _ isOpen
      exact (tracks.openEntry_open isOpen ordered).mp hOpen.symm isOpen
    · intro _
      constructor
      · intro _
        rw [hw]
        exact ⟨rfl, all_put_fresh fresh⟩
      · intro closed
        obtain ⟨closer, hCloser, _⟩ := tracks.closed closed
        rw [tracks.openEntry_closed closed, hCloser] at hOpen
        cases hOpen

theorem Tracks.congr {entries others : List AuditRecordInput} {sid : SessionId}
    {pid : ParticipantId} {current : SessionInstance} (h : Tracks entries sid pid current)
    (starts : pairEntries .sessionStart sid pid others = pairEntries .sessionStart sid pid entries)
    (ends : pairEntries .sessionEnd sid pid others = pairEntries .sessionEnd sid pid entries) :
    Tracks others sid pid current := by
  obtain ⟨hStart, hCloser, increasing, reopened, closed⟩ := h
  rw [← starts] at hStart closed
  rw [← ends] at hCloser increasing
  exact ⟨hStart, hCloser, increasing, reopened, closed⟩

theorem Tracks.other {entries : List AuditRecordInput} {sid : SessionId} {pid : ParticipantId}
    {current : SessionInstance} (h : Tracks entries sid pid current)
    (other : ∀ kind, kind = .sessionStart ∨ kind = .sessionEnd →
      ¬(entry.kind = kind ∧ entry.sid = sid ∧ entry.pid = pid)) :
    Tracks (entries ++ [entry]) sid pid current :=
  h.congr (pairEntries_concat_other (other _ (Or.inl rfl)))
    (pairEntries_concat_other (other _ (Or.inr rfl)))

section Note

variable {entries : List AuditRecordInput} {current : SessionInstance}

theorem Tracks.start_noted (h : Tracks entries entry.sid entry.pid current)
    (isStart : entry.kind = .sessionStart) :
    Tracks (entries ++ [entry]) entry.sid entry.pid (current.note entry) := by
  have noted : current.note entry = { current with start := some entry, isOpen := true } := by
    rw [SessionInstance.note, isStart]
  have starts : pairEntries .sessionStart entry.sid entry.pid (entries ++ [entry]) = _ :=
    pairEntries_concat_own ⟨isStart, rfl, rfl⟩
  have ends : pairEntries .sessionEnd entry.sid entry.pid (entries ++ [entry]) =
      pairEntries .sessionEnd entry.sid entry.pid entries := by
    apply pairEntries_concat_other
    rw [isStart]
    simp
  rw [noted]
  constructor
  · rw [starts, List.getLast?_concat]
  · rw [ends]
    exact h.closer
  · rw [ends]
    exact h.increasing
  · intro _ none
    cases none
  · intro closed
    cases closed

/-- The end that closes an open instance is the latest entry of all. -/
theorem Tracks.end_noted (h : Tracks entries entry.sid entry.pid current)
    (isEnd : entry.kind = .sessionEnd) (isOpen : current.isOpen = true)
    (none : Copresence.openEntry entries entry.sid entry.pid = none)
    (newest : ∀ earlier ∈ entries, earlier.recordedAt ≤ entry.recordedAt) :
    Tracks (entries ++ [entry]) entry.sid entry.pid (current.note entry) := by
  have noted : current.note entry = { current with closer := some entry, isOpen := false } := by
    rw [SessionInstance.note, isEnd]
    exact if_pos isOpen
  have starts : pairEntries .sessionStart entry.sid entry.pid (entries ++ [entry]) =
      pairEntries .sessionStart entry.sid entry.pid entries := by
    apply pairEntries_concat_other
    rw [isEnd]
    simp
  have ends : pairEntries .sessionEnd entry.sid entry.pid (entries ++ [entry]) = _ :=
    pairEntries_concat_own ⟨isEnd, rfl, rfl⟩
  have startsBefore : ∀ start ∈ pairEntries .sessionStart entry.sid entry.pid entries,
      start.recordedAt ≤ entry.recordedAt := fun start hm => newest start (mem_pairEntries.mp hm).1
  rw [noted]
  constructor
  · rw [starts]
    exact h.start
  · rw [ends, List.getLast?_concat]
  · rw [ends]
    apply List.pairwise_append.mpr
    refine ⟨h.increasing, List.pairwise_singleton _ _, ?_⟩
    intro ended hm _ he
    rw [List.mem_singleton.mp he]
    obtain ⟨start, hStart, newer⟩ := openEntry_eq_none_iff.mp none ended hm
    exact lt_of_lt_of_le newer (startsBefore start hStart)
  · intro isOpen
    cases isOpen
  · intro _
    rw [starts]
    exact ⟨entry, rfl, startsBefore⟩

end Note

/-- Every participant stays tracked by a call, if the log does the right thing
with it. -/
theorem tracks_concat (tracks : ∀ sid pid, Tracks (recordAll past).entries sid pid
      (SessionInstance.after past sid pid))
    (ordered : (past ++ [entry]).Pairwise fun first second => first.recordedAt ≤ second.recordedAt)
    (fresh : (recordAll past).get entry.eventId = none)
    (met : entry.kind = .sessionEnd →
      (SessionInstance.after past entry.sid entry.pid).ReopenedLater) (sid : SessionId)
    (pid : ParticipantId) :
    Tracks (recordAll (past ++ [entry])).entries sid pid
      (SessionInstance.after (past ++ [entry]) sid pid) := by
  obtain ⟨pastOrdered, _, newest⟩ := List.pairwise_append.mp ordered
  have earlier : ∀ old ∈ (recordAll past).entries, old.recordedAt ≤ entry.recordedAt := fun old hm =>
    newest old ((entries_recordAll_sublist past).subset hm) entry (List.mem_singleton_self _)
  have entriesOrdered := pastOrdered.sublist (entries_recordAll_sublist past)
  rw [recordAll_concat, entries_record, fresh]
  by_cases own : entry.sid = sid ∧ entry.pid = pid
  · obtain ⟨rfl, rfl⟩ := own
    have here := tracks entry.sid entry.pid
    rw [SessionInstance.after_concat_own ⟨rfl, rfl⟩]
    cases hKind : entry.kind with
    | sessionStart =>
        rw [if_neg (by simp)]
        exact here.start_noted hKind
    | sessionEnd =>
        cases isOpen : (SessionInstance.after past entry.sid entry.pid).isOpen with
        | true =>
            have none := (here.openEntry_open isOpen entriesOrdered).mpr (met hKind)
            rw [none, if_neg (by simp)]
            exact here.end_noted hKind isOpen none earlier
        | false =>
            obtain ⟨closer, hCloser, _⟩ := here.closed isOpen
            rw [here.openEntry_closed isOpen, hCloser, if_pos (by simp), SessionInstance.note, hKind]
            simpa [isOpen] using here
    | _ =>
        rw [if_neg (by simp), SessionInstance.note, hKind]
        apply here.other
        rintro kind (rfl | rfl) <;> simp [hKind]
  · rw [SessionInstance.after_concat_other own]
    split
    · exact tracks sid pid
    · apply (tracks sid pid).other
      rintro kind _ ⟨_, hOwn⟩
      exact own hOwn

/-- In any history of calls with distinct ids and times that never decrease,
the log follows the machine throughout exactly when no end finds an instance
that was opened again in the very millisecond of the last close. -/
theorem follows_instances_iff (calls : List AuditRecordInput)
    (ids : (calls.map AuditRecordInput.eventId).Nodup)
    (ordered : calls.Pairwise fun first second => first.recordedAt ≤ second.recordedAt) :
    (∀ past entry, past ++ [entry] <+: calls → entry.kind = .sessionEnd →
        (recordAll past).FollowsInstance (SessionInstance.after past entry.sid entry.pid) entry) ↔
      ∀ past entry, past ++ [entry] <+: calls → entry.kind = .sessionEnd →
        (SessionInstance.after past entry.sid entry.pid).ReopenedLater := by
  have fresh : ∀ past entry, past ++ [entry] <+: calls →
      (recordAll past).get entry.eventId = none := by
    intro past entry hp
    apply get_recordAll_fresh
    have distinct := ids.sublist (hp.sublist.map AuditRecordInput.eventId)
    rw [List.map_append] at distinct
    intro hm
    exact (List.nodup_append'.mp distinct).2.2 hm (List.mem_singleton_self _)
  apply Transition.forall_history_iff_of_kept (R := fun past => ∀ sid pid,
    Tracks (recordAll past).entries sid pid (SessionInstance.after past sid pid))
  · intro sid pid
    exact ⟨rfl, rfl, List.Pairwise.nil, fun _ _ => rfl, fun h => nomatch h⟩
  · intro past entry hp tracks
    apply imp_congr_right
    intro isEnd
    exact followsInstance_iff (tracks _ _)
      ((ordered.sublist ((List.prefix_append _ _).trans hp).sublist).sublist
        (entries_recordAll_sublist past)) (fresh past entry hp) isEnd
  · intro past entry hp tracks met
    exact tracks_concat tracks (ordered.sublist hp.sublist) (fresh past entry hp) met

open Scenario

/-- A session that is closed and opened again in one millisecond. -/
def sameMillisecond : List AuditRecordInput :=
  [clientEntry session alice 1 .sessionStart 0, clientEntry session alice 2 .sessionEnd 5,
    clientEntry session alice 3 .sessionStart 5, clientEntry session alice 4 .sessionEnd 9]

/-- The end of the second instance is folded into that of the first. -/
theorem sameMillisecond_folded :
    (sameMillisecond.map AuditRecordInput.eventId).Nodup ∧
      sameMillisecond.Pairwise (fun first second => first.recordedAt ≤ second.recordedAt) ∧
      ¬ ∀ past entry, past ++ [entry] <+: sameMillisecond → entry.kind = .sessionEnd →
        (recordAll past).FollowsInstance (SessionInstance.after past entry.sid entry.pid)
          entry := by
  refine ⟨by decide, by decide, fun follows => ?_⟩
  have created := (follows (sameMillisecond.take 3) (clientEntry session alice 4 .sessionEnd 9)
    (List.prefix_refl _) rfl).created (by decide)
  exact absurd created.1 (by decide)

theorem follows_instances_iff_sameMillisecond :
    (∀ past entry, past ++ [entry] <+: sameMillisecond → entry.kind = .sessionEnd →
        (recordAll past).FollowsInstance (SessionInstance.after past entry.sid entry.pid) entry) ↔
      ∀ past entry, past ++ [entry] <+: sameMillisecond → entry.kind = .sessionEnd →
        (SessionInstance.after past entry.sid entry.pid).ReopenedLater :=
  follows_instances_iff sameMillisecond (by decide) (by decide)

end AuditLog

end Copresence
