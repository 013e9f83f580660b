import Copresence.Server.Departures
import Copresence.Server.Outbound

/-! One session over a stretch of a run in which nobody comes or goes: what its
ticks flush, and what they broadcast in between. -/
namespace Copresence

open Collections

/-- The actions that move nobody onto or off a roster. -/
def Action.KeepsRosters : Action → Prop
  | .hello _ _ => False
  | .bye _ _ => False
  | .close _ => False
  | .reap => False
  | _ => True

instance : DecidablePred Action.KeepsRosters
  | .hello _ _ | .bye _ _ | .close _ | .reap => inferInstanceAs (Decidable False)
  | .idle | .connect _ _ | .closing _ | .presence _ _ | .tick => inferInstanceAs (Decidable True)

namespace Server

/-- The position the registry holds for one member of a session. -/
def position (server : Server) (field : PresenceField) (sid : SessionId) (pid : ParticipantId) :
    Option (ℚ × ℚ) :=
  (server.entryOf sid pid).bind fun entry => field.ofPresence entry.participant.presence

/-- The patch with which a tick flushes a session that has something dirty. -/
def flush (server : Server) (stamped : Stamped) (sid : SessionId) : Option PatchMessage :=
  if stamped.event = .tick then
    (server.registry.get sid).bind fun session =>
      toPatch session (server.scheduler.seq + 1) stamped.time
  else none

/-- Without a tick nothing is flushed. -/
theorem flush_eq_none (server : Server) {stamped : Stamped} (sid : SessionId)
    (noTick : stamped.event ≠ .tick) : server.flush stamped sid = none := if_neg noTick

variable {cfg : Config} {server : Server} {stamped : Stamped} {sid : SessionId}

/-- A flush is a tick's, under the next number of the scheduler. -/
theorem flush_seq {patch : PatchMessage} (h : server.flush stamped sid = some patch) :
    stamped.event = .tick ∧ patch.seq = server.scheduler.seq + 1 := by
  unfold flush at h
  split at h
  · next isTick =>
      obtain ⟨session, _, hs⟩ := Option.bind_eq_some_iff.mp h
      exact ⟨isTick, (toPatch_envelope hs).2.1⟩
  · cases h

/-- A flush carries the flagged fields and nothing else. -/
theorem carried_flush (wf : server.WellFormed) {patch : PatchMessage}
    (h : server.flush stamped sid = some patch) {pid : ParticipantId} {entry : Entry}
    (he : server.entryOf sid pid = some entry) (field : PresenceField) :
    field.carried pid patch.patches =
      if field.marked entry.dirty then field.ofPresence entry.participant.presence else none := by
  unfold flush at h
  split at h
  · obtain ⟨session, hg, hs⟩ := Option.bind_eq_some_iff.mp h
    rw [Server.entryOf, SessionRegistry.entryOf_of_get hg] at he
    exact Session.carried_toPatch (wf sid session hg) hs he field
  · cases h

/-- Flags that are up have a position to report. -/
theorem entry_reports (wf : server.WellFormed) {pid : ParticipantId} {entry : Entry}
    (he : server.entryOf sid pid = some entry) (dirty : entry.dirty ≠ {}) :
    entry.dirty.Reports entry.participant.presence := by
  cases hg : server.registry.get sid with
  | none =>
      rw [Server.entryOf, SessionRegistry.entryOf_of_get_none hg] at he
      cases he
  | some session =>
      rw [Server.entryOf, SessionRegistry.entryOf_of_get hg] at he
      exact Session.entry_reports (wf sid session hg) he dirty

/-- A tick that flushes nothing for a session finds nothing flagged there. -/
theorem unmarked_of_flush_none (wf : server.WellFormed) (isTick : stamped.event = .tick)
    (h : server.flush stamped sid = none) : ¬ server.Unflushed sid := by
  rw [flush, if_pos isTick] at h
  cases hg : server.registry.get sid with
  | none =>
      rintro ⟨pid, entry, he, -⟩
      rw [Server.entryOf, SessionRegistry.entryOf_of_get_none hg] at he
      cases he
  | some session =>
      rw [hg, Option.bind_some] at h
      rw [unflushed_iff hg, ← Session.toPatch_isSome_iff (wf sid session hg), h]
      exact Bool.false_ne_true

/-- The settle entry after a step: the flush, or what was there. -/
theorem settling_step (server : Server) (cfg : Config) (stamped : Stamped) (sid : SessionId)
    {settle : SettleEntry}
    (h : (server.step cfg stamped).scheduler.settling.get? sid = some settle) :
    match server.flush stamped sid with
    | some patch => settle.patches = patch.patches
    | none => server.scheduler.settling.get? sid = some settle := by
  by_cases isTick : stamped.event = .tick
  · rw [step_of_tick cfg (action_eq_tick_iff.mpr isTick),
      show (server.tick stamped.time).scheduler.settling.get? sid = _ from
        TickScheduler.tick_settling _ _ _ _ _ sid] at h
    rw [flush, if_pos isTick]
    cases hg : server.registry.get sid with
    | none =>
        rw [hg] at h
        exact h
    | some session =>
        rw [hg] at h
        dsimp only at h
        rw [Option.bind_some]
        unfold TickScheduler.settled at h
        cases hs : toPatch session (server.scheduler.seq + 1) stamped.time with
        | some patch =>
            rw [hs] at h
            rw [← Option.some.inj h]
        | none =>
            rw [hs] at h
            exact (Option.filter_eq_some_iff.mp h).1
  · have same := (step_effect cfg server stamped).scheduler
      fun h => isTick (action_eq_tick_iff.mp h)
    rw [same] at h
    rw [flush_eq_none server sid isTick]
    exact h

/-- What a tick broadcasts to a session is its flush, or its settle entry. -/
theorem patch_of_mem_written_cases {write : Write} {patch : PatchMessage}
    (h : write ∈ server.written cfg stamped) (hp : write.message = .patch patch) :
    match server.flush stamped patch.sid with
    | some flushed => patch = flushed
    | none => ∃ settle, server.scheduler.settling.get? patch.sid = some settle ∧
        patch = TickScheduler.resendOf patch.sid (server.scheduler.seq + 1) stamped.time settle := by
  obtain ⟨ha, _, session, hg, due⟩ := patch_of_mem_written h hp
  have hSid := SessionRegistry.get_sid hg
  rw [flush, if_pos (action_eq_tick_iff.mp ha), hg, Option.bind_some]
  unfold TickScheduler.tickPatch at due
  cases hs : toPatch session (server.scheduler.seq + 1) stamped.time with
  | some fresh =>
      rw [hs] at due
      exact (Option.some.inj due).symm
  | none =>
      rw [hs] at due
      dsimp only at due
      rw [hSid] at due
      split at due
      · cases due
      · next settle hSettle =>
          split at due
          · cases due
          · exact ⟨settle, hSettle, (Option.some.inj due).symm⟩

end Server

/-- A server and the flushes of one session so far, latest first. -/
structure Watched where
  server : Server
  flushes : List PatchMessage

namespace Watched

def step (cfg : Config) (sid : SessionId) (watched : Watched) (stamped : Stamped) : Watched where
  server := watched.server.step cfg stamped
  flushes := (watched.server.flush stamped sid).toList ++ watched.flushes

def run (cfg : Config) (sid : SessionId) : Watched → List Stamped → Watched :=
  Transition.run (step cfg sid)

/-- What the settle window repeats at the start. -/
def base (start : Server) (sid : SessionId) : List ParticipantPatch :=
  ((start.scheduler.settling.get? sid).map SettleEntry.patches).getD []

/-- The content of the broadcast with this number: that of the last flush
before it. -/
def content (base : List ParticipantPatch) (flushes : List PatchMessage) (seq : Int) :
    List ParticipantPatch :=
  ((flushes.find? fun flush => flush.seq ≤ seq).map PatchMessage.patches).getD base

/-- The position last flushed for a participant. -/
def lastFlushed (flushes : List PatchMessage) (field : PresenceField) (pid : ParticipantId) :
    Option (ℚ × ℚ) :=
  flushes.findSome? fun flush => field.carried pid flush.patches

/-- The last value flushed is the latest flush's, or the one before it. -/
theorem lastFlushed_cons (flush : PatchMessage) (flushes : List PatchMessage)
    (field : PresenceField) (pid : ParticipantId) :
    lastFlushed (flush :: flushes) field pid =
      (field.carried pid flush.patches).or (lastFlushed flushes field pid) := by
  rw [lastFlushed, List.findSome?_cons]
  cases field.carried pid flush.patches <;> rfl

/-- The last value flushed is that of the latest flush that carries one. -/
theorem lastFlushed_of_find? {flushes : List PatchMessage} {field : PresenceField}
    {pid : ParticipantId} {flush : PatchMessage}
    (h : flushes.find? (fun flush => (field.carried pid flush.patches).isSome) = some flush) :
    lastFlushed flushes field pid = field.carried pid flush.patches := by
  induction flushes with
  | nil => cases h
  | cons first flushes ih =>
      rw [lastFlushed_cons]
      cases hc : field.carried pid first.patches with
      | some value =>
          rw [List.find?_cons_of_pos (by rw [hc]; rfl)] at h
          rw [← Option.some.inj h, hc]
          rfl
      | none =>
          rw [List.find?_cons_of_neg (by rw [hc]; exact fun h => nomatch h)] at h
          rw [Option.none_or, ih h]

/-- Where no flush carries a value, none was flushed. -/
theorem lastFlushed_of_find?_none {flushes : List PatchMessage} {field : PresenceField}
    {pid : ParticipantId}
    (h : flushes.find? (fun flush => (field.carried pid flush.patches).isSome) = none) :
    lastFlushed flushes field pid = none := by
  rw [lastFlushed, List.findSome?_eq_none_iff]
  intro flush hf
  simpa using List.find?_eq_none.mp h flush hf

/-- A flush of a later number does not change what an earlier number stood for. -/
theorem content_cons_later {entries : List ParticipantPatch} {flushes : List PatchMessage}
    {flush : PatchMessage} {seq : Int} (later : seq < flush.seq) :
    content entries (flush :: flushes) seq = content entries flushes seq := by
  rw [content, List.find?_cons_of_neg (by simpa using later), content]

/-- From a flush on, its number stands for its content. -/
theorem content_cons_here {entries : List ParticipantPatch} {flushes : List PatchMessage}
    {flush : PatchMessage} {seq : Int} (reached : flush.seq ≤ seq) :
    content entries (flush :: flushes) seq = flush.patches := by
  rw [content, List.find?_cons_of_pos (by simpa using reached)]
  rfl

/-- The content is that of a flush, or what was there before all. -/
theorem content_cases (entries : List ParticipantPatch) (flushes : List PatchMessage) (seq : Int) :
    (∃ flush ∈ flushes, content entries flushes seq = flush.patches) ∨
      content entries flushes seq = entries := by
  rw [content]
  cases h : flushes.find? fun flush => flush.seq ≤ seq with
  | none => exact Or.inr rfl
  | some flush => exact Or.inl ⟨flush, List.mem_of_find?_eq_some h, rfl⟩

/-- Beyond the last flush the content is that of the last flush. -/
theorem content_past {entries : List ParticipantPatch} {flushes : List PatchMessage} {seq : Int}
    (past : ∀ flush, flushes.head? = some flush → flush.seq ≤ seq) :
    content entries flushes seq = (flushes.head?.map PatchMessage.patches).getD entries := by
  cases flushes with
  | nil => rfl
  | cons flush flushes => rw [content_cons_here (past flush rfl)]; rfl

/-- The rosters' presence is what was flushed of it, and the settle entry
repeats the last flush. -/
structure Accounts (start : Server) (sid : SessionId) (watched : Watched) : Prop where
  wf : watched.server.WellFormed
  seq : start.scheduler.seq ≤ watched.server.scheduler.seq
  numbered : ∀ flush ∈ watched.flushes, flush.seq ≤ watched.server.scheduler.seq
  settle : ∀ settle, watched.server.scheduler.settling.get? sid = some settle →
    settle.patches = content (base start sid) watched.flushes watched.server.scheduler.seq
  held : ∀ pid entry (field : PresenceField), watched.server.entryOf sid pid = some entry →
    field.marked entry.dirty = false →
      field.ofPresence entry.participant.presence =
        (lastFlushed watched.flushes field pid).or (start.position field sid pid)
  untouched : ∀ pid entry (field : PresenceField), watched.server.entryOf sid pid = some entry →
    field.marked entry.dirty = false → lastFlushed watched.flushes field pid = none →
      ∃ old, start.entryOf sid pid = some old ∧ field.marked old.dirty = false

/-- Before the first tick nothing has to be accounted for. -/
theorem start_accounts {start : Server} (wf : start.WellFormed) (sid : SessionId) :
    Accounts start sid { server := start, flushes := [] } := by
  refine ⟨wf, Int.le_refl _, ?_, ?_, ?_, ?_⟩
  · intro flush h
    cases h
  · intro settle h
    rw [content, base, show start.scheduler.settling.get? sid = _ from h]
    rfl
  · intro pid entry field he _
    rw [Server.position, show start.entryOf sid pid = _ from he]
    rfl
  · intro pid entry field he unmarked _
    exact ⟨entry, he, unmarked⟩

section Step

variable {cfg : Config} {start : Server} {sid : SessionId} {watched : Watched} {stamped : Stamped}

/-- A step without a flush leaves the list of flushes as it is. -/
theorem flushes_step_none (h : watched.server.flush stamped sid = none) :
    (watched.step cfg sid stamped).flushes = watched.flushes := by
  rw [step, h]
  rfl

/-- A flush becomes the first of the list. -/
theorem flushes_step_some {patch : PatchMessage}
    (h : watched.server.flush stamped sid = some patch) :
    (watched.step cfg sid stamped).flushes = patch :: watched.flushes := by
  rw [step, h]
  rfl

/-- A flush takes the next number, and the scheduler moves to it. -/
theorem flush_next (cfg : Config) {patch : PatchMessage} (h : watched.server.flush stamped sid = some patch) :
    patch.seq = watched.server.scheduler.seq + 1 ∧
      (watched.step cfg sid stamped).server.scheduler.seq = watched.server.scheduler.seq + 1 := by
  obtain ⟨isTick, hSeq⟩ := Server.flush_seq h
  exact ⟨hSeq, Server.scheduler_step_tick cfg (Server.action_eq_tick_iff.mpr isTick)⟩

/-- Where nothing is flushed, an unflagged field was unflagged before and holds
what it held. -/
theorem entry_before (accounts : Accounts start sid watched)
    (keeps : (watched.server.action stamped).KeepsRosters)
    (h : watched.server.flush stamped sid = none) {pid : ParticipantId} {entry : Entry}
    {field : PresenceField}
    (he : (watched.step cfg sid stamped).server.entryOf sid pid = some entry)
    (unmarked : field.marked entry.dirty = false) :
    ∃ old, watched.server.entryOf sid pid = some old ∧ field.marked old.dirty = false ∧
      field.ofPresence entry.participant.presence =
        field.ofPresence old.participant.presence := by
  by_cases isTick : stamped.event = .tick
  · have nothing := Server.unmarked_of_flush_none accounts.wf isTick h
    have clean := Server.unmarked_of_not_unflushed nothing pid
    rw [show (watched.step cfg sid stamped).server.entryOf sid pid = _ from
      (Server.step_effect cfg watched.server stamped).entryOf accounts.wf sid pid,
      Server.action_eq_tick_iff.mpr isTick] at he
    obtain ⟨old, hOld, rfl⟩ := Option.map_eq_some_iff.mp he
    exact ⟨old, hOld, clean old hOld field, rfl⟩
  · have notTick : watched.server.action stamped ≠ .tick :=
      fun ha => isTick (Server.action_eq_tick_iff.mp ha)
    rw [show (watched.step cfg sid stamped).server.entryOf sid pid = _ from
      (Server.step_effect cfg watched.server stamped).entryOf accounts.wf sid pid] at he
    cases hOld : watched.server.entryOf sid pid with
    | none =>
        rw [hOld, Action.onEntry_absent] at he
        · cases he
        · intro ⟨ctx, msg, ha, _⟩
          rw [ha] at keeps
          exact keeps
    | some old =>
        rw [hOld] at he
        obtain ⟨wasUnmarked, same⟩ := Action.onEntry_unmarked notTick he unmarked
        exact ⟨old, rfl, wasUnmarked, same⟩

/-- A tick that flushes leaves every entry as it was, unflagged. -/
theorem entry_flushed (accounts : Accounts start sid watched) {patch : PatchMessage}
    (h : watched.server.flush stamped sid = some patch) {pid : ParticipantId} {entry : Entry}
    (he : (watched.step cfg sid stamped).server.entryOf sid pid = some entry) :
    ∃ old, watched.server.entryOf sid pid = some old ∧ entry.participant = old.participant := by
  rw [show (watched.step cfg sid stamped).server.entryOf sid pid = _ from
    (Server.step_effect cfg watched.server stamped).entryOf accounts.wf sid pid,
    Server.action_eq_tick_iff.mpr (Server.flush_seq h).1] at he
  obtain ⟨old, hOld, rfl⟩ := Option.map_eq_some_iff.mp he
  exact ⟨old, hOld, rfl⟩

/-- A step without a flush may move somebody, whose flags are up then. -/
theorem Accounts.step_none (accounts : Accounts start sid watched)
    (keeps : (watched.server.action stamped).KeepsRosters)
    (h : watched.server.flush stamped sid = none) :
    Accounts start sid (watched.step cfg sid stamped) := by
  have grows := watched.server.scheduler_step_le cfg stamped
  have flushes : (watched.step cfg sid stamped).flushes = watched.flushes := flushes_step_none h
  refine ⟨Server.step_wellFormed cfg accounts.wf stamped, Int.le_trans accounts.seq grows,
    ?_, ?_, ?_, ?_⟩
  · rw [flushes]
    exact fun flush hf => Int.le_trans (accounts.numbered flush hf) grows
  · intro settle hs
    have kept := watched.server.settling_step cfg stamped sid hs
    rw [h] at kept
    rw [flushes, accounts.settle settle kept, content_past, content_past]
    · exact fun flush hf => Int.le_trans
        (accounts.numbered flush (List.mem_of_head? hf)) grows
    · exact fun flush hf => accounts.numbered flush (List.mem_of_head? hf)
  · intro pid entry field he unmarked
    obtain ⟨old, hOld, wasUnmarked, same⟩ := entry_before accounts keeps h he unmarked
    rw [flushes, same]
    exact accounts.held pid old field hOld wasUnmarked
  · intro pid entry field he unmarked unflushed
    obtain ⟨old, hOld, wasUnmarked, _⟩ := entry_before accounts keeps h he unmarked
    rw [flushes] at unflushed
    exact accounts.untouched pid old field hOld wasUnmarked unflushed

/-- A flush reports all that moved since the one before. -/
theorem Accounts.step_some (accounts : Accounts start sid watched) {patch : PatchMessage}
    (h : watched.server.flush stamped sid = some patch) :
    Accounts start sid (watched.step cfg sid stamped) := by
  have grows := watched.server.scheduler_step_le cfg stamped
  have flushes : (watched.step cfg sid stamped).flushes = patch :: watched.flushes :=
    flushes_step_some h
  obtain ⟨hSeq, hNext⟩ := flush_next cfg h
  refine ⟨Server.step_wellFormed cfg accounts.wf stamped, Int.le_trans accounts.seq grows,
    ?_, ?_, ?_, ?_⟩
  · intro flush hf
    rw [flushes] at hf
    rcases List.mem_cons.mp hf with rfl | hf
    · exact Int.le_of_eq (hSeq.trans hNext.symm)
    · exact Int.le_trans (accounts.numbered flush hf) grows
  · intro settle hs
    have kept := watched.server.settling_step cfg stamped sid hs
    rw [h] at kept
    rw [flushes, content_cons_here (Int.le_of_eq (hSeq.trans hNext.symm)), kept]
  · intro pid entry field he unmarked
    obtain ⟨old, hOld, same⟩ := entry_flushed accounts h he
    rw [flushes, lastFlushed_cons, Server.carried_flush accounts.wf h hOld, same]
    by_cases marked : field.marked old.dirty = true
    · rw [if_pos marked]
      have dirty : old.dirty ≠ {} := PresenceDirty.ne_empty_iff.mpr ⟨field, marked⟩
      obtain ⟨value, hv⟩ := (Server.entry_reports accounts.wf hOld dirty).of_marked marked
      rw [hv]
      rfl
    · rw [if_neg marked, Option.none_or]
      exact accounts.held pid old field hOld (Bool.eq_false_iff.mpr marked)
  · intro pid entry field he unmarked unflushed
    obtain ⟨old, hOld, same⟩ := entry_flushed accounts h he
    rw [flushes, lastFlushed_cons, Server.carried_flush accounts.wf h hOld] at unflushed
    obtain ⟨nothing, before⟩ := Option.or_eq_none_iff.mp unflushed
    by_cases marked : field.marked old.dirty = true
    · have dirty : old.dirty ≠ {} := PresenceDirty.ne_empty_iff.mpr ⟨field, marked⟩
      obtain ⟨value, hv⟩ := (Server.entry_reports accounts.wf hOld dirty).of_marked marked
      rw [if_pos marked, hv] at nothing
      cases nothing
    · exact accounts.untouched pid old field hOld (Bool.eq_false_iff.mpr marked) before

/-- Every step of a stretch in which nobody comes or goes keeps the accounts. -/
theorem Accounts.step (accounts : Accounts start sid watched)
    (keeps : (watched.server.action stamped).KeepsRosters) :
    Accounts start sid (watched.step cfg sid stamped) := by
  cases h : watched.server.flush stamped sid with
  | none => exact accounts.step_none keeps h
  | some patch => exact accounts.step_some h

end Step

/-- Patches written since the start are numbered in order and carry the content
of the flush they follow. -/
structure Tells (start : Server) (sid : SessionId) (watched : Watched) (writes : List Write) :
    Prop where
  numbered : ∀ write ∈ writes, ∀ patch, write.message = .patch patch → patch.sid = sid →
    start.scheduler.seq < patch.seq ∧ patch.seq ≤ watched.server.scheduler.seq
  content : ∀ write ∈ writes, ∀ patch, write.message = .patch patch → patch.sid = sid →
    patch.patches = content (base start sid) watched.flushes patch.seq
  ordered : writes.Pairwise fun first second => ∀ early late, first.message = .patch early →
    early.sid = sid → second.message = .patch late → late.sid = sid →
      early.seq < late.seq ∨ early = late

section Told

variable {cfg : Config} {start : Server} {sid : SessionId} {watched : Watched} {stamped : Stamped}

/-- The patch a step broadcasts to the session has the next number and the
content of the last flush, itself included. -/
theorem written_content (accounts : Accounts start sid watched) {write : Write}
    (hw : write ∈ watched.server.written cfg stamped) {patch : PatchMessage}
    (hp : write.message = .patch patch) (hSid : patch.sid = sid) :
    patch.seq = watched.server.scheduler.seq + 1 ∧
      (watched.step cfg sid stamped).server.scheduler.seq = watched.server.scheduler.seq + 1 ∧
      patch.patches =
        content (base start sid) (watched.step cfg sid stamped).flushes patch.seq := by
  obtain ⟨isTick, hSeq, _⟩ := Server.patch_of_mem_written hw hp
  refine ⟨hSeq, Server.scheduler_step_tick cfg isTick, ?_⟩
  have source := Server.patch_of_mem_written_cases hw hp
  rw [hSid] at source
  cases h : watched.server.flush stamped sid with
  | some flushed =>
      rw [h] at source
      obtain rfl : patch = flushed := source
      rw [flushes_step_some h, content_cons_here (Int.le_refl _)]
  | none =>
      rw [h] at source
      obtain ⟨settle, hs, rfl⟩ := source
      rw [flushes_step_none h, content_past]
      · have kept := accounts.settle settle hs
        rw [content_past fun flush hf => accounts.numbered flush (List.mem_of_head? hf)] at kept
        exact kept
      · intro flush hf
        have := accounts.numbered flush (List.mem_of_head? hf)
        rw [hSeq]
        omega

/-- All patches of one step for one session are the same patch. -/
theorem written_same {first second : Write} (hFirst : first ∈ watched.server.written cfg stamped)
    (hSecond : second ∈ watched.server.written cfg stamped) {early late : PatchMessage}
    (hEarly : first.message = .patch early) (hLate : second.message = .patch late)
    (same : early.sid = late.sid) : early = late := by
  obtain ⟨_, _, session, hg, due⟩ := Server.patch_of_mem_written hFirst hEarly
  obtain ⟨_, _, other, hg', due'⟩ := Server.patch_of_mem_written hSecond hLate
  rw [same, hg'] at hg
  rw [Option.some.inj hg, due] at due'
  exact Option.some.inj due'

/-- What a step writes is what its flush says, or a repetition. -/
theorem Tells.step {writes : List Write} (tells : Tells start sid watched writes)
    (accounts : Accounts start sid watched) :
    Tells start sid (watched.step cfg sid stamped)
      (writes ++ watched.server.written cfg stamped) := by
  have grows := watched.server.scheduler_step_le cfg stamped
  refine ⟨?_, ?_, ?_⟩
  · intro write hw patch hp hSid
    rcases List.mem_append.mp hw with hw | hw
    · obtain ⟨hLow, hHigh⟩ := tells.numbered write hw patch hp hSid
      exact ⟨hLow, Int.le_trans hHigh grows⟩
    · obtain ⟨hSeq, hNext, _⟩ := written_content accounts hw hp hSid
      have := accounts.seq
      omega
  · intro write hw patch hp hSid
    rcases List.mem_append.mp hw with hw | hw
    · rw [tells.content write hw patch hp hSid]
      have before := (tells.numbered write hw patch hp hSid).2
      cases h : watched.server.flush stamped sid with
      | none => rw [flushes_step_none h]
      | some flushed =>
          have := (flush_next cfg h).1
          rw [flushes_step_some h, content_cons_later (by omega)]
    · exact (written_content accounts hw hp hSid).2.2
  · rw [List.pairwise_append]
    refine ⟨tells.ordered, ?_, ?_⟩
    · apply List.pairwise_of_forall_mem_list
      intro first hf second hs early late hEarly hSid hLate hSid'
      exact Or.inr (written_same hf hs hEarly hLate (hSid.trans hSid'.symm))
    · intro first hf second hs early late hEarly hSid hLate hSid'
      have before := (tells.numbered first hf early hEarly hSid).2
      have after := (written_content accounts hs hLate hSid').1
      exact Or.inl (by omega)

end Told

/-- Over a stretch in which nobody comes or goes. -/
theorem run_accounts {cfg : Config} {start : Server} (wf : start.WellFormed) (sid : SessionId)
    {events : List Stamped}
    (fixed : Transition.Along (Server.step cfg)
      (fun server stamped => (server.action stamped).KeepsRosters) start events) :
    Accounts start sid (run cfg sid { server := start, flushes := [] } events) ∧
      Tells start sid (run cfg sid { server := start, flushes := [] } events)
        (start.sent cfg events) := by
  have along : Transition.Along (step cfg sid)
      (fun watched stamped => (watched.server.action stamped).KeepsRosters)
      { server := start, flushes := [] } events ↔
        Transition.Along (Server.step cfg)
          (fun server stamped => (server.action stamped).KeepsRosters) start events :=
    Transition.along_map (f := Watched.server)
      (C := fun server stamped => (server.action stamped).KeepsRosters) fun _ _ => rfl
  have reached := Transition.invariant_run_along
    (P := fun watched : Watched => Accounts start sid watched ∧
      ∃ writes, watched.server.outbound = start.outbound ++ writes ∧
        Tells start sid watched writes)
    ?_ ?_ (along.mpr fixed)
  · obtain ⟨accounts, writes, hw, tells⟩ := reached
    have server : (Transition.run (step cfg sid) { server := start, flushes := [] } events).server =
        start.run cfg events := Transition.run_map (f := Watched.server) (fun _ _ => rfl) _ _
    rw [server] at hw
    rw [Server.sent, hw, List.drop_left]
    exact ⟨accounts, tells⟩
  · rintro watched stamped keeps ⟨accounts, writes, hw, tells⟩
    refine ⟨accounts.step keeps, writes ++ watched.server.written cfg stamped, ?_,
      tells.step accounts⟩
    show (watched.server.step cfg stamped).outbound = _
    rw [Server.outbound_step, hw, List.append_assoc]
  · refine ⟨start_accounts wf sid, [], (List.append_nil _).symm, ?_, ?_, List.Pairwise.nil⟩
    · intro write hw
      cases hw
    · intro write hw
      cases hw

end Watched

end Copresence
