import Copresence.Models.PresenceFields
import Copresence.Server.Guards
import Copresence.Services.Flushes

/-! Two guards order a participant's presence frames: one starts anew with each
connection, the other stays with the roster entry. When what passes the first
also passes the second. -/
namespace Copresence

open Collections

/-- The field a frame writes, and the position it writes. -/
def InboundMessage.writes : InboundMessage → Option (PresenceField × ℚ × ℚ)
  | .cursor msg => some (.cursor, msg.x, msg.y)
  | .scroll msg => some (.scroll, msg.scrollX, msg.scrollY)
  | _ => none

/-- What a write makes of the entry it is for. -/
def Entry.written (entry : Entry) (write : PresenceField × ℚ × ℚ) (seq : Int) : Entry :=
  entry.write (write.1.write entry.participant.presence write.2 seq) write.1.flag

/-- A message that writes a field writes it into the entry of its participant. -/
theorem onEntry_of_writes {msg : InboundMessage} {write : PresenceField × ℚ × ℚ}
    (hw : msg.writes = some write) (ctx : ConnectionContext) (ttlMs now : Int) (sid : SessionId)
    (pid : ParticipantId) (old : Option Entry) :
    (Action.ofMessage ctx msg).onEntry ttlMs now sid pid old =
      if sid = ctx.sid ∧ pid = msg.pid then old.map fun entry => entry.written write msg.seq
      else old := by
  cases msg with
  | cursor msg =>
      obtain rfl := Option.some.inj hw
      rfl
  | scroll msg =>
      obtain rfl := Option.some.inj hw
      rfl
  | _ => cases hw

/-- The entry shows the write, waits to be flushed, and is not as before. -/
structure Entry.Took (old new : Entry) (write : PresenceField × ℚ × ℚ) : Prop where
  value : write.1.ofPresence new.participant.presence = some write.2
  marked : write.1.marked new.dirty = true
  changed : new.participant.presence ≠ old.participant.presence

theorem Entry.written_presence (entry : Entry) (write : PresenceField × ℚ × ℚ) (seq : Int) :
    (entry.written write seq).participant.presence =
      write.1.write entry.participant.presence write.2 seq := by
  rw [written, Entry.write]
  split
  · next same => exact same.symm
  · rfl

/-- An entry takes a write exactly when its field's guard lets the number pass. -/
theorem Entry.took_written_iff (entry : Entry) (write : PresenceField × ℚ × ℚ) (seq : Int) :
    entry.Took (entry.written write seq) write ↔
      write.1.Takes entry.participant.presence seq := by
  have presence := entry.written_presence write seq
  constructor
  · intro took
    have changed := took.changed
    rw [presence] at changed
    exact (write.1.write_ne_iff _ _ _).mp changed
  · intro takes
    have changed := (write.1.write_ne_iff _ write.2 _).mpr takes
    refine ⟨?_, ?_, ?_⟩
    · rw [presence]
      rw [(write.1.write_of_takes _ _ _ takes write.1).1, if_pos rfl]
    · rw [written, Entry.write]
      rw [if_neg changed]
      cases write.1 with
      | cursor => exact Bool.or_true _
      | scroll => exact Bool.or_true _
    · rw [presence]
      exact changed

/-- A run with, for each roster entry, the accepted frames of its participant
since the entry was made. -/
structure Attended where
  observed : Observed
  heard : SessionId → ParticipantId → List Accepted

namespace Attended

def initial : Attended := { observed := Observed.initial, heard := fun _ _ => [] }

def step (cfg : Config) (attended : Attended) (stamped : Stamped) : Attended where
  observed := attended.observed.step cfg stamped
  heard := fun sid pid =>
    if (attended.observed.server.step cfg stamped).InRoster sid pid then
      ((acceptedFrame attended.observed.server stamped).filter fun accepted =>
        accepted.sid = sid ∧ accepted.msg.pid = pid).toList ++ attended.heard sid pid
    else []

def run (cfg : Config) : Attended → List Stamped → Attended := Transition.run (step cfg)

/-- A frame that writes is accepted on the connection its participant last
said hello on, and the participant is in the roster. -/
structure Addressed (attended : Attended) (stamped : Stamped) (ctx : ConnectionContext)
    (msg : InboundMessage) (write : PresenceField × ℚ × ℚ) : Prop where
  received : attended.observed.server.received stamped = some (ctx, msg)
  writes : msg.writes = some write
  listed : attended.observed.server.InRoster ctx.sid msg.pid
  latest : ∃ hello, attended.observed.latestHello msg.pid = some hello ∧ hello.socket = ctx.socket

/-- Every such frame takes effect. -/
def Effective (cfg : Config) (attended : Attended) (stamped : Stamped) : Prop :=
  ∀ ctx msg write, attended.Addressed stamped ctx msg write →
    ∃ old new, attended.observed.server.entryOf ctx.sid msg.pid = some old ∧
      (attended.observed.server.step cfg stamped).entryOf ctx.sid msg.pid = some new ∧
      old.Took new write

/-- No such frame is numbered at or below a frame of its field that another
connection of the participant brought since the participant joined. -/
def Ahead (attended : Attended) (stamped : Stamped) : Prop :=
  ∀ ctx msg write, attended.Addressed stamped ctx msg write →
    ∀ earlier ∈ attended.heard ctx.sid msg.pid, earlier.socket ≠ ctx.socket →
      earlier.msg.writes.map Prod.fst = some write.1 → earlier.msg.seq < msg.seq

/-- What the roster and the guards remember of the frames heard. -/
structure Remembers (attended : Attended) : Prop where
  wellFormed : attended.observed.server.WellFormed
  absent : ∀ sid pid, attended.observed.server.entryOf sid pid = none → attended.heard sid pid = []
  takes : ∀ sid pid entry, attended.observed.server.entryOf sid pid = some entry →
    ∀ field : PresenceField, ∀ seq, field.Takes entry.participant.presence seq ↔
      ∀ earlier ∈ attended.heard sid pid, earlier.msg.writes.map Prod.fst = some field →
        earlier.msg.seq < seq
  guarded : ∀ sid pid, ∀ earlier ∈ attended.heard sid pid,
    ∃ guard, attended.observed.server.guard? earlier.socket = some guard ∧
      ¬guard.Newer earlier.msg.seq

theorem initial_remembers : initial.Remembers where
  wellFormed := Server.initial_wellFormed
  absent := fun _ _ _ => rfl
  takes := by
    intro sid pid entry h
    cases h
  guarded := by
    intro sid pid earlier h
    cases h

/-- Without an accepted frame, an entry that is there keeps its presence. -/
theorem presence_of_unreceived {server : Server} {stamped : Stamped}
    (h : server.received stamped = none) {ttlMs now : Int} {sid : SessionId} {pid : ParticipantId}
    {old : Option Entry} {new : Entry}
    (hn : (server.action stamped).onEntry ttlMs now sid pid old = some new) :
    ∃ entry, old = some entry ∧ new.participant.presence = entry.participant.presence := by
  have noFrame : ¬(server.action stamped).IsFrame := by
    intro isFrame
    obtain ⟨ctx, msg, hr, _⟩ := Server.received_of_isFrame isFrame
    rw [h] at hr
    cases hr
  unfold Action.onEntry at hn
  split at hn
  · next ha => rw [ha] at noFrame; exact absurd trivial noFrame
  · next ha => rw [ha] at noFrame; exact absurd trivial noFrame
  · next ha => rw [ha] at noFrame; exact absurd trivial noFrame
  · split at hn
    · cases hn
    · exact ⟨new, hn, rfl⟩
  · obtain ⟨entry, he, rfl⟩ := Option.map_eq_some_iff.mp hn
    exact ⟨entry, he, rfl⟩
  · exact ⟨new, (Option.filter_eq_some_iff.mp hn).1, rfl⟩
  · exact ⟨new, hn, rfl⟩

/-- A frame that writes no field keeps the presence; a first hello brings an
empty one. -/
theorem presence_of_no_write {msg : InboundMessage} (hw : msg.writes = none)
    {ctx : ConnectionContext} {ttlMs now : Int} {sid : SessionId} {pid : ParticipantId}
    {old : Option Entry} {new : Entry}
    (hn : (Action.ofMessage ctx msg).onEntry ttlMs now sid pid old = some new) :
    (∃ entry, old = some entry ∧ new.participant.presence = entry.participant.presence) ∨
      (old = none ∧ new.participant.presence = emptyPresence) := by
  have kept : old = some new → (∃ entry, old = some entry ∧
      new.participant.presence = entry.participant.presence) ∨
        (old = none ∧ new.participant.presence = emptyPresence) := fun h => Or.inl ⟨new, h, rfl⟩
  cases msg with
  | hello msg =>
      simp only [Action.ofMessage, Action.onEntry] at hn
      split at hn
      · rw [← Option.some.inj hn]
        cases old with
        | none => exact Or.inr ⟨rfl, rfl⟩
        | some entry => exact Or.inl ⟨entry, rfl, rfl⟩
      · exact kept hn
  | bye msg =>
      simp only [Action.ofMessage, Action.onEntry] at hn
      split at hn
      · cases hn
      · exact kept hn
  | cursor => cases hw
  | scroll => cases hw
  | ack => exact kept hn
  | ping => exact kept hn
  | audit => exact kept hn

section Step

variable {cfg : Config} {attended : Attended} {stamped : Stamped} {sid : SessionId}
  {pid : ParticipantId}

/-- What is heard of somebody in the roster after the step. -/
theorem heard_step {entry : Entry}
    (h : (attended.observed.server.step cfg stamped).entryOf sid pid = some entry) :
    (attended.step cfg stamped).heard sid pid =
      ((acceptedFrame attended.observed.server stamped).filter fun accepted =>
        accepted.sid = sid ∧ accepted.msg.pid = pid).toList ++ attended.heard sid pid :=
  if_pos (Option.isSome_of_eq_some h)

/-- A frame that is not accepted is not heard. -/
theorem heard_step_unreceived (hr : attended.observed.server.received stamped = none) {entry : Entry}
    (h : (attended.observed.server.step cfg stamped).entryOf sid pid = some entry) :
    (attended.step cfg stamped).heard sid pid = attended.heard sid pid := by
  rw [heard_step h, acceptedFrame, hr]
  rfl

/-- An accepted frame is heard from its participant. -/
theorem heard_step_received {ctx : ConnectionContext} {msg : InboundMessage}
    (hr : attended.observed.server.received stamped = some (ctx, msg)) {entry : Entry}
    (h : (attended.observed.server.step cfg stamped).entryOf sid pid = some entry) :
    (attended.step cfg stamped).heard sid pid =
      if sid = ctx.sid ∧ pid = msg.pid then
        { time := stamped.time, socket := ctx.socket, sid := ctx.sid, msg } :: attended.heard sid pid
      else attended.heard sid pid := by
  rw [heard_step h, acceptedFrame, hr, Option.map_some, Option.filter_some]
  simp only [decide_eq_true_eq, eq_comm (a := sid), eq_comm (a := pid)]
  split <;> rfl

/-- After a step a field takes the numbers above all heard for it. -/
theorem Remembers.step_takes (remembers : attended.Remembers) {entry : Entry}
    (h : (attended.observed.server.step cfg stamped).entryOf sid pid = some entry)
    (field : PresenceField) (seq : Int) :
    field.Takes entry.participant.presence seq ↔
      ∀ earlier ∈ (attended.step cfg stamped).heard sid pid,
        earlier.msg.writes.map Prod.fst = some field → earlier.msg.seq < seq := by
  have effect := Server.step_effect cfg attended.observed.server stamped
  have moved := effect.entryOf remembers.wellFormed sid pid
  rw [h] at moved
  cases hr : attended.observed.server.received stamped with
  | none =>
      obtain ⟨old, ho, same⟩ := presence_of_unreceived hr moved.symm
      rw [heard_step_unreceived hr h, same]
      exact remembers.takes sid pid old ho field seq
  | some pair =>
      obtain ⟨ctx, msg⟩ := pair
      rw [heard_step_received hr h]
      rw [Server.action_of_received hr] at moved
      by_cases own : sid = ctx.sid ∧ pid = msg.pid
      · rw [if_pos own]
        simp only [List.mem_cons, forall_eq_or_imp]
        cases hw : msg.writes with
        | none =>
            have silent : (Option.map Prod.fst (none : Option (PresenceField × ℚ × ℚ))) ≠ some field := by
              simp
            rcases presence_of_no_write hw moved.symm with ⟨old, ho, same⟩ | ⟨ho, same⟩
            · rw [same, remembers.takes sid pid old ho field seq]
              exact (and_iff_right fun h => absurd h silent).symm
            · rw [same, remembers.absent sid pid ho]
              have takes : field.Takes emptyPresence seq := by
                intro recorded hf
                cases field <;> cases hf
              exact iff_of_true takes ⟨fun h => absurd h silent, by simp⟩
        | some write =>
            rw [onEntry_of_writes hw, if_pos own] at moved
            obtain ⟨old, ho, rfl⟩ := Option.map_eq_some_iff.mp moved.symm
            have presence := old.written_presence write msg.seq
            rw [presence, write.1.takes_write, remembers.takes sid pid old ho field seq, and_comm,
              Option.map_some, Option.some.injEq]
            exact and_congr_left fun _ => ⟨fun h he => h he.symm, fun h he => h he.symm⟩
      · have kept := (Action.ofMessage_within ctx msg).onEntry cfg.ttlMs stamped.time own
          (attended.observed.server.entryOf sid pid)
        rw [if_neg own]
        rw [kept] at moved
        exact remembers.takes sid pid entry moved.symm field seq

/-- Every step keeps the guards to what was heard. -/
theorem Remembers.step (remembers : attended.Remembers) :
    (attended.step cfg stamped).Remembers where
  wellFormed := Server.step_wellFormed cfg remembers.wellFormed stamped
  absent := by
    intro sid pid h
    apply if_neg
    intro listed
    rw [Server.InRoster] at listed
    change (attended.observed.server.step cfg stamped).entryOf sid pid = none at h
    rw [h] at listed
    cases listed
  takes := fun sid pid entry h field seq => remembers.step_takes h field seq
  guarded := by
    intro sid pid earlier hm
    have before : earlier ∈ attended.heard sid pid →
        ∃ guard, (attended.observed.server.step cfg stamped).guard? earlier.socket = some guard ∧
          ¬guard.Newer earlier.msg.seq := by
      intro hm
      obtain ⟨guard, hg, old⟩ := remembers.guarded sid pid earlier hm
      obtain ⟨later, hl, le⟩ := Server.guard?_step_le cfg stamped hg
      exact ⟨later, hl, fun newer => old (le _ newer)⟩
    rw [Attended.step] at hm
    dsimp only at hm
    split at hm
    · rcases List.mem_append.mp hm with now | hm
      · obtain ⟨accepted, _⟩ := Option.filter_eq_some_iff.mp (Option.mem_toList.mp now)
        obtain ⟨⟨ctx, msg⟩, hr, rfl⟩ := Option.map_eq_some_iff.mp accepted
        exact Server.guard?_step_received cfg hr
      · exact before hm
    · cases hm

/-- What its own connection brought before, an accepted frame is ahead of. -/
theorem Remembers.own_lt (remembers : attended.Remembers) {ctx : ConnectionContext}
    {msg : InboundMessage} (hr : attended.observed.server.received stamped = some (ctx, msg))
    {earlier : Accepted} (hm : earlier ∈ attended.heard sid pid)
    (own : earlier.socket = ctx.socket) : earlier.msg.seq < msg.seq := by
  obtain ⟨socket, frame, _, hl, hj⟩ := Server.received_eq_some hr
  obtain ⟨_, _, _, newer⟩ := judge_accepted hj
  obtain ⟨guard, hg, old⟩ := remembers.guarded sid pid earlier hm
  rw [own, Server.guard?, (Server.live_of_liveContext hl).1.1, Option.map_some] at hg
  obtain rfl := Option.some.inj hg
  by_contra late
  apply old
  intro last hl
  exact Int.lt_of_lt_of_le (newer last hl) (Int.not_lt.mp late)

/-- A frame that the connection's guard has let through takes effect exactly
when it is ahead of what other connections brought. -/
theorem Remembers.effective_iff (remembers : attended.Remembers) :
    attended.Effective cfg stamped ↔ attended.Ahead stamped := by
  have takes_iff : ∀ ctx msg write, attended.Addressed stamped ctx msg write →
      ((∃ old new, attended.observed.server.entryOf ctx.sid msg.pid = some old ∧
        (attended.observed.server.step cfg stamped).entryOf ctx.sid msg.pid = some new ∧
        old.Took new write) ↔
      ∀ earlier ∈ attended.heard ctx.sid msg.pid, earlier.socket ≠ ctx.socket →
        earlier.msg.writes.map Prod.fst = some write.1 → earlier.msg.seq < msg.seq) := by
    intro ctx msg write addressed
    obtain ⟨old, ho⟩ := Option.isSome_iff_exists.mp addressed.listed
    have moved := (Server.step_effect cfg attended.observed.server stamped).entryOf
      remembers.wellFormed ctx.sid msg.pid
    rw [Server.action_of_received addressed.received, onEntry_of_writes addressed.writes,
      if_pos ⟨rfl, rfl⟩, ho, Option.map_some] at moved
    have taken := remembers.takes ctx.sid msg.pid old ho write.1 msg.seq
    constructor
    · intro ⟨before, after, hb, ha, took⟩ earlier hm _ field
      rw [ho] at hb
      rw [moved] at ha
      rw [← Option.some.inj hb, ← Option.some.inj ha, old.took_written_iff] at took
      exact taken.mp took earlier hm field
    · intro ahead
      refine ⟨old, _, ho, moved, (old.took_written_iff write msg.seq).mpr (taken.mpr ?_)⟩
      intro earlier hm field
      by_cases own : earlier.socket = ctx.socket
      · exact remembers.own_lt addressed.received hm own
      · exact ahead earlier hm own field
  exact forall_congr' fun ctx => forall_congr' fun msg => forall_congr' fun write =>
    forall_congr' fun addressed => takes_iff ctx msg write addressed

end Step

/-- The two guards agree along a run exactly when, on a participant's latest
connection, no frame is numbered at or below one of the same field that the
participant sent on another connection since it joined. -/
theorem effective_along_iff (cfg : Config) (events : List Stamped) :
    Transition.Along (step cfg) (Effective cfg) initial events ↔
      Transition.Along (step cfg) Ahead initial events :=
  Transition.along_iff_along (I := Remembers) (fun _ _ remembers => remembers.step)
    (fun _ _ remembers => remembers.effective_iff) initial_remembers

open Scenario

/-- A participant moves on one connection and comes back on another, with its
numbers starting over, before the first has been closed. -/
def comeback : List Stamped :=
  arrival 0 1 session alice 1 ++ [⟨5, .message 1 (cursorFrame session alice 9 5 1 4)⟩] ++
    arrival 10 2 session alice 1

def nextMove : Stamped := ⟨15, .message 2 (cursorFrame session alice 2 15 0 6)⟩

theorem nextMove_addressed :
    (run (config 100) initial comeback).Addressed nextMove
      { socket := 2, sid := session, pid := some alice, sequenceGuard := { lastSeen := some 1 }
        connectedAt := 10 }
      (.cursor { envelope session alice 2 15 with x := 0, y := 6 }) (.cursor, 0, 6) where
  received := by decide
  writes := rfl
  listed := by decide
  latest := ⟨{ time := 10, socket := 2, sid := session
               msg := .hello
                { envelope session alice 1 10 with
                  docWidth := 1, docHeight := 1, dpr := 1, visibilityState := .visible } },
    by decide, rfl⟩

/-- The next move is accepted and comes to nothing. -/
theorem comeback_discarded :
    (∀ stamped ∈ comeback ++ [nextMove], stamped.Sendable) ∧
      ¬Transition.Along (step (config 100)) (Effective (config 100)) initial
        (comeback ++ [nextMove]) := by
  refine ⟨by decide, fun along => ?_⟩
  obtain ⟨_, last, _⟩ := Transition.along_append.mp along
  obtain ⟨old, new, _, stored, took⟩ := last _ _ _ nextMove_addressed
  have stale : (((run (config 100) initial comeback).observed.server.step (config 100)
      nextMove).entryOf session alice).bind (fun entry =>
        PresenceField.cursor.ofPresence entry.participant.presence) = some (1, 4) := by decide
  have value := took.value
  have shown := (congrArg (fun entry : Option Entry => entry.bind fun entry =>
    PresenceField.cursor.ofPresence entry.participant.presence) stored).symm.trans stale
  rw [Option.bind_some, value] at shown
  exact absurd shown (by decide)

end Attended

end Copresence
