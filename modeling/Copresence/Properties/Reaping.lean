import Copresence.Server.History

/-! What keeps a participant from the reaper. `lastSeenAt` is written by a
hello and by no other frame, so a sweep spares exactly those whose latest
hello is recent, however active they are otherwise. -/
namespace Copresence

open Collections

/-- Every inbound frame is stamped with the server's clock on arrival. -/
def Clocked (events : List Stamped) : Prop :=
  ∀ stamped ∈ events, ∀ socket msg, stamped.event = .message socket (.parsed msg) →
    msg.ts = stamped.time

/-- A participant who is present, registered on an open connection, and from
whom the router accepted some frame there since `since`. -/
structure Observed.Active (observed : Observed) (since : Int) (sid : SessionId)
    (pid : ParticipantId) (socket : SocketId) : Prop where
  inRoster : observed.server.InRoster sid pid
  registered : observed.server.hub.registration pid = some { pid, sid, socket }
  connected : observed.server.isOpen socket = true
  heard : ∃ accepted ∈ observed.accepted,
    accepted.socket = socket ∧ accepted.msg.pid = pid ∧ since ≤ accepted.time

/-- Untouched by a sweep: still present, still registered as before, and no
end of the session was recorded for it. -/
structure Server.Kept (before after : Server) (sid : SessionId) (pid : ParticipantId) : Prop where
  inRoster : after.InRoster sid pid
  registered : after.hub.registration pid = before.hub.registration pid
  notEnded : ¬ ∃ entry ∈ before.recordedSince after, entry.sid = sid ∧ entry.pid = pid

/-- In every session that lists the participant, its latest hello is no older
than the TTL. -/
def Observed.HelloWithin (observed : Observed) (ttlMs now : Int) (pid : ParticipantId) : Prop :=
  ∀ sid, observed.server.InRoster sid pid →
    ∃ hello, observed.lastHello sid pid = some hello ∧ now - hello.time ≤ ttlMs

theorem Entry.write_lastSeenAt (entry : Entry) (presence : PresenceState)
    (fields : PresenceDirty) :
    (entry.write presence fields).participant.lastSeenAt = entry.participant.lastSeenAt := by
  rw [write]
  split <;> rfl

/-- Cursor and scroll frames do not touch their sender. -/
theorem SessionEvent.observe_lastSeenAt (event : SessionEvent) (entry : Entry) :
    (event.observe entry).participant.lastSeenAt = entry.participant.lastSeenAt := by
  cases event with
  | cursor msg => exact entry.write_lastSeenAt _ _
  | scroll msg => exact entry.write_lastSeenAt _ _
  | hello msg => rfl
  | bye msg => rfl

/-- Whoever is listed after an action other than its own hello was listed
before it, and last seen when it was then. -/
theorem Action.onEntry_lastSeenAt {ttlMs now : Int} {sid : SessionId} {pid : ParticipantId}
    {old : Option Entry} {action : Action} (other : ¬ action.IsHelloFor sid pid) {entry : Entry}
    (h : action.onEntry ttlMs now sid pid old = some entry) :
    ∃ previous, old = some previous ∧
      previous.participant.lastSeenAt = entry.participant.lastSeenAt := by
  cases action with
  | idle => exact ⟨entry, h, rfl⟩
  | connect socket opened => exact ⟨entry, h, rfl⟩
  | closing socket => exact ⟨entry, h, rfl⟩
  | hello ctx msg =>
      rw [onEntry, if_neg fun own => other ⟨ctx, msg, rfl, own⟩] at h
      exact ⟨entry, h, rfl⟩
  | presence ctx event =>
      rw [onEntry] at h
      split at h
      · obtain ⟨previous, hp, rfl⟩ := Option.map_eq_some_iff.mp h
        exact ⟨previous, hp, (event.observe_lastSeenAt previous).symm⟩
      · exact ⟨entry, h, rfl⟩
  | bye ctx gone =>
      rw [onEntry] at h
      split at h
      · cases h
      · exact ⟨entry, h, rfl⟩
  | close ctx =>
      rw [onEntry] at h
      split at h
      · cases h
      · exact ⟨entry, h, rfl⟩
  | tick =>
      obtain ⟨previous, hp, rfl⟩ := Option.map_eq_some_iff.mp h
      exact ⟨previous, hp, rfl⟩
  | reap => exact ⟨entry, (Option.filter_eq_some_iff.mp h).1, rfl⟩

/-- `lastSeenAt` is the arrival time of the latest hello. -/
def Observed.SeenAtHello (observed : Observed) : Prop :=
  ∀ sid pid entry, observed.server.entryOf sid pid = some entry →
    ∃ hello, observed.lastHello sid pid = some hello ∧
      hello.time = entry.participant.lastSeenAt

/-- The arrival time of a clocked hello is its own timestamp. -/
theorem Clocked.hello {stamped : Stamped} (clocked : Clocked [stamped]) {server : Server}
    {ctx : ConnectionContext} {msg : HelloMessage} (h : server.action stamped = .hello ctx msg) :
    msg.ts = stamped.time := by
  obtain ⟨socket, frame, he, _, hj⟩ := Server.received_eq_some (Server.action_eq_hello h)
  obtain ⟨hd, _⟩ := judge_accepted hj
  obtain ⟨rfl, _⟩ := decodeInbound_ok_iff.mp hd
  exact clocked stamped (List.mem_singleton_self _) socket _ he

theorem Observed.SeenAtHello.step {cfg : Config} {observed : Observed} {stamped : Stamped}
    (clocked : Clocked [stamped]) (wf : observed.server.WellFormed)
    (seen : observed.SeenAtHello) : (observed.step cfg stamped).SeenAtHello := by
  intro sid pid entry h
  have moved := (Server.step_effect cfg observed.server stamped).entryOf wf sid pid
  rw [lastHello_step]
  change (observed.server.step cfg stamped).entryOf sid pid = some entry at h
  rw [moved] at h
  by_cases own : (observed.server.action stamped).IsHelloFor sid pid
  · -- The participant's own hello sets both sides at once.
    obtain ⟨ctx, msg, ha, rfl, rfl⟩ := own
    have stampedAt := clocked.hello ha
    rw [ha, Action.onEntry, if_pos ⟨rfl, rfl⟩] at h
    refine ⟨{ time := stamped.time, socket := ctx.socket, sid := ctx.sid, msg := .hello msg },
      ?_, ?_⟩
    · rw [ha, Action.acceptedHello, Option.filter_some,
        if_pos (decide_eq_true ⟨rfl, rfl, rfl⟩)]
      rfl
    · rw [← Option.some.inj h]
      exact stampedAt.symm
  · obtain ⟨previous, hp, hs⟩ := Action.onEntry_lastSeenAt own h
    obtain ⟨hello, hl, ht⟩ := seen sid pid previous hp
    have noHello : ((observed.server.action stamped).acceptedHello stamped.time).filter
        (fun accepted => accepted.sid = sid ∧ accepted.IsHelloOf pid) = none := by
      rw [Option.filter_eq_none_iff]
      intro accepted hm hd
      obtain ⟨hSid, _, hPid⟩ := of_decide_eq_true hd
      obtain ⟨ctx, msg, ha, rfl⟩ := Action.acceptedHello_eq_some.mp hm
      exact own ⟨ctx, msg, ha, hSid.symm, hPid.symm⟩
    rw [noHello]
    exact ⟨hello, hl, ht.trans hs⟩

theorem Observed.run_seenAtHello (cfg : Config) {events : List Stamped}
    (clocked : Clocked events) : (Observed.run cfg Observed.initial events).SeenAtHello := by
  induction events using List.reverseRecOn with
  | nil =>
      intro sid pid entry h
      cases h
  | append_singleton events stamped ih =>
      rw [Observed.run_concat]
      refine .step ?_ (Observed.run_wellFormed cfg events) (ih ?_)
      · intro other hm
        exact clocked other (List.mem_append_right _ hm)
      · intro other hm
        exact clocked other (List.mem_append_left _ hm)

/-- A sweep reaps a participant exactly when some session lists it on the
strength of an old hello. -/
theorem Observed.SeenAtHello.not_reaps_iff {cfg : Config} {now : Int} {observed : Observed}
    (seen : observed.SeenAtHello) (pid : ParticipantId) :
    ¬ Reaper.Reaps cfg now observed.server pid ↔ observed.HelloWithin cfg.ttlMs now pid := by
  constructor
  · intro spared sid listed
    obtain ⟨entry, he⟩ := Option.isSome_iff_exists.mp listed
    obtain ⟨hello, hl, ht⟩ := seen sid pid entry he
    refine ⟨hello, hl, ?_⟩
    by_contra old
    refine spared ⟨sid, entry.participant, ?_, ?_⟩
    · rw [Server.participant?_eq, he]
      rfl
    · rw [Participant.Stale, ← ht]
      exact old
  · intro within ⟨sid, participant, hp, stale⟩
    rw [Server.participant?_eq] at hp
    obtain ⟨entry, he, rfl⟩ := Option.map_eq_some_iff.mp hp
    obtain ⟨hello, hl, ht⟩ := seen sid pid entry he
    obtain ⟨found, hf, recent⟩ := within sid (by rw [Server.InRoster, he]; rfl)
    rw [hl] at hf
    rw [← Option.some.inj hf, ht] at recent
    exact stale recent

/-- A sweep keeps a registered participant in its session exactly when it
reaps it from none. -/
theorem Reaper.kept_iff {cfg : Config} {now : Int} {server : Server} (wf : server.WellFormed)
    {sid : SessionId} {pid : ParticipantId} (listed : server.InRoster sid pid)
    {connection : Connection} (registered : server.hub.registration pid = some connection) :
    server.Kept (sweep cfg now server) sid pid ↔ ¬ Reaps cfg now server pid := by
  constructor
  · intro kept reaps
    have gone := kept.registered
    rw [sweep_registration_of_reaps cfg now wf reaps, registered] at gone
    cases gone
  · intro spared
    have fresh : ¬ ∃ participant, server.participant? sid pid = some participant ∧
        participant.Stale cfg.ttlMs now :=
      fun ⟨participant, hp, stale⟩ => spared ⟨sid, participant, hp, stale⟩
    refine ⟨?_, sweep_registration_of_not_reaps cfg now wf spared, ?_⟩
    · obtain ⟨entry, he⟩ := Option.isSome_iff_exists.mp listed
      have recent : ¬ entry.participant.Stale cfg.ttlMs now := by
        intro stale
        exact fresh ⟨entry.participant, by rw [Server.participant?_eq, he]; rfl, stale⟩
      rw [Server.InRoster, sweep_entryOf cfg now wf, he, Option.filter_some,
        if_pos (decide_eq_true recent)]
      rfl
    · rw [sweep_recordedSince cfg now wf]
      exact fresh

/-- After any run and at any sweep, an active participant survives exactly
when its latest hello is recent in every session that lists it. The cursor,
scroll, ping, ack and audit frames that make it active do not count. -/
theorem sweep_keeps_active_iff (cfg : Config) (events : List Stamped) (clocked : Clocked events)
    (now : Int) (sid : SessionId) (pid : ParticipantId) (socket : SocketId)
    (active : (Observed.run cfg Observed.initial events).Active (now - cfg.ttlMs) sid pid socket) :
    (Observed.run cfg Observed.initial events).server.Kept
        (Reaper.sweep cfg now (Observed.run cfg Observed.initial events).server) sid pid ↔
      (Observed.run cfg Observed.initial events).HelloWithin cfg.ttlMs now pid :=
  (Reaper.kept_iff (Observed.run_wellFormed cfg events) active.inRoster active.registered).trans
    ((Observed.run_seenAtHello cfg clocked).not_reaps_iff pid)

open Scenario

/-- One participant, moving the cursor long after its only hello. -/
def quietReader : List Stamped :=
  arrival 0 1 session alice 1 ++ [⟨150, .message 1 (cursorFrame session alice 2 150 1 4)⟩]

theorem quietReader_clocked : Clocked quietReader := by
  intro stamped hm socket msg he
  simp only [quietReader, arrival, List.cons_append, List.nil_append, List.mem_cons,
    List.not_mem_nil, or_false] at hm
  rcases hm with rfl | rfl | rfl
  · cases he
  · cases he; rfl
  · cases he; rfl

theorem quietReader_active :
    (Observed.run (config 100) Observed.initial quietReader).Active (151 - 100) session alice 1 :=
  ⟨by decide, by decide, by decide, by decide⟩

/-- The reaper removes a participant whose cursor moved one millisecond ago. -/
theorem sweep_reaps_active :
    (∀ stamped ∈ quietReader, stamped.Sendable) ∧ Clocked quietReader ∧
      (Observed.run (config 100) Observed.initial quietReader).Active (151 - 100) session alice 1 ∧
      ¬ (Observed.run (config 100) Observed.initial quietReader).server.Kept
        (Reaper.sweep (config 100) 151
          (Observed.run (config 100) Observed.initial quietReader).server) session alice :=
  ⟨by decide, quietReader_clocked, quietReader_active, fun kept => absurd kept.inRoster (by decide)⟩

theorem sweep_keeps_active_iff_quietReader :
    (Observed.run (config 100) Observed.initial quietReader).server.Kept
        (Reaper.sweep (config 100) 151
          (Observed.run (config 100) Observed.initial quietReader).server) session alice ↔
      (Observed.run (config 100) Observed.initial quietReader).HelloWithin 100 151 alice :=
  sweep_keeps_active_iff (config 100) quietReader quietReader_clocked 151 session alice 1
    quietReader_active

end Copresence
