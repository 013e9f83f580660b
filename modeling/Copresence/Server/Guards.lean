import Copresence.Server.History

/-! The guards of the connections over a step: only a frame moves one, only
the one of its own connection, and never back. -/
namespace Copresence

/-- What the guard of a later moment finds newer, it found newer before. -/
theorem SequenceGuard.newer_of_accept {guard : SequenceGuard} {seq other : Int}
    (h : (guard.accept seq).1.Newer other) : guard.Newer other := by
  rw [Newer, accept_lastSeen] at h
  split at h
  · next accepted =>
      have later := (guard.accept_snd seq).mp accepted
      intro last hl
      exact Int.lt_trans (later last hl) (h seq rfl)
  · exact h

theorem SequenceGuard.not_newer_of_accept {guard : SequenceGuard} {seq : Int}
    (newer : guard.Newer seq) : ¬(guard.accept seq).1.Newer seq := by
  intro h
  rw [Newer, accept_lastSeen, if_pos ((guard.accept_snd seq).mpr newer)] at h
  exact Int.lt_irrefl seq (h seq rfl)

theorem newer_of_afterGuard {ctx : ConnectionContext} {frame : RawFrame} {seq : Int}
    (h : (afterGuard ctx frame).sequenceGuard.Newer seq) : ctx.sequenceGuard.Newer seq := by
  rcases judge_cases ctx frame with ⟨_, _, _, kept⟩ | ⟨_, _, _, guarded⟩
  · rwa [kept] at h
  · rw [guarded] at h
    exact SequenceGuard.newer_of_accept h

/-- An accepted frame moves its connection's guard up to its own number. -/
theorem afterGuard_of_accepted {ctx : ConnectionContext} {frame : RawFrame} {msg : InboundMessage}
    (h : judge ctx frame = .accepted msg) :
    afterGuard ctx frame = { ctx with sequenceGuard := (ctx.sequenceGuard.accept msg.seq).1 } := by
  obtain ⟨decoded, introduced, own, _⟩ := judge_accepted h
  exact (Fits.route ⟨decoded, introduced, own⟩).2

/-- A frame refused with an error has not reached the guard. -/
theorem afterGuard_of_refused {ctx : ConnectionContext} {frame : RawFrame} {code : ErrorCode}
    {detail : String} (h : judge ctx frame = .refused code detail) : afterGuard ctx frame = ctx := by
  rcases judge_cases ctx frame with ⟨_, _, _, kept⟩ | ⟨_, _, judged, _⟩
  · exact kept
  · rw [h] at judged
    split at judged <;> cases judged

namespace Server

def guard? (server : Server) (socket : SocketId) : Option SequenceGuard :=
  (server.contexts socket).map ConnectionContext.sequenceGuard

theorem guard?_setContext (server : Server) (ctx : ConnectionContext) (socket : SocketId) :
    (server.setContext ctx).guard? socket =
      if socket = ctx.socket then some ctx.sequenceGuard else server.guard? socket := by
  rw [guard?, setContext_contexts]
  split <;> rfl

theorem guard?_congr {first second : Server} (h : first.contexts = second.contexts)
    (socket : SocketId) : first.guard? socket = second.guard? socket := by
  rw [guard?, guard?, h]

/-- No controller touches a guard. -/
theorem dispatch_guard? (now : Int) (ctx : ConnectionContext) (server : Server)
    (msg : InboundMessage) (socket : SocketId) :
    (dispatch now ctx (server.setContext ctx) msg).guard? socket =
      (server.setContext ctx).guard? socket := by
  cases msg with
  | hello msg =>
      show (handleHello now ctx msg (server.setContext ctx)).guard? socket = _
      rw [guard?, handleHello_contexts, guard?_setContext, setContext_contexts]
      split <;> rfl
  | bye msg =>
      show (removeFromSession now ctx msg.pid _).guard? socket = _
      rw [guard?_congr (removeFromSession_contexts _ _ _ _), guard?_setContext, guard?_setContext]
      split <;> rfl
  | ping msg =>
      show (handlePing now ctx msg _).guard? socket = _
      rw [handlePing]
      split <;> rfl
  | cursor msg =>
      obtain ⟨registry, h⟩ := handlePresence_eq (server.setContext ctx) ctx (.cursor msg)
      show (handlePresence ctx (.cursor msg) _).guard? socket = _
      rw [h]
      rfl
  | scroll msg =>
      obtain ⟨registry, h⟩ := handlePresence_eq (server.setContext ctx) ctx (.scroll msg)
      show (handlePresence ctx (.scroll msg) _).guard? socket = _
      rw [h]
      rfl
  | ack msg => rfl
  | audit msg => rfl

theorem handleRealtimeMessage_guard? (now : Int) (server : Server) {ctx : ConnectionContext}
    (live : server.Live ctx) (frame : RawFrame) (socket : SocketId) :
    (handleRealtimeMessage now ctx frame server).guard? socket =
      if socket = ctx.socket then some (afterGuard ctx frame).sequenceGuard
      else server.guard? socket := by
  obtain ⟨sequenceGuard, hg⟩ := afterGuard_cases ctx frame
  have same : (afterGuard ctx frame).socket = ctx.socket := by rw [hg]
  unfold handleRealtimeMessage
  dsimp only
  cases hj : judge ctx frame with
  | refused code detail =>
      have kept : (sendError now ctx code detail server).contexts = server.contexts := by
        rw [sendError]
        split <;> rfl
      dsimp only
      rw [guard?_congr kept, afterGuard_of_refused hj, guard?]
      split
      · next h => rw [h, live.1, Option.map_some]
      · rfl
  | unordered =>
      dsimp only
      rw [guard?_setContext, same]
  | accepted msg =>
      dsimp only
      rw [dispatch_guard?, guard?_setContext, same]

/-- The guard of a connection after a step; a connection's first guard is empty. -/
theorem step_guard? (cfg : Config) (server : Server) (stamped : Stamped) (socket : SocketId) :
    (server.step cfg stamped).guard? socket =
      match stamped.event with
      | .connect opened _ =>
        if socket = opened ∧ server.contexts opened = none then some {} else server.guard? socket
      | .message sender frame =>
        match server.liveContext sender with
        | none => server.guard? socket
        | some ctx =>
          if socket = sender then some (afterGuard ctx frame).sequenceGuard
          else server.guard? socket
      | _ => server.guard? socket := by
  rw [step]
  cases stamped.event with
  | connect opened sid =>
      dsimp only
      rw [Server.connect]
      cases hc : server.contexts opened with
      | some ctx => simp
      | none =>
          show (server.setContext (createConnectionContext opened sid stamped.time)).guard? socket = _
          rw [guard?_setContext]
          simp [createConnectionContext]
          rfl
  | message sender frame =>
      dsimp only
      rw [message]
      cases hl : server.liveContext sender with
      | none => rfl
      | some ctx =>
          obtain ⟨live, rfl⟩ := live_of_liveContext hl
          exact handleRealtimeMessage_guard? stamped.time server live frame socket
  | closing opened =>
      dsimp only
      rw [Server.closing]
      split <;> rfl
  | close opened =>
      dsimp only
      rw [Server.close]
      split
      · rfl
      · apply guard?_congr
        rw [handleDisconnect]
        split
        · rfl
        · rw [removeFromSession_contexts]
          split <;> rfl
  | tick => rfl
  | reap => exact guard?_congr (Reaper.sweep_contexts cfg stamped.time server) socket
  | reconcile =>
      exact guard?_congr (AuditReconciler.sweep_frame cfg stamped.time server).2.2.2.1 socket
  | beacon frame =>
      dsimp only
      rw [beacon]
      split <;> rfl

/-- No step brings a connection's guard back. -/
theorem guard?_step_le (cfg : Config) {server : Server} (stamped : Stamped) {socket : SocketId}
    {guard : SequenceGuard} (h : server.guard? socket = some guard) :
    ∃ later, (server.step cfg stamped).guard? socket = some later ∧
      ∀ seq, later.Newer seq → guard.Newer seq := by
  rw [step_guard?]
  have kept : ∃ later, server.guard? socket = some later ∧
      ∀ seq, later.Newer seq → guard.Newer seq := ⟨guard, h, fun _ newer => newer⟩
  split
  · next opened _ _ =>
      split
      · next fresh =>
          obtain ⟨rfl, hn⟩ := fresh
          rw [guard?, hn] at h
          cases h
      · exact kept
  · split
    · exact kept
    · next ctx hl =>
        split
        · next hs =>
            obtain ⟨live, hSocket⟩ := live_of_liveContext hl
            rw [guard?, hs, ← hSocket, live.1] at h
            obtain rfl := Option.some.inj h
            exact ⟨_, rfl, fun _ newer => newer_of_afterGuard newer⟩
        · exact kept
  · exact kept

/-- The guard of the connection an accepted frame came on has reached it. -/
theorem guard?_step_received (cfg : Config) {server : Server} {stamped : Stamped}
    {ctx : ConnectionContext} {msg : InboundMessage}
    (h : server.received stamped = some (ctx, msg)) :
    ∃ later, (server.step cfg stamped).guard? ctx.socket = some later ∧ ¬later.Newer msg.seq := by
  obtain ⟨socket, frame, he, hl, hj⟩ := received_eq_some h
  obtain ⟨_, hSocket⟩ := live_of_liveContext hl
  obtain ⟨_, _, _, newer⟩ := judge_accepted hj
  rw [step_guard?, he]
  dsimp only
  rw [hl]
  dsimp only
  rw [if_pos hSocket, afterGuard_of_accepted hj]
  exact ⟨_, rfl, SequenceGuard.not_newer_of_accept newer⟩

end Server

end Copresence
