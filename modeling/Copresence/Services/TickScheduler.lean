import Copresence.Services.BroadcastHub
import Copresence.Services.Presenters
import Copresence.Services.SessionRegistry

/-! The tick: flush what is dirty in each session, or repeat the last flushed
content while its settle window is open. -/
namespace Copresence

open Collections

structure SettleEntry where
  patches : List ParticipantPatch
  settleUntil : Int
deriving DecidableEq, Repr

structure TickScheduler where
  seq : Int := 0
  settling : JsMap SessionId SettleEntry := JsMap.empty
deriving DecidableEq

namespace TickScheduler

/-- The content the settle window repeats, under a fresh sequence number. -/
def resendOf (sid : SessionId) (seq now : Int) (settle : SettleEntry) : PatchMessage :=
  { sid, seq, ts := now, patches := settle.patches }

/-- The patch this tick broadcasts to one session, if any. -/
def tickPatch (settling : JsMap SessionId SettleEntry) (seq now : Int) (session : Session) :
    Option PatchMessage :=
  match toPatch session seq now with
  | some patch => some patch
  | none =>
    match settling.get? session.sid with
    | none => none
    | some settle =>
      if now ≥ settle.settleUntil then none else some (resendOf session.sid seq now settle)

/-- A tick's patch names its session and the tick's number. -/
theorem tickPatch_envelope {settling : JsMap SessionId SettleEntry} {seq now : Int}
    {session : Session} {patch : PatchMessage}
    (h : tickPatch settling seq now session = some patch) :
    patch.sid = session.sid ∧ patch.seq = seq := by
  unfold tickPatch at h
  split at h
  · next fresh hp =>
      obtain ⟨hSid, hSeq, _⟩ := toPatch_envelope hp
      rw [← Option.some.inj h]
      exact ⟨hSid, hSeq⟩
  · split at h
    · cases h
    · split at h
      · cases h
      · rw [← Option.some.inj h]
        exact ⟨rfl, rfl⟩

/-- What the loop of `tick` carries from session to session. -/
structure TickState where
  registry : SessionRegistry
  settling : JsMap SessionId SettleEntry
  writes : List Write

/-- One turn of the loop: broadcast, then clear the flags and remember the
content if it was fresh, or close an expired window. -/
def tickSession (hub : BroadcastHub) (isOpen : SocketId → Bool) (seq now : Int)
    (state : TickState) (session : Session) : TickState :=
  match toPatch session seq now with
  | some patch =>
    { registry := state.registry.save (clearDirty session)
      settling := state.settling.set session.sid
        { patches := patch.patches, settleUntil := now + patchSettleWindowMs }
      writes := state.writes ++ hub.broadcastToSession isOpen session.sid (.patch patch) none }
  | none =>
    match state.settling.get? session.sid with
    | none => state
    | some settle =>
      if now ≥ settle.settleUntil then
        { state with settling := state.settling.delete session.sid }
      else
        { state with
          writes := state.writes ++
            hub.broadcastToSession isOpen session.sid
              (.patch (resendOf session.sid seq now settle)) none }

/-- One tick over every session of the registry. -/
def tick (scheduler : TickScheduler) (registry : SessionRegistry) (hub : BroadcastHub)
    (isOpen : SocketId → Bool) (now : Int) : TickScheduler × SessionRegistry × List Write :=
  let seq := scheduler.seq + 1
  let final := registry.all.foldl (tickSession hub isOpen seq now)
    { registry, settling := scheduler.settling, writes := [] }
  ({ seq, settling := final.settling }, final.registry, final.writes)

/-- The stored session after its turn: flushed if it had anything dirty. -/
def flushed (seq now : Int) (session : Session) (stored : Option Session) : Option Session :=
  if (toPatch session seq now).isSome then some (clearDirty session) else stored

/-- The settle entry after the session's turn. -/
def settled (seq now : Int) (session : Session) (stored : Option SettleEntry) :
    Option SettleEntry :=
  match toPatch session seq now with
  | some patch => some { patches := patch.patches, settleUntil := now + patchSettleWindowMs }
  | none => stored.filter fun settle => now < settle.settleUntil

/-- The broadcast of one session's turn. -/
def tickWrites (hub : BroadcastHub) (isOpen : SocketId → Bool)
    (settling : JsMap SessionId SettleEntry) (seq now : Int) (session : Session) : List Write :=
  match tickPatch settling seq now session with
  | none => []
  | some patch => hub.broadcastToSession isOpen session.sid (.patch patch) none

section Turn

variable (hub : BroadcastHub) (isOpen : SocketId → Bool) (seq now : Int) (state : TickState)
  (session : Session)

/-- One turn of the tick flushes its own session only. -/
theorem tickSession_get (sid : SessionId) :
    (tickSession hub isOpen seq now state session).registry.get sid =
      if sid = session.sid then flushed seq now session (state.registry.get sid)
      else state.registry.get sid := by
  unfold tickSession flushed
  cases toPatch session seq now with
  | some patch =>
      dsimp only
      rw [SessionRegistry.get_save, clearDirty_sid]
      rfl
  | none =>
      dsimp only
      cases state.settling.get? session.sid with
      | none => simp
      | some settle =>
          dsimp only
          split <;> simp

/-- One turn of the tick writes its own session's settle entry only. -/
theorem tickSession_settling (sid : SessionId) :
    (tickSession hub isOpen seq now state session).settling.get? sid =
      if sid = session.sid then settled seq now session (state.settling.get? sid)
      else state.settling.get? sid := by
  unfold tickSession settled
  cases toPatch session seq now with
  | some patch => exact JsMap.get?_set _ _ _ _
  | none =>
      dsimp only
      cases hs : state.settling.get? session.sid with
      | none =>
          dsimp only
          split
          · next he => rw [he, hs]; rfl
          · rfl
      | some settle =>
          dsimp only
          split
          · next hexp =>
              rw [JsMap.get?_delete]
              split
              · next he =>
                  rw [he, hs, Option.filter_some, if_neg (by simpa using hexp)]
              · rfl
          · next hexp =>
              split
              · next he =>
                  rw [he, hs, Option.filter_some, if_pos (by simpa using hexp)]
              · rfl

theorem tickSession_writes :
    (tickSession hub isOpen seq now state session).writes =
      state.writes ++ tickWrites hub isOpen state.settling seq now session := by
  unfold tickSession tickWrites tickPatch
  cases toPatch session seq now with
  | some patch => rfl
  | none =>
      dsimp only
      cases state.settling.get? session.sid with
      | none => simp
      | some settle =>
          dsimp only
          split <;> simp

end Turn

/-- Another session's turn does not change what this one will broadcast. -/
theorem tickWrites_congr {hub : BroadcastHub} {isOpen : SocketId → Bool}
    {first second : JsMap SessionId SettleEntry} {seq now : Int} {session : Session}
    (h : first.get? session.sid = second.get? session.sid) :
    tickWrites hub isOpen first seq now session = tickWrites hub isOpen second seq now session := by
  unfold tickWrites tickPatch
  rw [h]

/-- The tick writes session by session, each by the settle entry it had. -/
theorem foldl_tickSession_writes (hub : BroadcastHub) (isOpen : SocketId → Bool) (seq now : Int)
    (sessions : List Session) (nodup : (sessions.map Session.sid).Nodup) (state : TickState) :
    (sessions.foldl (tickSession hub isOpen seq now) state).writes =
      state.writes ++ sessions.flatMap (tickWrites hub isOpen state.settling seq now) := by
  induction sessions generalizing state with
  | nil => simp
  | cons session sessions ih =>
      rw [List.map_cons, List.nodup_cons] at nodup
      rw [List.foldl_cons, ih nodup.2, tickSession_writes, List.flatMap_cons, List.append_assoc]
      congr 2
      apply List.flatMap_congr
      intro other hm
      apply tickWrites_congr
      have hne : other.sid ≠ session.sid := fun he => nodup.1 (he ▸ List.mem_map_of_mem hm)
      rw [tickSession_settling, if_neg hne]

section Tick

variable (scheduler : TickScheduler) (registry : SessionRegistry) (hub : BroadcastHub)
  (isOpen : SocketId → Bool) (now : Int)

/-- Ticking flushes each session that had something dirty. -/
theorem tick_get (sid : SessionId) :
    (scheduler.tick registry hub isOpen now).2.1.get sid =
      (registry.get sid).bind fun session =>
        flushed (scheduler.seq + 1) now session (some session) := by
  obtain ⟨inside, outside⟩ := foldl_own_key
    (fun state : TickState => state.registry.get)
    (tickSession_get hub isOpen (scheduler.seq + 1) now) registry.all_sids_nodup
    { registry, settling := scheduler.settling, writes := [] }
  cases hg : registry.get sid with
  | none => exact (outside sid (SessionRegistry.not_mem_sids_of_get_none hg)).trans hg
  | some session =>
      have hsid := SessionRegistry.get_sid hg
      have hs := inside session (SessionRegistry.mem_all_iff.mpr (by rw [hsid, hg]))
      dsimp only at hs
      rw [hsid, hg] at hs
      exact hs

/-- After a tick the settle entry of each session is the one it flushed or had. -/
theorem tick_settling (sid : SessionId) :
    (scheduler.tick registry hub isOpen now).1.settling.get? sid =
      match registry.get sid with
      | none => scheduler.settling.get? sid
      | some session =>
        settled (scheduler.seq + 1) now session (scheduler.settling.get? sid) := by
  obtain ⟨inside, outside⟩ := foldl_own_key
    (fun state : TickState => state.settling.get?)
    (tickSession_settling hub isOpen (scheduler.seq + 1) now) registry.all_sids_nodup
    { registry, settling := scheduler.settling, writes := [] }
  cases hg : registry.get sid with
  | none => exact outside sid (SessionRegistry.not_mem_sids_of_get_none hg)
  | some session =>
      have hsid := SessionRegistry.get_sid hg
      have hs := inside session (SessionRegistry.mem_all_iff.mpr (by rw [hsid, hg]))
      dsimp only at hs
      rw [hsid] at hs
      exact hs

/-- The writes of a tick, session by session in the registry's order. -/
theorem tick_writes :
    (scheduler.tick registry hub isOpen now).2.2 =
      registry.all.flatMap
        (tickWrites hub isOpen scheduler.settling (scheduler.seq + 1) now) :=
  foldl_tickSession_writes hub isOpen _ now registry.all registry.all_sids_nodup _

/-- A tick keeps every roster entry and leaves nothing flagged. -/
theorem tick_entryOf (sid : SessionId) (pid : ParticipantId) :
    (scheduler.tick registry hub isOpen now).2.1.entryOf sid pid =
      (registry.entryOf sid pid).map fun entry => { entry with dirty := {} } := by
  rw [SessionRegistry.entryOf, tick_get]
  cases hg : registry.get sid with
  | none => simp [SessionRegistry.entryOf, hg]
  | some session =>
      rw [Option.bind_some, flushed, SessionRegistry.entryOf_of_get hg]
      split
      · exact clearDirty_entryOf session pid
      · next hClean =>
          have clean := toPatch_eq_none_iff.mp (Option.not_isSome_iff_eq_none.mp hClean) pid
          cases hp : session.participants.get? pid with
          | none => simp [Session.entryOf, hp]
          | some participant =>
              have hd : session.dirty.get? pid = none := by
                rw [hp] at clean
                simpa using clean
              rw [Option.bind_some, Session.entryOf_of_get hp]
              simp [Session.dirtyOf, hd]

/-- A tick leaves a registry that is well formed. -/
theorem tick_wellFormed (wf : registry.WellFormed) :
    (scheduler.tick registry hub isOpen now).2.1.WellFormed := by
  intro sid session h
  rw [tick_get] at h
  obtain ⟨old, hg, hs⟩ := Option.bind_eq_some_iff.mp h
  unfold flushed at hs
  split at hs
  · exact Option.some.inj hs ▸ (wf sid old hg).clearDirty
  · exact Option.some.inj hs ▸ wf sid old hg

end Tick

end TickScheduler

end Copresence
