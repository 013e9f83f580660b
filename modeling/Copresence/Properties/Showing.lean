import Copresence.Properties.Coalescing
import Copresence.Properties.Delivering
import Copresence.Properties.Resending

/-! A connected participant's view against the roster: at any time it trails
the roster by what is flagged only, and after a truthful tick by nothing. -/
namespace Copresence

open Collections

/-- What a view may have of a roster entry between two ticks. -/
def Shows (entry : Option Entry) (shown : Option SimulatedParticipant) : Prop :=
  Option.Rel (fun entry shown => Trails entry.dirty entry.participant shown) entry shown

/-- What a view that is up to date has of a roster entry. -/
def Entry.simulated (entry : Entry) : SimulatedParticipant := Copresence.simulated entry.participant

variable {shown : Option SimulatedParticipant}

theorem eq_none_of_shows (h : Shows none shown) : shown = none := by
  cases h
  rfl

/-- The reducer's slices and the roster's entries say the same. -/
theorem shows_entryOf_iff {session : Session} {pid : ParticipantId} :
    Shows (session.entryOf pid) shown ↔ (session.slice pid).Pending shown := by
  rw [Session.entryOf, Slice.Pending, Session.slice]
  cases session.participants.get? pid with
  | none =>
      constructor
      · intro h
        rw [eq_none_of_shows h]
        exact .none
      · intro h
        cases h
        exact .none
  | some participant =>
      constructor
      · intro h
        cases h with
        | some trails => exact .some trails
      · intro h
        cases h with
        | some trails => exact .some trails

theorem Session.WellFormed.sound {session : Session} (wf : session.WellFormed)
    (pid : ParticipantId) : (session.slice pid).Sound pid where
  keyed := wf.keyed pid
  absent := by
    intro absent
    rw [Option.eq_none_iff_forall_ne_some]
    intro flags hf
    obtain ⟨participant, hp, _⟩ := wf.dirty pid flags hf
    rw [show session.participants.get? pid = none from absent] at hp
    cases hp
  flagged := by
    intro participant hp field marked
    cases hd : session.dirty.get? pid with
    | none =>
        rw [Session.slice, hd] at marked
        cases field <;> cases marked
    | some flags =>
        rw [Session.slice, hd] at marked
        obtain ⟨found, hf, reports⟩ := wf.dirty pid flags hd
        cases hf.symm.trans hp
        obtain ⟨value, hv⟩ := reports.of_marked marked
        exact Option.isSome_of_eq_some hv

/-- A view that is up to date shows the entry, whatever is flagged. -/
theorem shows_simulated (entry : Option Entry) : Shows entry (entry.map Entry.simulated) := by
  cases entry with
  | none => exact .none
  | some entry =>
      refine .some ⟨rfl, ?_⟩
      intro field _
      cases field <;> exact ⟨rfl, rfl⟩

/-- An entry with nothing flagged is shown as it is. -/
theorem eq_simulated_of_clean {entry : Option Entry} (shows : Shows entry shown)
    (clean : ∀ found, entry = some found → found.dirty = {}) :
    shown = entry.map Entry.simulated := by
  cases shows with
  | none => rfl
  | @some entry participant trails =>
      have pending : Slice.Pending ⟨some entry.participant, none⟩ (some participant) := by
        rw [clean entry rfl] at trails
        exact .some trails
      exact pending.of_clean rfl

section Moves

variable {old : Entry}

/-- A repeated hello shows nothing new. -/
theorem shows_helloEntry (shows : Shows (some old) shown) (msg : HelloMessage) :
    Shows (some (helloEntry msg (some old))) shown := by
  cases shows with
  | some trails => exact .some ⟨trails.color, trails.same⟩

/-- A presence event changes what is shown where it flags only. -/
theorem shows_observe (shows : Shows (some old) shown) (event : SessionEvent) :
    Shows (some (event.observe old)) shown := by
  have colour : (event.observe old).participant.color = old.participant.color := by
    cases event with
    | cursor msg => rw [SessionEvent.observe, Entry.write]; split <;> rfl
    | scroll msg => rw [SessionEvent.observe, Entry.write]; split <;> rfl
    | hello msg => rfl
    | bye msg => rfl
  cases shows with
  | some trails =>
      refine .some ⟨trails.color.trans colour.symm, ?_⟩
      intro field unmarked
      obtain ⟨wasUnmarked, same⟩ := Action.observe_unmarked unmarked
      have before := trails.same field wasUnmarked
      have after : field.Same (simulated old.participant)
          (simulated (event.observe old).participant) := Slice.same_of_ofPresence same.symm
      cases field with
      | cursor => exact ⟨before.1.trans after.1, before.2.trans after.2⟩
      | scroll => exact ⟨before.1.trans after.1, before.2.trans after.2⟩

end Moves

/-- A patch entry that agrees with the presence shown changes nothing. -/
theorem patched_of_agrees {reported : ParticipantPatch} {participant : Participant}
    (agrees : reported.Agrees participant.presence) :
    SimulatedParticipant.patched reported (some (simulated participant)) =
      some (simulated participant) := by
  obtain ⟨pid, x, y, scrollX, scrollY⟩ := reported
  obtain ⟨_, color, ⟨cursor, _, scroll, _⟩, _⟩ := participant
  have cursorAgrees := agrees .cursor
  have scrollAgrees := agrees .scroll
  cases x <;> cases y <;> cases scrollX <;> cases scrollY <;> cases cursor <;> cases scroll <;>
    simp_all [ParticipantPatch.AgreesOn, PresenceField.ofPatch, PresenceField.ofPresence, both,
      simulated, SimulatedParticipant.patched, SimulatedParticipant.moveCursor,
      SimulatedParticipant.moveScroll]

/-- What says of everybody what is shown of them leaves a view as it is. -/
theorem foldl_applyPatch_agrees {roster : ParticipantId → Option Participant}
    {patches : List ParticipantPatch}
    (agree : ∀ reported ∈ patches, ∃ participant, roster reported.pid = some participant ∧
      reported.Agrees participant.presence)
    {participants : JsMap ParticipantId SimulatedParticipant}
    (upToDate : ∀ pid, participants.get? pid = (roster pid).map simulated) (pid : ParticipantId) :
    (patches.foldl applyPatch participants).get? pid = (roster pid).map simulated := by
  induction patches generalizing participants with
  | nil => exact upToDate pid
  | cons reported patches ih =>
      rw [List.foldl_cons]
      apply ih fun other ho => agree other (List.mem_cons_of_mem _ ho)
      intro other
      rw [applyPatch_get?]
      split
      · next own =>
          obtain ⟨participant, hp, agrees⟩ := agree reported List.mem_cons_self
          rw [own, upToDate, hp, Option.map_some, patched_of_agrees agrees]
      · exact upToDate other

namespace Server

variable {cfg : Config} {home : ParticipantId → SessionId} {server : Server} {stamped : Stamped}
  {sid : SessionId} {pid : ParticipantId}

/-- This view of a session trails its roster by what is flagged only, and has
no patch of a tick to come. -/
structure Follows (server : Server) (sid : SessionId) (view : ParticipantView) : Prop where
  shows : ∀ member, Shows (server.entryOf sid member) (view.participants.get? member)
  behind : ∀ last ∈ view.lastPatchSeq, last ≤ server.scheduler.seq

/-- This view has the roster of a session as it is. -/
def UpToDate (server : Server) (sid : SessionId) (view : ParticipantView) : Prop :=
  ∀ member, view.participants.get? member = (server.entryOf sid member).map Entry.simulated

theorem simulated_entryOf {session : Session} (hg : server.registry.get sid = some session)
    (member : ParticipantId) :
    (server.entryOf sid member).map Entry.simulated =
      (session.participants.get? member).map simulated := by
  rw [entryOf, SessionRegistry.entryOf_of_get hg, ← Session.entryOf_map_participant,
    Option.map_map]
  rfl

section Ticks

variable {view : ParticipantView} (follows : server.Follows sid view)

include follows

/-- A view that follows a roster in which nothing is flagged has all of it. -/
theorem Follows.upToDate_of_clean
    (clean : ∀ member entry, server.entryOf sid member = some entry → entry.dirty = {}) :
    server.UpToDate sid view :=
  fun member => eq_simulated_of_clean (follows.shows member) (clean member)

/-- The patch of the next tick is not dropped. -/
theorem Follows.deliver_patch {patch : PatchMessage}
    (numbered : patch.seq = server.scheduler.seq + 1) :
    (view.deliver (.patch patch)).participants =
      patch.patches.foldl applyPatch view.participants := by
  have fresh : view.Fresh patch.seq := by
    intro last hl
    have old := follows.behind last hl
    omega
  rw [ParticipantView.deliver, if_pos fresh]

/-- What a tick flushes brings a view up to date. -/
theorem Follows.upToDate_flushed {session : Session}
    (hg : server.registry.get sid = some session) (wf : session.WellFormed) {now : Int}
    {patch : PatchMessage} (flushed : toPatch session (server.scheduler.seq + 1) now = some patch)
    (numbered : patch.seq = server.scheduler.seq + 1) :
    server.UpToDate sid (view.deliver (.patch patch)) := by
  have pending : ∀ other, (session.slice other).Pending (view.participants.get? other) := by
    intro other
    rw [← shows_entryOf_iff, ← SessionRegistry.entryOf_of_get hg]
    exact follows.shows other
  intro member
  rw [follows.deliver_patch numbered, simulated_entryOf hg]
  exact patch_get? wf.sound pending flushed member

/-- What a tick repeats truthfully leaves a view that is up to date as it is. -/
theorem Follows.upToDate_repeated {session : Session}
    (hg : server.registry.get sid = some session) (upToDate : server.UpToDate sid view)
    {patch : PatchMessage} (numbered : patch.seq = server.scheduler.seq + 1)
    (agree : ∀ reported ∈ patch.patches, ∃ participant,
      server.participant? sid reported.pid = some participant ∧
        reported.Agrees participant.presence) :
    server.UpToDate sid (view.deliver (.patch patch)) := by
  intro member
  rw [follows.deliver_patch numbered, simulated_entryOf hg]
  apply foldl_applyPatch_agrees
  · intro reported hr
    obtain ⟨participant, hp, agrees⟩ := agree reported hr
    rw [participant?, SessionRegistry.participant?_of_get hg] at hp
    exact ⟨participant, hp, agrees⟩
  · intro other
    rw [← simulated_entryOf hg]
    exact upToDate other

/-- Flushed or repeated or not at all, the roster is shown as it is after a
truthful tick. -/
theorem Follows.tick (wf : server.WellFormed) (truthful : server.TruthfulIn stamped sid) :
    server.UpToDate sid ((Action.tick.tells server stamped.time sid pid).foldl
      ParticipantView.deliver view) := by
  rw [Action.tells]
  cases hg : server.registry.get sid with
  | none =>
      intro member
      have shows := follows.shows member
      rw [entryOf, SessionRegistry.entryOf_of_get_none hg] at shows ⊢
      exact eq_none_of_shows shows
  | some session =>
      obtain rfl := SessionRegistry.get_sid hg
      rw [Option.bind_some]
      cases flushed : toPatch session (server.scheduler.seq + 1) stamped.time with
      | some patch =>
          have due : TickScheduler.tickPatch server.scheduler.settling (server.scheduler.seq + 1)
              stamped.time session = some patch := by
            rw [TickScheduler.tickPatch, flushed]
          rw [due]
          exact follows.upToDate_flushed hg (wf _ session hg) flushed
            (TickScheduler.tickPatch_envelope due).2
      | none =>
          have nothing : ¬server.Unflushed session.sid := by
            rw [unflushed_iff hg, ← Session.toPatch_isSome_iff (wf _ session hg), flushed]
            exact Bool.false_ne_true
          have upToDate := follows.upToDate_of_clean (clean_of_not_unflushed nothing)
          cases due : TickScheduler.tickPatch server.scheduler.settling (server.scheduler.seq + 1)
            stamped.time session with
          | none => exact upToDate
          | some patch =>
              exact follows.upToDate_repeated hg upToDate
                (TickScheduler.tickPatch_envelope due).2 (truthful session hg patch due)

end Ticks

/-- A welcome seeds a view with the roster as it is after the hello. -/
theorem upToDate_welcome (wf : server.WellFormed) (ctx : ConnectionContext) (msg : HelloMessage)
    (now : Int) (view : ParticipantView) (member : ParticipantId) :
    (view.deliver (.welcome (toWelcome (server.helloSession now ctx msg) msg.pid 0
        now))).participants.get? member =
      (if member = msg.pid then some (helloEntry msg (server.entryOf ctx.sid member))
        else server.entryOf ctx.sid member).map Entry.simulated := by
  have welcomed := helloSession_wellFormed server now ctx msg wf
  rw [← helloSession_entryOf server now ctx msg wf]
  show ((toParticipantSnapshots (server.helloSession now ctx msg)).foldl upsert
    JsMap.empty).get? member = _
  rw [welcome_get? welcomed.sound, Session.entryOf, Option.map_map]
  rfl

/-- The others are shown a newcomer, and nothing new of anybody they have. -/
theorem shows_join {view : ParticipantView}
    (shows : ∀ member, Shows (server.entryOf sid member) (view.participants.get? member))
    (msg : HelloMessage) (now : Int) (member : ParticipantId) :
    Shows (if member = msg.pid then some (helloEntry msg (server.entryOf sid member))
        else server.entryOf sid member)
      ((((if server.InRoster sid msg.pid then []
        else [joinMessage sid (helloed msg none) now]).foldl ParticipantView.deliver
          view).participants).get? member) := by
  have before := shows member
  cases he : server.entryOf sid msg.pid with
  | some old =>
      have present : server.InRoster sid msg.pid := Option.isSome_of_eq_some he
      rw [if_pos present]
      split
      · next own =>
          rw [own, he] at before ⊢
          exact shows_helloEntry before msg
      · exact before
  | none =>
      have absent : ¬server.InRoster sid msg.pid := by
        rw [InRoster, he]
        exact Bool.false_ne_true
      rw [if_neg absent]
      show Shows _ ((upsert view.participants _).get? member)
      rw [upsert_get?]
      show Shows _ (if member = msg.pid then _ else _)
      split
      · next own =>
          rw [own, he] at before ⊢
          rw [eq_none_of_shows before]
          exact shows_simulated (some (helloEntry msg none))
      · exact before

/-- The others are no longer shown who left. -/
theorem shows_leave {view : ParticipantView}
    (shows : ∀ member, Shows (server.entryOf sid member) (view.participants.get? member))
    (other : ParticipantId) (now : Int) (member : ParticipantId) :
    Shows (if member = other then none else server.entryOf sid member)
      ((((if server.InRoster sid other then [leaveMessage sid other now] else []).foldl
        ParticipantView.deliver view).participants).get? member) := by
  have before := shows member
  by_cases there : server.InRoster sid other
  · rw [if_pos there]
    show Shows _ ((view.participants.delete other).get? member)
    rw [JsMap.get?_delete]
    split
    · exact .none
    · exact before
  · rw [if_neg there]
    split
    · next own =>
        rw [InRoster, Option.not_isSome_iff_eq_none] at there
        rw [own, there] at before
        rw [own]
        exact before
    · exact before

/-- A departure from a session is shown there and nowhere else. -/
theorem shows_departure {view : ParticipantView}
    (shows : ∀ member, Shows (server.entryOf sid member) (view.participants.get? member))
    (from_sid : SessionId) (other : ParticipantId) (now : Int) (member : ParticipantId) :
    Shows (if sid = from_sid ∧ member = other then none else server.entryOf sid member)
      ((((if sid = from_sid ∧ server.InRoster sid other then [leaveMessage sid other now]
        else []).foldl ParticipantView.deliver view).participants).get? member) := by
  by_cases own : sid = from_sid
  · simp only [own, true_and]
    rw [← own]
    exact shows_leave shows other now member
  · rw [if_neg fun h => own h.1, if_neg fun h => own h.1]
    exact shows member

theorem tells_patch {now : Int} {action : Action} {patch : PatchMessage}
    (h : .patch patch ∈ action.tells server now sid pid) :
    action = .tick ∧ patch.seq = server.scheduler.seq + 1 := by
  cases action with
  | hello ctx msg =>
      rw [Action.tells] at h
      split at h
      · cases h
      · split at h
        · simp at h
        · split at h
          · cases h
          · simp [joinMessage] at h
  | bye ctx other =>
      rw [Action.tells] at h
      split at h
      · simp [leaveMessage] at h
      · cases h
  | close ctx =>
      rw [Action.tells] at h
      split at h
      · cases h
      · split at h
        · simp [leaveMessage] at h
        · cases h
  | tick =>
      rw [Action.tells, Option.mem_toList, Option.map_eq_some_iff] at h
      obtain ⟨found, hFound, hp⟩ := h
      obtain ⟨session, _, due⟩ := Option.bind_eq_some_iff.mp hFound
      obtain rfl := OutboundMessage.patch.inj hp
      exact ⟨rfl, (TickScheduler.tickPatch_envelope due).2⟩
  | _ => cases h

/-- Nobody gets connected but by a hello of their own. -/
theorem connected_step (announcing : server.Announcing home) (noSweep : stamped.event ≠ .reap)
    (h : (server.step cfg stamped).Connected sid pid) :
    server.Connected sid pid ∨ (server.action stamped).IsHelloFor sid pid := by
  have effect := step_effect cfg server stamped
  have notReap : server.action stamped ≠ .reap := fun h => noSweep (action_eq_reap h)
  obtain ⟨connection, registered, hs, opened⟩ := h
  have moved := effect.registration notReap pid
  rw [show (server.step cfg stamped).hub.registration pid = some connection from registered]
    at moved
  have ready := effect.readyState connection.socket
  rw [isOpen, decide_eq_true_eq] at opened
  rw [opened] at ready
  have kept : server.hub.registration pid = some connection →
      server.readyState connection.socket = .open → server.Connected sid pid :=
    fun was wasOpen => ⟨connection, was, hs, decide_eq_true wasOpen⟩
  generalize server.action stamped = action at effect notReap moved ready ⊢
  cases action with
  | hello ctx msg =>
      rw [Action.onRegistration] at moved
      split at moved
      · next own =>
          have hSid : connection.sid = ctx.sid := by rw [Option.some.inj moved]
          exact Or.inr ⟨ctx, msg, rfl, hs.symm.trans hSid, own⟩
      · exact Or.inl (kept moved.symm ready.symm)
  | connect socket other =>
      have known := announcing.registered pid connection moved.symm
      have different : connection.socket ≠ socket := by
        intro same
        rw [same, Identified, identity?, effect.fresh] at known
        cases known
      rw [Action.onReadyState, if_neg different] at ready
      exact Or.inl (kept moved.symm ready.symm)
  | closing socket =>
      rw [Action.onReadyState] at ready
      split at ready
      · cases ready
      · exact Or.inl (kept moved.symm ready.symm)
  | bye ctx other =>
      rw [Action.onRegistration] at moved
      split at moved
      · cases moved
      · exact Or.inl (kept moved.symm ready.symm)
  | close ctx =>
      rw [Action.onRegistration] at moved
      rw [Action.onReadyState] at ready
      split at moved
      · cases moved
      · split at ready
        · cases ready
        · exact Or.inl (kept moved.symm ready.symm)
  | reap => exact absurd rfl notReap
  | _ => exact Or.inl (kept moved.symm ready.symm)

/-- A hello shows its own viewer the whole roster, and everybody else a newcomer. -/
theorem shows_hello {view : ParticipantView} (wf : server.WellFormed) {ctx : ConnectionContext}
    {msg : HelloMessage} (now : Int)
    (follows : ¬(sid = ctx.sid ∧ pid = msg.pid) → server.Follows sid view)
    (member : ParticipantId) :
    Shows ((Action.hello ctx msg).onEntry cfg.ttlMs now sid member (server.entryOf sid member))
      (((((Action.hello ctx msg).tells server now sid pid).foldl
        ParticipantView.deliver view).participants).get? member) := by
  rw [Action.onEntry, Action.tells]
  by_cases hs : sid = ctx.sid
  · subst hs
    simp only [true_and, ne_eq, not_true_eq_false, if_false]
    by_cases own : pid = msg.pid
    · rw [if_pos own, List.foldl_cons, List.foldl_nil, upToDate_welcome wf]
      exact shows_simulated _
    · rw [if_neg own]
      exact shows_join (follows fun h => own h.2).shows msg now member
  · rw [if_neg fun h => hs h.1, if_pos hs]
    exact (follows fun h => hs h.1).shows member

/-- A movement is shown with the next tick, and is no worse than pending before. -/
theorem shows_presence {view : ParticipantView} (follows : server.Follows sid view)
    (ctx : ConnectionContext) (event : SessionEvent) (now : Int) (member : ParticipantId) :
    Shows ((Action.presence ctx event).onEntry cfg.ttlMs now sid member
        (server.entryOf sid member)) (view.participants.get? member) := by
  have shows := follows.shows member
  rw [Action.onEntry]
  split
  · cases he : server.entryOf sid member with
    | none =>
        rw [he] at shows
        exact shows
    | some old =>
        rw [he] at shows
        exact shows_observe shows event
  · exact shows

/-- A close shows the departure of whoever was known on the socket. -/
theorem shows_close {view : ParticipantView} (follows : server.Follows sid view)
    (ctx : ConnectionContext) (now : Int) (member : ParticipantId) :
    Shows ((Action.close ctx).onEntry cfg.ttlMs now sid member (server.entryOf sid member))
      (((((Action.close ctx).tells server now sid pid).foldl
        ParticipantView.deliver view).participants).get? member) := by
  rw [Action.onEntry, Action.tells]
  cases hp : ctx.pid with
  | none =>
      rw [if_neg fun h => Option.some_ne_none _ h.2.symm]
      dsimp only
      rw [List.foldl_nil]
      exact follows.shows member
  | some other =>
      simp only [Option.some.injEq, eq_comm (a := other)]
      exact shows_departure follows.shows ctx.sid other now member

/-- What a participant is told keeps its view following the roster; its own
hello makes it so. -/
theorem Follows.step {view : ParticipantView} (wf : server.WellFormed)
    (noSweep : stamped.event ≠ .reap)
    (truthful : stamped.event = .tick → server.TruthfulIn stamped sid)
    (follows : ¬(server.action stamped).IsHelloFor sid pid → server.Follows sid view)
    (member : ParticipantId) :
    Shows ((server.step cfg stamped).entryOf sid member)
      (((((server.action stamped).tells server stamped.time sid pid).foldl
        ParticipantView.deliver view).participants).get? member) := by
  have notReap : server.action stamped ≠ .reap := fun h => noSweep (action_eq_reap h)
  have isTick : server.action stamped = .tick → stamped.event = .tick := action_eq_tick_iff.mp
  rw [(step_effect cfg server stamped).entryOf wf]
  generalize server.action stamped = action at notReap follows isTick ⊢
  have stayed : (∀ ctx msg, action = .hello ctx msg → ¬(sid = ctx.sid ∧ pid = msg.pid)) →
      server.Follows sid view := by
    intro notOwn
    apply follows
    rintro ⟨ctx, msg, ha, own⟩
    exact notOwn ctx msg ha own
  cases action with
  | hello ctx msg =>
      apply shows_hello wf stamped.time
      intro notOwn
      apply stayed
      rintro _ _ ⟨⟩
      exact notOwn
  | presence ctx event =>
      exact shows_presence (stayed fun _ _ h => by cases h) ctx event stamped.time member
  | bye ctx other =>
      rw [Action.onEntry, Action.tells]
      exact shows_departure (stayed fun _ _ h => by cases h).shows ctx.sid other stamped.time member
  | close ctx => exact shows_close (stayed fun _ _ h => by cases h) ctx stamped.time member
  | tick =>
      have upToDate : server.UpToDate sid ((Action.tick.tells server stamped.time sid pid).foldl
          ParticipantView.deliver view) :=
        (stayed fun _ _ h => by cases h).tick wf (truthful (isTick rfl))
      rw [upToDate member, Action.onEntry]
      have shown := shows_simulated
        ((server.entryOf sid member).map fun entry => { entry with dirty := {} })
      rw [Option.map_map] at shown
      exact shown
  | reap => exact absurd rfl notReap
  | _ => exact (stayed fun _ _ h => by cases h).shows member

end Server

end Copresence
