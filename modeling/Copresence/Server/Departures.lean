import Copresence.Server.History
import Copresence.Services.Flushes

/-! Who has left a session since its last flush, and what the settle window
remembers of everybody. -/
namespace Copresence

open Collections

namespace Server

/-- Some member of the session has a flag set. -/
def Unflushed (server : Server) (sid : SessionId) : Prop :=
  ∃ pid entry, server.entryOf sid pid = some entry ∧ entry.dirty ≠ {}

theorem unflushed_iff {server : Server} {sid : SessionId} {session : Session}
    (h : server.registry.get sid = some session) :
    server.Unflushed sid ↔ session.Unflushed := by
  simp only [Unflushed, Session.Unflushed, Server.entryOf, SessionRegistry.entryOf_of_get h]

theorem clean_of_not_unflushed {server : Server} {sid : SessionId}
    (nothing : ¬ server.Unflushed sid) (pid : ParticipantId) (entry : Entry)
    (he : server.entryOf sid pid = some entry) : entry.dirty = {} :=
  not_not.mp fun dirty => nothing ⟨pid, entry, he, dirty⟩

theorem unmarked_of_not_unflushed {server : Server} {sid : SessionId}
    (nothing : ¬ server.Unflushed sid) (pid : ParticipantId) (entry : Entry)
    (he : server.entryOf sid pid = some entry) (field : PresenceField) :
    field.marked entry.dirty = false :=
  PresenceDirty.eq_empty_iff.mp (clean_of_not_unflushed nothing pid entry he) field

end Server

namespace Action

variable {ttlMs now : Int} {sid : SessionId} {pid : ParticipantId} {action : Action}

/-- Whoever is new to a roster has shown nothing yet. -/
theorem onEntry_newcomer {entry : Entry}
    (h : action.onEntry ttlMs now sid pid none = some entry) :
    entry.participant.presence = emptyPresence := by
  cases action with
  | hello ctx msg =>
      rw [onEntry] at h
      split at h
      · rw [← Option.some.inj h]
        rfl
      · cases h
  | presence ctx event =>
      rw [onEntry] at h
      split at h <;> cases h
  | bye ctx other =>
      rw [onEntry] at h
      split at h <;> cases h
  | close ctx =>
      rw [onEntry] at h
      split at h <;> cases h
  | _ => cases h

/-- Only a hello puts anybody on a roster. -/
theorem onEntry_absent (notHello : ¬ action.IsHelloFor sid pid) :
    action.onEntry ttlMs now sid pid none = none := by
  cases action with
  | hello ctx msg =>
      rw [onEntry, if_neg]
      exact fun h => notHello ⟨ctx, msg, rfl, h⟩
  | presence ctx event =>
      rw [onEntry]
      split <;> rfl
  | bye ctx other =>
      rw [onEntry]
      split <;> rfl
  | close ctx =>
      rw [onEntry]
      split <;> rfl
  | _ => rfl

/-- The actions that take somebody off a roster. -/
def Removes : Action → Prop
  | bye _ _ => True
  | close _ => True
  | reap => True
  | _ => False

instance : DecidablePred Removes
  | bye _ _ | close _ | reap => inferInstanceAs (Decidable True)
  | idle | connect _ _ | closing _ | hello _ _ | presence _ _ | tick => inferInstanceAs (Decidable False)

theorem onEntry_stays (stays : ¬ action.Removes) (old : Entry) :
    (action.onEntry ttlMs now sid pid (some old)).isSome := by
  cases action with
  | hello ctx msg =>
      rw [onEntry]
      split <;> rfl
  | presence ctx event =>
      rw [onEntry]
      split <;> rfl
  | bye ctx other => exact absurd trivial stays
  | close ctx => exact absurd trivial stays
  | reap => exact absurd trivial stays
  | _ => rfl

/-- A presence event changes only what it flags. -/
theorem observe_unmarked {event : SessionEvent} {entry : Entry} {field : PresenceField}
    (unmarked : field.marked (event.observe entry).dirty = false) :
    field.marked entry.dirty = false ∧
      field.ofPresence (event.observe entry).participant.presence =
        field.ofPresence entry.participant.presence := by
  have written : ∀ presence fields,
      (field.marked fields = false →
        field.ofPresence presence = field.ofPresence entry.participant.presence) →
      field.marked (entry.write presence fields).dirty = false →
      field.marked entry.dirty = false ∧
        field.ofPresence (entry.write presence fields).participant.presence =
          field.ofPresence entry.participant.presence := by
    intro presence fields keeps h
    unfold Entry.write at h ⊢
    split
    · next same =>
        rw [if_pos same] at h
        exact ⟨h, rfl⟩
    · next changed =>
        rw [if_neg changed] at h
        have both_unmarked : field.marked entry.dirty = false ∧ field.marked fields = false := by
          cases field <;> exact Bool.or_eq_false_iff.mp h
        exact ⟨both_unmarked.1, keeps both_unmarked.2⟩
  cases event with
  | cursor msg =>
      exact written _ PresenceField.cursor.flag
        (fun h => PresenceField.ofPresence_write_of_unmarked h _ (msg.x, msg.y) msg.seq) unmarked
  | scroll msg =>
      exact written _ PresenceField.scroll.flag
        (fun h => PresenceField.ofPresence_write_of_unmarked h _ (msg.scrollX, msg.scrollY) msg.seq)
        unmarked
  | hello msg => exact ⟨unmarked, rfl⟩
  | bye msg => exact ⟨unmarked, rfl⟩

/-- A field that is not flagged after an action other than a tick was not
flagged before it and holds what it held. -/
theorem onEntry_unmarked (noTick : action ≠ .tick) {old new : Entry}
    (h : action.onEntry ttlMs now sid pid (some old) = some new) {field : PresenceField}
    (unmarked : field.marked new.dirty = false) :
    field.marked old.dirty = false ∧
      field.ofPresence new.participant.presence = field.ofPresence old.participant.presence := by
  have kept : old = new → field.marked old.dirty = false ∧
      field.ofPresence new.participant.presence =
        field.ofPresence old.participant.presence := by
    intro same
    rw [same]
    exact ⟨unmarked, rfl⟩
  cases action with
  | hello ctx msg =>
      rw [onEntry] at h
      split at h
      · rw [← Option.some.inj h] at unmarked ⊢
        exact ⟨unmarked, rfl⟩
      · exact kept (Option.some.inj h)
  | presence ctx event =>
      rw [onEntry] at h
      split at h
      · rw [← Option.some.inj h] at unmarked ⊢
        exact observe_unmarked unmarked
      · exact kept (Option.some.inj h)
  | bye ctx other =>
      rw [onEntry] at h
      split at h
      · cases h
      · exact kept (Option.some.inj h)
  | close ctx =>
      rw [onEntry] at h
      split at h
      · cases h
      · exact kept (Option.some.inj h)
  | tick => exact absurd rfl noTick
  | reap =>
      rw [onEntry] at h
      exact kept (Option.some.inj (Option.filter_eq_some_iff.mp h).1)
  | _ => exact kept (Option.some.inj h)

end Action

/-- A server and, for each session, those who left it since its last flush. -/
structure Tracked where
  server : Server
  left : SessionId → ParticipantId → Prop

namespace Tracked

def initial : Tracked := { server := Server.initial, left := fun _ _ => False }

def step (cfg : Config) (tracked : Tracked) (stamped : Stamped) : Tracked where
  server := tracked.server.step cfg stamped
  left sid pid :=
    ¬ (stamped.event = .tick ∧ tracked.server.Unflushed sid) ∧
      (tracked.left sid pid ∨
        tracked.server.InRoster sid pid ∧ ¬ (tracked.server.step cfg stamped).InRoster sid pid)

/-- What the settle window remembers of a participant who has not left since is
still so unless flagged again; who left and came back shows nothing unflagged. -/
structure Remembers (tracked : Tracked) (sid : SessionId) (reported : ParticipantPatch) :
    Prop where
  carries : reported.Carries
  stayed : ¬ tracked.left sid reported.pid →
    ∃ entry, tracked.server.entryOf sid reported.pid = some entry ∧
      ∀ field : PresenceField, field.marked entry.dirty = false →
        reported.AgreesOn entry.participant.presence field
  back : tracked.left sid reported.pid → ∀ entry,
    tracked.server.entryOf sid reported.pid = some entry →
      ∀ field : PresenceField, field.marked entry.dirty = false →
        field.ofPresence entry.participant.presence = none

def Remembering (tracked : Tracked) : Prop :=
  ∀ sid settle, tracked.server.scheduler.settling.get? sid = some settle →
    ∀ reported ∈ settle.patches, tracked.Remembers sid reported

variable {cfg : Config} {tracked : Tracked} {stamped : Stamped}

/-- Between ticks memories stay true. -/
theorem Remembers.step_other (noTick : stamped.event ≠ .tick) (wf : tracked.server.WellFormed)
    {sid : SessionId} {reported : ParticipantPatch} (remembers : tracked.Remembers sid reported) :
    (tracked.step cfg stamped).Remembers sid reported := by
  have notTick : tracked.server.action stamped ≠ .tick :=
    fun h => noTick (Server.action_eq_tick_iff.mp h)
  have moved := (Server.step_effect cfg tracked.server stamped).entryOf wf sid reported.pid
  have left_iff : (tracked.step cfg stamped).left sid reported.pid ↔
      tracked.left sid reported.pid ∨ tracked.server.InRoster sid reported.pid ∧
        ¬ (tracked.server.step cfg stamped).InRoster sid reported.pid := by
    show ¬ _ ∧ _ ↔ _
    simp only [noTick, false_and, not_false_iff, true_and]
  refine ⟨remembers.carries, ?_, ?_⟩
  · intro stays
    rw [left_iff, not_or, not_and, not_not] at stays
    obtain ⟨old, hOld, agrees⟩ := remembers.stayed stays.1
    obtain ⟨new, hNew⟩ := Option.isSome_iff_exists.mp
      (stays.2 (Option.isSome_of_eq_some hOld))
    refine ⟨new, hNew, fun field unmarked value hv => ?_⟩
    rw [show (tracked.server.step cfg stamped).entryOf sid reported.pid = _ from moved,
      hOld] at hNew
    obtain ⟨wasUnmarked, same⟩ := Action.onEntry_unmarked notTick hNew unmarked
    rw [same]
    exact agrees field wasUnmarked value hv
  · intro gone new hNew field unmarked
    rw [left_iff] at gone
    have hNew' := hNew
    rw [show (tracked.step cfg stamped).server.entryOf sid reported.pid = _ from moved] at hNew'
    cases hOld : tracked.server.entryOf sid reported.pid with
    | none =>
        rw [hOld] at hNew'
        rw [Action.onEntry_newcomer hNew', PresenceField.ofPresence_empty]
    | some old =>
        rw [hOld] at hNew'
        obtain ⟨wasUnmarked, same⟩ := Action.onEntry_unmarked notTick hNew' unmarked
        rw [same]
        refine remembers.back (gone.resolve_right fun h => h.2 ?_) old hOld field wasUnmarked
        exact Option.isSome_of_eq_some hNew

theorem entryOf_tick (isTick : stamped.event = .tick) (sid : SessionId) (pid : ParticipantId) :
    (tracked.step cfg stamped).server.entryOf sid pid =
      (tracked.server.entryOf sid pid).map fun entry => { entry with dirty := {} } := by
  show (tracked.server.step cfg stamped).entryOf sid pid = _
  rw [Server.step_of_tick cfg (Server.action_eq_tick_iff.mpr isTick)]
  exact TickScheduler.tick_entryOf _ _ _ _ _ sid pid

/-- Nobody leaves at a tick. -/
theorem left_tick_iff (isTick : stamped.event = .tick) {sid : SessionId} {pid : ParticipantId} :
    (tracked.step cfg stamped).left sid pid ↔
      ¬ tracked.server.Unflushed sid ∧ tracked.left sid pid := by
  have stays : tracked.server.InRoster sid pid →
      (tracked.server.step cfg stamped).InRoster sid pid := by
    intro h
    show ((tracked.step cfg stamped).server.entryOf sid pid).isSome
    rw [entryOf_tick isTick, Option.isSome_map]
    exact h
  show ¬ _ ∧ _ ↔ _
  constructor
  · intro ⟨kept, gone⟩
    exact ⟨fun h => kept ⟨isTick, h⟩, gone.resolve_right fun h => h.2 (stays h.1)⟩
  · intro ⟨kept, gone⟩
    exact ⟨fun h => kept h.2, Or.inl gone⟩

/-- A session that has nothing to flush keeps its memories as they are. -/
theorem Remembers.step_clean (isTick : stamped.event = .tick) {sid : SessionId}
    (nothing : ¬ tracked.server.Unflushed sid) {reported : ParticipantPatch}
    (remembers : tracked.Remembers sid reported) :
    (tracked.step cfg stamped).Remembers sid reported := by
  have clean := Server.unmarked_of_not_unflushed nothing reported.pid
  refine ⟨remembers.carries, ?_, ?_⟩
  · intro stays
    rw [left_tick_iff isTick, not_and] at stays
    obtain ⟨entry, he, agrees⟩ := remembers.stayed (stays nothing)
    exact ⟨{ entry with dirty := {} }, by rw [entryOf_tick isTick, he]; rfl,
      fun field _ => agrees field (clean entry he field)⟩
  · intro gone new hNew field _
    rw [left_tick_iff isTick] at gone
    rw [entryOf_tick isTick] at hNew
    obtain ⟨entry, he, rfl⟩ := Option.map_eq_some_iff.mp hNew
    exact remembers.back gone.2 entry he field (clean entry he field)

/-- What a flush reports is remembered. -/
theorem remembers_flushed (isTick : stamped.event = .tick) (wf : tracked.server.WellFormed)
    {sid : SessionId} {session : Session} (hg : tracked.server.registry.get sid = some session)
    {seq now : Int} {patch : PatchMessage} (fresh : toPatch session seq now = some patch)
    {reported : ParticipantPatch} (hr : reported ∈ patch.patches) :
    (tracked.step cfg stamped).Remembers sid reported := by
  have wfSession := wf sid session hg
  obtain ⟨entry, he, dirty, hReported⟩ := (Session.mem_toPatch_iff wfSession fresh).mp hr
  have present : tracked.server.entryOf sid reported.pid = some entry :=
    (SessionRegistry.entryOf_of_get hg _).trans he
  have unflushed : tracked.server.Unflushed sid := ⟨_, entry, present, dirty⟩
  refine ⟨?_, ?_, ?_⟩
  · rw [hReported]
    exact (Session.entry_reports wfSession he dirty).carries _
  · intro _
    refine ⟨{ entry with dirty := {} }, by rw [entryOf_tick isTick, present]; rfl,
      fun field _ => ?_⟩
    rw [hReported]
    exact toParticipantPatch_agrees _ _ _ field
  · intro gone
    rw [left_tick_iff isTick] at gone
    exact absurd unflushed gone.1

theorem Remembering.step (remembering : tracked.Remembering) (wf : tracked.server.WellFormed) :
    (tracked.step cfg stamped).Remembering := by
  intro sid settle hs reported hr
  by_cases isTick : stamped.event = .tick
  · have ticked : (tracked.step cfg stamped).server = tracked.server.tick stamped.time :=
      Server.step_of_tick cfg (Server.action_eq_tick_iff.mpr isTick)
    have hs' := hs
    rw [ticked,
      show (tracked.server.tick stamped.time).scheduler.settling.get? sid = _ from
        TickScheduler.tick_settling _ _ _ _ _ sid] at hs'
    cases hg : tracked.server.registry.get sid with
    | none =>
        rw [hg] at hs'
        have nothing : ¬ tracked.server.Unflushed sid := by
          rintro ⟨pid, entry, he, -⟩
          rw [Server.entryOf, SessionRegistry.entryOf_of_get_none hg] at he
          cases he
        exact (remembering sid settle hs' reported hr).step_clean isTick nothing
    | some session =>
        rw [hg] at hs'
        dsimp only at hs'
        unfold TickScheduler.settled at hs'
        cases fresh : toPatch session (tracked.server.scheduler.seq + 1) stamped.time with
        | some patch =>
            rw [fresh] at hs'
            rw [← Option.some.inj hs'] at hr
            exact remembers_flushed isTick wf hg fresh hr
        | none =>
            rw [fresh] at hs'
            have nothing : ¬ tracked.server.Unflushed sid := by
              rw [Server.unflushed_iff hg, ← Session.toPatch_isSome_iff (wf sid session hg), fresh]
              exact Bool.false_ne_true
            exact (remembering sid settle (Option.filter_eq_some_iff.mp hs').1 reported
              hr).step_clean isTick nothing
  · have same := (Server.step_effect cfg tracked.server stamped).scheduler
      fun h => isTick (Server.action_eq_tick_iff.mp h)
    rw [show (tracked.step cfg stamped).server.scheduler = _ from same] at hs
    exact (remembering sid settle hs reported hr).step_other isTick wf

theorem initial_remembering : initial.Remembering := by
  intro sid settle h
  cases h

def run (cfg : Config) : Tracked → List Stamped → Tracked := Transition.run (step cfg)

theorem run_server (cfg : Config) (tracked : Tracked) (events : List Stamped) :
    (run cfg tracked events).server = tracked.server.run cfg events :=
  Transition.run_map (f := Tracked.server) (fun _ _ => rfl) tracked events

theorem run_remembering (cfg : Config) (events : List Stamped) :
    (run cfg initial events).Remembering := by
  have reached := Transition.invariant_run
    (P := fun tracked : Tracked => tracked.server.WellFormed ∧ tracked.Remembering)
    (fun _ stamped inv => ⟨Server.step_wellFormed cfg inv.1 stamped, inv.2.step inv.1⟩)
    ⟨Server.initial_wellFormed, initial_remembering⟩ events
  exact reached.2

/-- Where nobody is taken off a roster, nobody has left. -/
theorem not_left_run (cfg : Config) (events : List Stamped)
    (stays : Transition.Along (Server.step cfg)
      (fun server stamped => ¬ (server.action stamped).Removes) Server.initial events)
    (sid : SessionId) (pid : ParticipantId) : ¬ (run cfg initial events).left sid pid := by
  have along : Transition.Along (step cfg)
      (fun tracked stamped => ¬ (tracked.server.action stamped).Removes) initial events ↔
        Transition.Along (Server.step cfg)
          (fun server stamped => ¬ (server.action stamped).Removes) Server.initial events :=
    Transition.along_map (f := Tracked.server)
      (C := fun server stamped => ¬ (server.action stamped).Removes) fun _ _ => rfl
  have reached := Transition.invariant_run_along
    (P := fun tracked : Tracked => tracked.server.WellFormed ∧ ¬ tracked.left sid pid)
    ?_ ⟨Server.initial_wellFormed, id⟩ (along.mpr stays)
  · exact reached.2
  · intro tracked stamped still ⟨wf, present⟩
    refine ⟨Server.step_wellFormed cfg wf stamped, fun gone => ?_⟩
    rcases gone.2 with h | ⟨was, isNot⟩
    · exact present h
    · obtain ⟨entry, he⟩ := Option.isSome_iff_exists.mp was
      apply isNot
      show ((tracked.server.step cfg stamped).entryOf sid pid).isSome
      rw [(Server.step_effect cfg tracked.server stamped).entryOf wf, he]
      exact Action.onEntry_stays still entry

end Tracked

end Copresence
