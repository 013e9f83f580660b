import Copresence.Properties.Showing

/-! What the convergence report says after a tick of who is connected and of
whether they see the same. -/
namespace Copresence

open Collections

variable (numberText : ℚ → String)

namespace Server

/-- The report of a session names those connected to it and nobody else. -/
def ReportsConnected (server : Server) (sid : SessionId) : Prop :=
  ∀ name, name ∈ (server.convergence.snapshot numberText sid).hashes.keys ↔
    ∃ pid, pid.value = name ∧ server.Connected sid pid

/-- The report of a session is true, and of those connected to it. -/
structure ReportsConverged (server : Server) (sid : SessionId) : Prop where
  converged : (server.convergence.snapshot numberText sid).converged = true
  connected : server.ReportsConnected numberText sid

end Server

/-- A tracked server, who was ever connected to each session, and the sessions
in which somebody who is connected was told, by a tick that repeats it, of a
position of somebody who had left. -/
structure Visited where
  tracked : Tracked
  came : SessionId → ParticipantId → Prop
  haunted : SessionId → Prop

namespace Visited

def initial : Visited :=
  { tracked := Tracked.initial, came := fun _ _ => False, haunted := fun _ => False }

def step (cfg : Config) (visited : Visited) (stamped : Stamped) : Visited where
  tracked := visited.tracked.step cfg stamped
  came sid pid := visited.came sid pid ∨ (visited.tracked.server.step cfg stamped).Connected sid pid
  haunted sid :=
    (visited.haunted sid ∨ visited.tracked.ResendsDepartedIn stamped sid) ∧
      ∃ pid, (visited.tracked.server.step cfg stamped).Connected sid pid ∧
        ¬(visited.tracked.server.action stamped).IsHelloFor sid pid

def run (cfg : Config) : Visited → List Stamped → Visited := Transition.run (step cfg)

/-- Everybody who ever came is still there, but for whoever is named like the
one property an object literal does not take. -/
def AllThere (visited : Visited) : Prop :=
  ∀ sid pid, visited.came sid pid →
    (visited.tracked.server.Connected sid pid ↔ pid.value ≠ "__proto__")

/-- Nobody says hello in a haunted session with others in it. -/
def GreetsUnhaunted (visited : Visited) (stamped : Stamped) : Prop :=
  ∀ sid pid, (visited.tracked.server.action stamped).IsHelloFor sid pid → visited.haunted sid →
    ∀ other, visited.tracked.server.Connected sid other → other = pid

/-- What holds of the tracker's views and of who has one. -/
structure Tracking (home : ParticipantId → SessionId) (visited : Visited) : Prop where
  announcing : visited.tracked.server.Announcing home
  remembering : visited.tracked.Remembering
  held : ∀ sid pid, (visited.tracked.server.convergence.held sid pid).isSome ↔
    visited.came sid pid
  present : ∀ sid pid, visited.tracked.server.Connected sid pid → visited.came sid pid
  behind : ∀ sid pid, ∀ last ∈ (visited.tracked.server.convergence.view sid pid).lastPatchSeq,
    last ≤ visited.tracked.server.scheduler.seq

variable {cfg : Config} {home : ParticipantId → SessionId} {visited : Visited}
  {stamped : Stamped}

theorem initial_tracking (home : ParticipantId → SessionId) : initial.Tracking home where
  announcing := Server.initial_announcing home
  remembering := Tracked.initial_remembering
  held := by
    intro sid pid
    exact iff_of_false Bool.false_ne_true id
  present := by
    rintro sid pid ⟨connection, registered, _⟩
    cases registered
  behind := by
    intro sid pid last hl
    cases hl

/-- Patches are numbered as the ticks that send them. -/
theorem behind_foldl {seq : Int} {messages : List OutboundMessage}
    (numbered : ∀ patch : PatchMessage, .patch patch ∈ messages → patch.seq ≤ seq)
    {view : ParticipantView} (behind : ∀ last ∈ view.lastPatchSeq, last ≤ seq) :
    ∀ last ∈ (messages.foldl ParticipantView.deliver view).lastPatchSeq, last ≤ seq := by
  induction messages generalizing view with
  | nil => exact behind
  | cons message messages ih =>
      apply ih fun patch hp => numbered patch (List.mem_cons_of_mem _ hp)
      cases message with
      | patch patch =>
          rw [ParticipantView.deliver]
          split
          · intro last hl
            rw [← Option.some.inj hl]
            exact numbered patch List.mem_cons_self
          · exact behind
      | _ => exact behind

/-- The views after a step, of the connected and of everybody else. -/
theorem view_step (next : (visited.tracked.server.step cfg stamped).Announcing home)
    (carries : visited.tracked.server.CarriesPresence stamped) (sid : SessionId)
    (pid : ParticipantId) :
    (visited.tracked.server.step cfg stamped).convergence.view sid pid =
      (if (visited.tracked.server.step cfg stamped).Connected sid pid then
          (visited.tracked.server.action stamped).tells visited.tracked.server stamped.time sid pid
        else []).foldl ParticipantView.deliver (visited.tracked.server.convergence.view sid pid) := by
  rw [Server.convergence_step, ConvergenceTracker.foldl_onDeliver_view,
    Server.deliveredTo_written next carries]

theorem Tracking.step (tracking : visited.Tracking home)
    (atHome : visited.tracked.server.AtHome home stamped)
    (carries : visited.tracked.server.CarriesPresence stamped) :
    (visited.step cfg stamped).Tracking home := by
  have next : (visited.tracked.server.step cfg stamped).Announcing home :=
    tracking.announcing.step atHome
  have noSweep : stamped.event ≠ .reap := carries.not_reap
  refine ⟨next, tracking.remembering.step tracking.announcing.wellFormed, ?_, ?_, ?_⟩
  · intro sid pid
    show ((visited.tracked.server.step cfg stamped).convergence.held sid pid).isSome ↔ _ ∨ _
    rw [Server.convergence_step, ConvergenceTracker.foldl_onDeliver_held_isSome, tracking.held,
      Server.deliveredTo_written next carries]
    constructor
    · rintro (came | told)
      · exact Or.inl came
      · apply Or.inr
        by_contra absent
        rw [if_neg absent] at told
        exact told rfl
    · rintro (came | connected)
      · exact Or.inl came
      · rcases Server.connected_step tracking.announcing noSweep connected with was | isHello
        · exact Or.inl (tracking.present sid pid was)
        · obtain ⟨ctx, msg, ha, rfl, rfl⟩ := isHello
          apply Or.inr
          rw [if_pos connected, ha, Action.tells, if_neg (not_not.mpr rfl), if_pos rfl]
          exact List.cons_ne_nil _ _
  · intro sid pid connected
    exact Or.inr connected
  · intro sid pid
    show ∀ last ∈ ((visited.tracked.server.step cfg stamped).convergence.view sid
      pid).lastPatchSeq, last ≤ (visited.tracked.server.step cfg stamped).scheduler.seq
    rw [view_step next carries]
    apply behind_foldl
    · intro patch hp
      split at hp
      · obtain ⟨isTick, numbered⟩ := Server.tells_patch hp
        rw [Server.scheduler_step_tick cfg isTick, numbered]
      · cases hp
    · intro last hl
      exact Int.le_trans (tracking.behind sid pid last hl) (Server.scheduler_step_le cfg _ stamped)

/-- Everybody who is connected to the session has the same of everybody in it. -/
def AgreeIn (visited : Visited) (sid : SessionId) : Prop :=
  ∀ pid other, visited.tracked.server.Connected sid pid →
    visited.tracked.server.Connected sid other → ∀ member,
      (visited.tracked.server.convergence.view sid pid).participants.get? member =
        (visited.tracked.server.convergence.view sid other).participants.get? member

/-- Where nothing haunts a session its members are shown the roster, and where
something does they all are shown it. -/
structure Agreeing (visited : Visited) : Prop where
  follows : ∀ sid, ¬visited.haunted sid → ∀ pid, visited.tracked.server.Connected sid pid →
    visited.tracked.server.Follows sid (visited.tracked.server.convergence.view sid pid)
  agree : ∀ sid, visited.haunted sid → visited.AgreeIn sid

theorem foldl_applyPatch_same (patches : List ParticipantPatch)
    {first second : JsMap ParticipantId SimulatedParticipant}
    (same : ∀ member, first.get? member = second.get? member) (member : ParticipantId) :
    (patches.foldl applyPatch first).get? member = (patches.foldl applyPatch second).get? member := by
  induction patches generalizing first second with
  | nil => exact same member
  | cons patch patches ih =>
      apply ih
      intro other
      rw [applyPatch_get?, applyPatch_get?, same]

/-- Views that have the same, and take the same patches, go on having the same. -/
theorem deliver_same {first second : ParticipantView} {message : OutboundMessage}
    (fresh : ∀ patch : PatchMessage, message = .patch patch →
      first.Fresh patch.seq ∧ second.Fresh patch.seq)
    (same : ∀ member, first.participants.get? member = second.participants.get? member)
    (member : ParticipantId) :
    (first.deliver message).participants.get? member =
      (second.deliver message).participants.get? member := by
  cases message with
  | welcome msg => rfl
  | snapshot msg => rfl
  | join msg =>
      show (upsert _ _).get? member = (upsert _ _).get? member
      rw [upsert_get?, upsert_get?, same]
  | leave msg =>
      show (JsMap.delete _ _).get? member = (JsMap.delete _ _).get? member
      rw [JsMap.get?_delete, JsMap.get?_delete, same]
  | patch msg =>
      obtain ⟨freshFirst, freshSecond⟩ := fresh msg rfl
      rw [ParticipantView.deliver, ParticipantView.deliver, if_pos freshFirst, if_pos freshSecond]
      exact foldl_applyPatch_same msg.patches same member
  | pong msg => exact same member
  | error msg => exact same member
  | auditAck msg => exact same member

theorem leave_toList (server : Server) (now : Int) (sid from_sid : SessionId)
    (other : ParticipantId) :
    ∃ told : Option OutboundMessage,
      (if sid = from_sid ∧ server.InRoster sid other then [leaveMessage sid other now] else []) =
        told.toList := by
  split
  · exact ⟨some (leaveMessage sid other now), rfl⟩
  · exact ⟨none, rfl⟩

/-- But for a hello, everybody in a session is told the same, in one message. -/
theorem tells_cases {server : Server} {now : Int} {sid : SessionId} {action : Action}
    (notHello : ∀ pid, ¬action.IsHelloFor sid pid) :
    ∃ told : Option OutboundMessage, ∀ pid, action.tells server now sid pid = told.toList := by
  cases action with
  | hello ctx msg =>
      refine ⟨none, fun pid => ?_⟩
      rw [Action.tells, if_pos]
      · rfl
      · intro hs
        exact notHello msg.pid ⟨ctx, msg, rfl, hs, rfl⟩
  | bye ctx other =>
      obtain ⟨told, left⟩ := leave_toList server now sid ctx.sid other
      exact ⟨told, fun _ => left⟩
  | close ctx =>
      cases hp : ctx.pid with
      | none => exact ⟨none, fun pid => by rw [Action.tells, hp]; rfl⟩
      | some other =>
          obtain ⟨told, left⟩ := leave_toList server now sid ctx.sid other
          refine ⟨told, fun pid => ?_⟩
          rw [Action.tells, hp]
          exact left
  | tick => exact ⟨_, fun pid => rfl⟩
  | _ => exact ⟨none, fun pid => rfl⟩

/-- Where nobody says hello, those who stay connected go on having the same. -/
theorem Tracking.agreeIn_step (tracking : visited.Tracking home)
    (next : (visited.tracked.server.step cfg stamped).Announcing home)
    (carries : visited.tracked.server.CarriesPresence stamped) {sid : SessionId}
    (notHello : ∀ pid, ¬(visited.tracked.server.action stamped).IsHelloFor sid pid)
    (agree : visited.AgreeIn sid) : (visited.step cfg stamped).AgreeIn sid := by
  have noSweep : stamped.event ≠ .reap := carries.not_reap
  have stayed : ∀ pid, (visited.tracked.server.step cfg stamped).Connected sid pid →
      visited.tracked.server.Connected sid pid := by
    intro pid connected
    exact (Server.connected_step tracking.announcing noSweep connected).resolve_right
      (notHello pid)
  obtain ⟨told, same⟩ := tells_cases notHello
  intro pid other hPid hOther member
  have connected : (visited.tracked.server.step cfg stamped).Connected sid pid := hPid
  have connected' : (visited.tracked.server.step cfg stamped).Connected sid other := hOther
  show ((visited.tracked.server.step cfg stamped).convergence.view sid pid).participants.get?
    member = ((visited.tracked.server.step cfg stamped).convergence.view sid
      other).participants.get? member
  rw [view_step next carries, view_step next carries, if_pos connected, if_pos connected', same,
    same]
  have before := agree pid other (stayed pid connected) (stayed other connected')
  have fresh : ∀ watcher, ∀ patch : PatchMessage, told = some (.patch patch) →
      (visited.tracked.server.convergence.view sid watcher).Fresh patch.seq := by
    intro watcher patch hp last hl
    have hm : .patch patch ∈ (visited.tracked.server.action stamped).tells visited.tracked.server
        stamped.time sid pid := by
      rw [same, hp]
      exact List.mem_cons_self
    have numbered := (Server.tells_patch hm).2
    have old := tracking.behind sid watcher last hl
    omega
  cases told with
  | none => exact before member
  | some message =>
      apply deliver_same _ before
      intro patch hp
      exact ⟨fresh pid patch (congrArg some hp), fresh other patch (congrArg some hp)⟩

theorem agreeIn_of_clean {sid : SessionId}
    (follows : ∀ pid, visited.tracked.server.Connected sid pid →
      visited.tracked.server.Follows sid (visited.tracked.server.convergence.view sid pid))
    (clean : ∀ member entry, visited.tracked.server.entryOf sid member = some entry →
      entry.dirty = {}) : visited.AgreeIn sid := by
  intro pid other connected connected' member
  rw [(follows pid connected).upToDate_of_clean clean member,
    (follows other connected').upToDate_of_clean clean member]

/-- Every step keeps the views of a session following its roster, or, once
haunted, the same. -/
theorem Agreeing.step (agreeing : visited.Agreeing) (tracking : visited.Tracking home)
    (later : (visited.step cfg stamped).Tracking home)
    (carries : visited.tracked.server.CarriesPresence stamped)
    (greets : visited.GreetsUnhaunted stamped) : (visited.step cfg stamped).Agreeing := by
  have noSweep := carries.not_reap
  have wf := tracking.announcing.wellFormed
  have notHello_tick : stamped.event = .tick → ∀ sid pid,
      ¬(visited.tracked.server.action stamped).IsHelloFor sid pid := by
    rintro isTick sid pid ⟨ctx, msg, ha, _⟩
    rw [Server.action_eq_tick_iff.mpr isTick] at ha
    cases ha
  constructor
  · intro sid unhaunted pid h
    have connected : (visited.tracked.server.step cfg stamped).Connected sid pid := h
    have calm : ¬(visited.tracked.server.action stamped).IsHelloFor sid pid →
        ¬visited.haunted sid ∧ ¬visited.tracked.ResendsDepartedIn stamped sid := by
      intro notHello
      rw [← not_or]
      exact fun haunts => unhaunted ⟨haunts, pid, connected, notHello⟩
    refine ⟨?_, later.behind sid pid⟩
    show ∀ member, Shows ((visited.tracked.server.step cfg stamped).entryOf sid member)
      (((visited.tracked.server.step cfg stamped).convergence.view sid pid).participants.get?
        member)
    rw [view_step later.announcing carries, if_pos connected]
    apply Server.Follows.step wf noSweep
    · intro isTick
      exact Tracked.truthfulIn_of_stays wf tracking.remembering isTick
        (calm (notHello_tick isTick sid pid)).2
    · intro notHello
      have was := Server.connected_step tracking.announcing noSweep connected
      exact agreeing.follows sid (calm notHello).1 pid (was.resolve_right notHello)
  · rintro sid ⟨haunts, watcher, watching, notOwn⟩
    have was := Server.connected_step tracking.announcing noSweep watching
    have notHello : ∀ pid, ¬(visited.tracked.server.action stamped).IsHelloFor sid pid := by
      intro pid isHello
      rcases haunts with haunted | resends
      · obtain rfl := greets sid pid isHello haunted watcher (was.resolve_right notOwn)
        exact notOwn isHello
      · exact notHello_tick resends.1 sid pid isHello
    apply tracking.agreeIn_step later.announcing carries notHello
    by_cases haunted : visited.haunted sid
    · exact agreeing.agree sid haunted
    · obtain ⟨_, _, nothing, _⟩ := haunts.resolve_left haunted
      exact agreeIn_of_clean (agreeing.follows sid haunted) (Server.clean_of_not_unflushed nothing)

/-- After a tick, which leaves nothing flagged, everybody has the same. -/
theorem Agreeing.agreeIn_tick (agreeing : (visited.step cfg stamped).Agreeing)
    (isTick : stamped.event = .tick) (sid : SessionId) :
    (visited.step cfg stamped).AgreeIn sid := by
  by_cases haunted : (visited.step cfg stamped).haunted sid
  · exact agreeing.agree sid haunted
  · apply agreeIn_of_clean (agreeing.follows sid haunted)
    intro member entry he
    have ticked : (visited.step cfg stamped).tracked.server.entryOf sid member = _ :=
      Tracked.entryOf_tick isTick sid member
    rw [he] at ticked
    obtain ⟨old, _, rfl⟩ := Option.map_eq_some_iff.mp ticked.symm
    rfl

/-- The right names are reported exactly when everybody who came is there. -/
theorem Tracking.reportsConnected_iff (tracking : visited.Tracking home) :
    (∀ sid, visited.tracked.server.ReportsConnected numberText sid) ↔ visited.AllThere := by
  have reported : ∀ sid name,
      name ∈ (visited.tracked.server.convergence.snapshot numberText sid).hashes.keys ↔
        name ≠ "__proto__" ∧ ∃ pid, pid.value = name ∧ visited.came sid pid := by
    intro sid name
    rw [ConvergenceTracker.mem_snapshot_keys_iff]
    simp only [tracking.held]
  constructor
  · intro right sid pid came
    constructor
    · intro connected
      exact ((reported sid _).mp ((right sid pid.value).mpr ⟨pid, rfl, connected⟩)).1
    · intro named
      obtain ⟨other, same, connected⟩ := (right sid pid.value).mp
        ((reported sid _).mpr ⟨named, pid, rfl, came⟩)
      rw [← participantId_ext same]
      exact connected
  · intro allThere sid name
    rw [reported]
    constructor
    · rintro ⟨named, pid, rfl, came⟩
      exact ⟨pid, rfl, (allThere sid pid came).mpr named⟩
    · rintro ⟨pid, rfl, connected⟩
      have came := tracking.present sid pid connected
      exact ⟨(allThere sid pid came).mp connected, pid, rfl, came⟩

/-- Those who are there and have the same have converged. -/
theorem Tracking.converged (tracking : visited.Tracking home) (allThere : visited.AllThere)
    {sid : SessionId} (agree : visited.AgreeIn sid) :
    (visited.tracked.server.convergence.snapshot numberText sid).converged = true := by
  have there : ∀ pid view, visited.tracked.server.convergence.held sid pid = some view →
      pid.value ≠ "__proto__" → visited.tracked.server.Connected sid pid := by
    intro pid view hHeld named
    have came := (tracking.held sid pid).mp (Option.isSome_of_eq_some hHeld)
    exact (allThere sid pid came).mpr named
  apply ConvergenceTracker.snapshot_converged
  intro pid first other second hFirst hSecond named named' member
  have same := agree pid other (there pid first hFirst named) (there other second hSecond named')
    member
  rw [ConvergenceTracker.view_of_held hFirst, ConvergenceTracker.view_of_held hSecond] at same
  exact same

/-- A tick moves nobody in or out. -/
theorem connected_tick (isTick : stamped.event = .tick) (sid : SessionId) (pid : ParticipantId) :
    (visited.step cfg stamped).tracked.server.Connected sid pid ↔
      visited.tracked.server.Connected sid pid := by
  show (visited.tracked.server.step cfg stamped).Connected sid pid ↔ _
  rw [Server.step_of_tick cfg (Server.action_eq_tick_iff.mpr isTick)]
  rfl

theorem allThere_tick (tracking : visited.Tracking home) (isTick : stamped.event = .tick) :
    (visited.step cfg stamped).AllThere ↔ visited.AllThere := by
  have came : ∀ sid pid, (visited.step cfg stamped).came sid pid ↔ visited.came sid pid := by
    intro sid pid
    constructor
    · rintro (before | connected)
      · exact before
      · exact tracking.present sid pid ((connected_tick isTick sid pid).mp connected)
    · exact Or.inl
  simp only [AllThere, came, connected_tick isTick]

/-- A condition on the server along a run, seen with what is remembered of it. -/
theorem along_server {C : Server → Stamped → Prop} {events : List Stamped} :
    Transition.Along (step cfg) (fun visited stamped => C visited.tracked.server stamped) initial
        events ↔
      Transition.Along (Server.step cfg) C Server.initial events := by
  exact Transition.along_map (f := fun visited : Visited => visited.tracked.server) fun _ _ => rfl

/-- As long as every participant keeps to one session: the names reported after
each tick are those of the connected exactly when at each tick everybody who
ever came is there; and the reports are then true too, if nobody says hello in
a haunted session with others in it. -/
theorem reports_of_allThere (cfg : Config) {home : ParticipantId → SessionId}
    {events : List Stamped}
    (allowed : Transition.Along (Server.step cfg) (fun server stamped =>
      server.AtHome home stamped ∧ server.CarriesPresence stamped) Server.initial events) :
    (Transition.Along (Server.step cfg) (fun server stamped => stamped.event = .tick →
          ∀ sid, (server.step cfg stamped).ReportsConnected numberText sid) Server.initial events ↔
        Transition.Along (step cfg) (fun visited stamped => stamped.event = .tick →
          visited.AllThere) initial events) ∧
      (Transition.Along (step cfg) (fun visited stamped => (stamped.event = .tick →
          visited.AllThere) ∧ visited.GreetsUnhaunted stamped) initial events →
        Transition.Along (Server.step cfg) (fun server stamped => stamped.event = .tick →
          ∀ sid, (server.step cfg stamped).ReportsConverged numberText sid) Server.initial
            events) := by
  have within := along_server.mpr allowed
  have initially := initial_tracking home
  constructor
  · rw [← along_server]
    apply Transition.along_iff_along_of_kept (I := Tracking home) _ _ initially within
    · intro visited stamped ⟨atHome, carries⟩ tracking
      exact tracking.step atHome carries
    · intro visited stamped ⟨atHome, carries⟩ tracking
      have later : (visited.step cfg stamped).Tracking home := tracking.step atHome carries
      apply forall_congr'
      intro isTick
      rw [← allThere_tick tracking isTick]
      exact later.reportsConnected_iff numberText
  · intro meets
    have both := Transition.along_and.mpr ⟨within, meets⟩
    rw [← along_server]
    refine (Transition.along_iff_along_of_kept (I := fun visited : Visited =>
      visited.Tracking home ∧ visited.Agreeing) ?_ ?_ ⟨initially, ?_⟩ both).mpr meets
    · intro visited stamped ⟨⟨atHome, carries⟩, _, greets⟩ ⟨tracking, agreeing⟩
      have later : (visited.step cfg stamped).Tracking home := tracking.step atHome carries
      exact ⟨later, agreeing.step tracking later carries greets⟩
    · intro visited stamped ⟨⟨atHome, carries⟩, allThere, greets⟩ ⟨tracking, agreeing⟩
      have later : (visited.step cfg stamped).Tracking home := tracking.step atHome carries
      have agreeing' := agreeing.step tracking later carries greets
      refine iff_of_true ?_ ⟨allThere, greets⟩
      intro isTick sid
      have everybody : (visited.step cfg stamped).AllThere :=
        (allThere_tick tracking isTick).mpr (allThere isTick)
      exact ⟨later.converged numberText everybody (agreeing'.agreeIn_tick isTick sid),
        (later.reportsConnected_iff numberText).mpr everybody sid⟩
    · constructor
      · rintro sid _ pid ⟨connection, registered, _⟩
        cases registered
      · intro sid haunted
        exact haunted.elim

open Scenario

/-- Two who come to one session. -/
def company : List Stamped := arrival 0 1 session alice 1 ++ arrival 0 2 session bob 1

/-- One of them leaves, and is still reported after the next tick. -/
theorem departed_reported :
    Transition.Along (Server.step (config 100)) (fun server stamped =>
        server.AtHome (fun _ => session) stamped ∧ server.CarriesPresence stamped) Server.initial
          (company ++ [⟨10, .close 2⟩, ⟨50, .tick⟩]) ∧
      ¬(Server.initial.run (config 100)
        (company ++ [⟨10, .close 2⟩, ⟨50, .tick⟩])).ReportsConverged (fun value => toString value)
          session := by
  refine ⟨by decide, fun report => ?_⟩
  have listed : "b" ∈ ((Server.initial.run (config 100)
      (company ++ [⟨10, .close 2⟩, ⟨50, .tick⟩])).convergence.snapshot
        (fun value => toString value) session).hashes.keys :=
    (ConvergenceTracker.mem_snapshot_keys_iff _).mpr ⟨by decide, bob, rfl, by decide⟩
  obtain ⟨pid, hPid, connected⟩ := (report.connected "b").mp listed
  obtain rfl : pid = bob := participantId_ext hPid
  exact absurd connected (by decide)

/-- Up to the first tick nothing is repeated. -/
theorem not_haunted_of_no_tick (cfg : Config) {events : List Stamped}
    (noTick : ∀ stamped ∈ events, stamped.event ≠ .tick) (sid : SessionId) :
    ¬(run cfg initial events).haunted sid := by
  apply Transition.invariant_run_mem (P := fun visited : Visited => ¬visited.haunted sid) id
  rintro visited stamped h calm ⟨haunts, _⟩
  rcases haunts with haunted | resends
  · exact calm haunted
  · exact noTick stamped h resends.1

/-- A first tick meets the condition if everybody is there. -/
theorem meets_of_first_tick (cfg : Config) {events : List Stamped} (time : Int)
    (noTick : ∀ stamped ∈ events, stamped.event ≠ .tick)
    (allThere : (run cfg initial events).AllThere) :
    Transition.Along (step cfg) (fun visited stamped => (stamped.event = .tick →
      visited.AllThere) ∧ visited.GreetsUnhaunted stamped) initial (events ++ [⟨time, .tick⟩]) := by
  rw [Transition.along_append]
  constructor
  · rw [Transition.along_iff_prefix]
    intro before stamped hp
    have earlier : ∀ other ∈ before, other.event ≠ .tick :=
      fun other ho => noTick other (hp.subset (List.mem_append_left _ ho))
    constructor
    · intro isTick
      exact absurd isTick (noTick stamped (hp.subset (by simp)))
    · intro sid pid _ haunted
      exact absurd haunted (not_haunted_of_no_tick cfg earlier sid)
  · refine ⟨⟨fun _ => allThere, ?_⟩, trivial⟩
    intro sid pid _ haunted
    exact absurd haunted (not_haunted_of_no_tick cfg noTick sid)

/-- One of them moves. -/
def moved : List Stamped := company ++ [⟨10, .message 2 (cursorFrame session bob 2 10 1 4)⟩]

example : ∀ stamped ∈ moved, stamped.Sendable := by decide

/-- Who can be connected where nobody but the two is registered. -/
theorem one_of_two {server : Server} (only : ∀ pid ∈ server.hub.connections.keys,
      pid = alice ∨ pid = bob)
    (here : ∀ connection ∈ server.hub.connections.values, connection.sid = session)
    {sid : SessionId} {pid : ParticipantId} (connected : server.Connected sid pid) :
    sid = session ∧ (pid = alice ∨ pid = bob) := by
  obtain ⟨connection, registered, hs, _⟩ := connected
  have listed := JsMap.mem_keys_iff.mpr ⟨connection, registered⟩
  have valued := JsMap.mem_values_iff.mpr ⟨pid, registered⟩
  exact ⟨hs.symm.trans (here connection valued), only pid listed⟩

theorem moved_allThere : (run (config 100) initial moved).AllThere := by
  intro sid pid came
  have there : sid = session ∧ (pid = alice ∨ pid = bob) := by
    rcases came with ((((never | h) | h) | h) | h) | h
    · exact never.elim
    · exact one_of_two (by decide) (by decide) h
    · exact one_of_two (by decide) (by decide) h
    · exact one_of_two (by decide) (by decide) h
    · exact one_of_two (by decide) (by decide) h
    · exact one_of_two (by decide) (by decide) h
  rcases there with ⟨rfl, rfl | rfl⟩
  · decide
  · decide

theorem reports_of_moved :
    ((Server.initial.run (config 100) moved).step (config 100) ⟨50, .tick⟩).ReportsConverged
      (fun value => toString value) session := by
  have allowed : Transition.Along (Server.step (config 100)) (fun server stamped =>
      server.AtHome (fun _ => session) stamped ∧ server.CarriesPresence stamped) Server.initial
        (moved ++ [⟨50, .tick⟩]) := by
    decide
  have reports := (reports_of_allThere (fun value => toString value) (config 100) allowed).2
    (meets_of_first_tick (config 100) 50 (by decide) moved_allThere)
  exact Transition.along_iff_prefix.mp reports moved ⟨50, .tick⟩ (List.prefix_refl _) rfl session

end Visited

end Copresence
