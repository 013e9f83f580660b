import Copresence.Server.History

/-! Registrations and rosters are keyed by participant, connections are not:
when the end of one connection evicts a newer one of the same participant. -/
namespace Copresence

open Collections

namespace Observed

/-- The router accepted a `bye` on this connection. -/
def SaidBye (observed : Observed) (socket : SocketId) : Prop :=
  ∃ accepted ∈ observed.accepted, accepted.socket = socket ∧ accepted.msg.t = .bye

instance (observed : Observed) (socket : SocketId) : Decidable (observed.SaidBye socket) := by
  rw [SaidBye]
  infer_instance

/-- Every participant's latest connection, while it is open and has not said
bye, holds the registration and a place in its session's roster. -/
def LatestHeld (observed : Observed) : Prop :=
  ∀ pid hello, observed.latestHello pid = some hello →
    observed.server.isOpen hello.socket = true → ¬ observed.SaidBye hello.socket →
    observed.server.hub.registration pid =
        some { pid, sid := hello.sid, socket := hello.socket } ∧
      observed.server.InRoster hello.sid pid

/-- The connection `ctx` leaves as `pid` by this action, by `bye` or by closing. -/
def Leaves (action : Action) (ctx : ConnectionContext) (pid : ParticipantId) : Prop :=
  action = .bye ctx pid ∨ (action = .close ctx ∧ ctx.pid = some pid)

/-- The step ends one connection of a participant whose latest hello was on
another, still open and without a `bye`. -/
def Evicts (observed : Observed) (stamped : Stamped) : Prop :=
  ∃ ctx pid hello, Leaves (observed.server.action stamped) ctx pid ∧
    observed.latestHello pid = some hello ∧ hello.socket ≠ ctx.socket ∧
    observed.server.isOpen hello.socket = true ∧ ¬ observed.SaidBye hello.socket

/-- Every accepted frame came over a connection the server knows. -/
def Known (observed : Observed) : Prop :=
  ∀ accepted ∈ observed.accepted, observed.server.identity? accepted.socket ≠ none

variable {cfg : Config} {observed : Observed} {stamped : Stamped}

theorem mem_accepted_step {accepted : Accepted} :
    accepted ∈ (observed.step cfg stamped).accepted ↔
      acceptedFrame observed.server stamped = some accepted ∨ accepted ∈ observed.accepted := by
  rw [step, List.mem_append, Option.mem_toList]

theorem saidBye_step_iff (socket : SocketId) :
    (observed.step cfg stamped).SaidBye socket ↔
      (∃ ctx pid, observed.server.action stamped = .bye ctx pid ∧ ctx.socket = socket) ∨
        observed.SaidBye socket := by
  constructor
  · intro ⟨accepted, hm, hs, isBye⟩
    rcases mem_accepted_step.mp hm with now | before
    · obtain ⟨⟨ctx, received⟩, hr, rfl⟩ := Option.map_eq_some_iff.mp now
      obtain ⟨msg, rfl⟩ := InboundMessage.t_eq_bye.mp isBye
      exact Or.inl ⟨ctx, msg.pid, Server.action_of_received hr, hs⟩
    · exact Or.inr ⟨accepted, before, hs, isBye⟩
  · rintro (⟨ctx, pid, ha, hs⟩ | ⟨accepted, before, said⟩)
    · obtain ⟨msg, hr⟩ := Server.action_eq_bye ha
      exact ⟨_, mem_accepted_step.mpr (Or.inl (by rw [acceptedFrame, hr]; rfl)), hs, rfl⟩
    · exact ⟨accepted, mem_accepted_step.mpr (Or.inr before), said⟩

/-- Whoever leaves leaves every other latest hello as it was. -/
theorem latestHello_of_leaves {ctx : ConnectionContext} {gone : ParticipantId}
    (leaves : Leaves (observed.server.action stamped) ctx gone) (pid : ParticipantId) :
    (observed.step cfg stamped).latestHello pid = observed.latestHello pid := by
  rw [latestHello_step]
  rcases leaves with ha | ⟨ha, _⟩ <;> rw [ha] <;> rfl

theorem known_step (known : observed.Known) : (observed.step cfg stamped).Known := by
  intro accepted hm
  have moved := (Server.step_effect cfg observed.server stamped).identity? accepted.socket
  have kept : observed.server.identity? accepted.socket ≠ none := by
    rcases mem_accepted_step.mp hm with now | before
    · obtain ⟨⟨ctx, received⟩, hr, rfl⟩ := Option.map_eq_some_iff.mp now
      obtain ⟨live, _⟩ := Server.step_of_received cfg hr
      rw [Server.identity?, live.1]
      exact Option.some_ne_none _
    · exact known accepted before
  change (observed.server.step cfg stamped).identity? accepted.socket ≠ none
  rw [moved]
  unfold Action.onIdentity
  split
  · split
    · exact Option.some_ne_none _
    · exact kept
  · split
    · exact Option.some_ne_none _
    · exact kept
  · split
    · exact Option.some_ne_none _
    · exact kept
  · exact kept

/-- An action that ends no connection and is no hello of `pid` leaves a latest
connection that was open in the registration and the roster. -/
theorem held_of_unmoved (wf : observed.server.WellFormed)
    (noSweep : observed.server.action stamped ≠ .reap) {pid : ParticipantId} {hello : Accepted}
    (held : observed.server.hub.registration pid =
        some { pid, sid := hello.sid, socket := hello.socket } ∧
      observed.server.InRoster hello.sid pid)
    (stays : ∀ ctx, ¬ Leaves (observed.server.action stamped) ctx pid)
    (silent : ∀ ctx msg, observed.server.action stamped = .hello ctx msg → pid ≠ msg.pid) :
    (observed.step cfg stamped).server.hub.registration pid =
        some { pid, sid := hello.sid, socket := hello.socket } ∧
      (observed.step cfg stamped).server.InRoster hello.sid pid := by
  have effect := Server.step_effect cfg observed.server stamped
  obtain ⟨registered, listed⟩ := held
  refine ⟨(effect.registration noSweep pid).trans ?_, ?_⟩
  · rw [registered]
    unfold Action.onRegistration
    split
    · next ctx msg ha => rw [if_neg (silent ctx msg ha)]
    · next ctx gone ha =>
        rw [if_neg]
        rintro rfl
        exact stays ctx (Or.inl ha)
    · next ctx ha => rw [if_neg fun hp => stays ctx (Or.inr ⟨ha, hp⟩)]
    · rfl
  · change ((observed.server.step cfg stamped).entryOf hello.sid pid).isSome
    rw [effect.entryOf wf]
    unfold Action.onEntry
    split
    · next ctx msg ha =>
        rw [if_neg fun own => silent ctx msg ha own.2]
        exact listed
    · split
      · rw [Option.isSome_map]
        exact listed
      · exact listed
    · next ctx gone ha =>
        rw [if_neg]
        · exact listed
        · rintro ⟨_, rfl⟩
          exact stays ctx (Or.inl ha)
    · next ctx ha =>
        rw [if_neg fun own => stays ctx (Or.inr ⟨ha, own.2⟩)]
        exact listed
    · rw [Option.isSome_map]
      exact listed
    · next ha => exact absurd ha noSweep
    · exact listed

/-- A hello puts its own connection in the registration and the roster. -/
theorem held_of_hello (wf : observed.server.WellFormed) {ctx : ConnectionContext}
    {msg : HelloMessage} (ha : observed.server.action stamped = .hello ctx msg) :
    (observed.step cfg stamped).server.hub.registration msg.pid =
        some { pid := msg.pid, sid := ctx.sid, socket := ctx.socket } ∧
      (observed.step cfg stamped).server.InRoster ctx.sid msg.pid := by
  have effect := Server.step_effect cfg observed.server stamped
  constructor
  · apply (effect.registration (by rw [ha]; exact Action.noConfusion) msg.pid).trans
    rw [ha]
    exact if_pos rfl
  · change ((observed.server.step cfg stamped).entryOf ctx.sid msg.pid).isSome
    rw [effect.entryOf wf, ha, Action.onEntry, if_pos ⟨rfl, rfl⟩]
    rfl

/-- A connection that is open after a step was so before it, unless it is the
one the step opened. -/
theorem open_before {socket : SocketId} (known : observed.server.identity? socket ≠ none)
    (h : (observed.step cfg stamped).server.isOpen socket = true) :
    observed.server.isOpen socket = true ∧
      ∀ ctx, observed.server.action stamped = .close ctx → socket ≠ ctx.socket := by
  have effect := Server.step_effect cfg observed.server stamped
  have opened := of_decide_eq_true h
  change (observed.server.step cfg stamped).readyState socket = .open at opened
  rw [effect.readyState] at opened
  unfold Action.onReadyState at opened
  split at opened
  · next fresh sid ha =>
      have hne : socket ≠ fresh := by
        rintro rfl
        rw [ha] at effect
        exact known (by rw [Server.identity?, effect.fresh]; rfl)
      rw [if_neg hne] at opened
      exact ⟨decide_eq_true opened, by rintro ctx hc; rw [ha] at hc; cases hc⟩
  · next closed ha =>
      split at opened
      · cases opened
      · exact ⟨decide_eq_true opened, by rintro ctx hc; rw [ha] at hc; cases hc⟩
  · next ctx ha =>
      split at opened
      · cases opened
      · next hne =>
          refine ⟨decide_eq_true opened, ?_⟩
          intro other hc
          rw [ha] at hc
          cases hc
          exact hne
  · next noClose => exact ⟨decide_eq_true opened, fun ctx hc => absurd hc (noClose ctx)⟩

/-- A step keeps all latest connections exactly when it evicts none. -/
theorem latestHeld_step_iff (wf : observed.server.WellFormed) (known : observed.Known)
    (noSweep : observed.server.action stamped ≠ .reap) (held : observed.LatestHeld) :
    (observed.step cfg stamped).LatestHeld ↔ ¬ observed.Evicts stamped := by
  have effect := Server.step_effect cfg observed.server stamped
  constructor
  · intro after ⟨ctx, pid, hello, leaves, hl, hne, ho, silent⟩
    have stillOpen : (observed.step cfg stamped).server.isOpen hello.socket = true := by
      refine decide_eq_true ((effect.readyState hello.socket).trans ?_)
      rcases leaves with ha | ⟨ha, _⟩
      · rw [ha]
        exact of_decide_eq_true ho
      · rw [ha, Action.onReadyState, if_neg hne]
        exact of_decide_eq_true ho
    have stillSilent : ¬ (observed.step cfg stamped).SaidBye hello.socket := by
      rw [saidBye_step_iff]
      rintro (⟨other, gone, ha, hs⟩ | said)
      · rcases leaves with hb | ⟨hb, _⟩
        · rw [ha] at hb
          cases hb
          exact hne hs.symm
        · rw [ha] at hb
          cases hb
      · exact silent said
    have registered := (after pid hello ((latestHello_of_leaves leaves pid).trans hl) stillOpen
      stillSilent).1
    rw [show (observed.step cfg stamped).server.hub.registration pid = _ from
      effect.registration noSweep pid] at registered
    rcases leaves with ha | ⟨ha, hp⟩
    · rw [ha, Action.onRegistration, if_pos rfl] at registered
      cases registered
    · rw [ha, Action.onRegistration, if_pos hp] at registered
      cases registered
  · intro harmless pid hello hl ho silent
    by_cases own : ∃ ctx msg, observed.server.action stamped = .hello ctx msg ∧ pid = msg.pid
    · obtain ⟨ctx, msg, ha, rfl⟩ := own
      rw [latestHello_step, ha, Action.acceptedHello, Option.filter_some,
        if_pos (decide_eq_true ⟨rfl, rfl⟩)] at hl
      rw [← Option.some.inj hl]
      exact held_of_hello wf ha
    · have same : (observed.step cfg stamped).latestHello pid = observed.latestHello pid := by
        rw [latestHello_step, Option.filter_eq_none_iff.mpr, Option.none_or]
        intro accepted hm hd
        obtain ⟨ctx, msg, ha, rfl⟩ := Action.acceptedHello_eq_some.mp hm
        exact own ⟨ctx, msg, ha, (of_decide_eq_true hd).2.symm⟩
      rw [same] at hl
      obtain ⟨wasOpen, notClosed⟩ := open_before (known hello (List.mem_of_find?_eq_some hl)) ho
      have wasSilent := silent
      rw [saidBye_step_iff, not_or] at wasSilent
      refine held_of_unmoved wf noSweep (held pid hello hl wasOpen wasSilent.2) ?_
        (fun ctx msg ha hp => own ⟨ctx, msg, ha, hp⟩)
      intro ctx leaves
      refine harmless ⟨ctx, pid, hello, leaves, hl, ?_, wasOpen, wasSilent.2⟩
      rcases leaves with ha | ⟨ha, _⟩
      · exact fun hs => wasSilent.1 ⟨ctx, pid, ha, hs.symm⟩
      · exact notClosed ctx ha

theorem initial_latestHeld : initial.LatestHeld := by
  intro pid hello h
  cases h

theorem initial_known : initial.Known := by
  intro accepted h
  cases h

/-- In a run without sweeps, no newer connection is ever evicted exactly when
no step ends an old connection of a participant who has a newer one. -/
theorem latestHeld_always_iff (cfg : Config) (events : List Stamped)
    (noSweep : ∀ stamped ∈ events, stamped.event ≠ .reap) :
    Transition.Always (step cfg) LatestHeld initial events ↔
      Transition.Along (step cfg) (fun observed stamped => ¬ observed.Evicts stamped) initial
        events :=
  Transition.always_iff_along
    (I := fun observed => observed.server.WellFormed ∧ observed.Known)
    (fun _ stamped _ inv =>
      ⟨Server.step_wellFormed cfg inv.1 stamped, known_step inv.2⟩)
    (fun _ _ notSweep inv held =>
      latestHeld_step_iff inv.1 inv.2 (fun ha => notSweep (Server.action_eq_reap ha)) held)
    ⟨Server.initial_wellFormed, initial_known⟩ initial_latestHeld noSweep

open Scenario

/-- A client that reconnects before the server sees its first socket close. -/
def halfOpen : List Stamped :=
  arrival 0 1 session alice 1 ++ arrival 10 2 session alice 1 ++ [⟨20, .close 1⟩]

theorem halfOpen_noSweep : ∀ stamped ∈ halfOpen, stamped.event ≠ .reap := by decide

/-- The late close leaves the new connection without roster entry. -/
theorem halfOpen_evicts :
    (∀ stamped ∈ halfOpen, stamped.event ≠ .reap) ∧
      ¬ Transition.Always (step (config 100)) LatestHeld initial halfOpen := by
  refine ⟨halfOpen_noSweep, fun always => ?_⟩
  have held := Transition.always_iff_prefix.mp always halfOpen (List.prefix_refl _)
  have latest : (run (config 100) initial halfOpen).latestHello alice =
      some { time := 10, socket := 2, sid := session
             msg := .hello
               { envelope session alice 1 10 with
                 docWidth := 1, docHeight := 1, dpr := 1, visibilityState := .visible } } := by
    decide
  exact absurd (held alice _ latest (by decide) (by decide)).2 (by decide)

theorem latestHeld_always_iff_halfOpen :
    Transition.Always (step (config 100)) LatestHeld initial halfOpen ↔
      Transition.Along (step (config 100)) (fun observed stamped => ¬ observed.Evicts stamped)
        initial halfOpen :=
  latestHeld_always_iff (config 100) halfOpen halfOpen_noSweep

end Observed

end Copresence
