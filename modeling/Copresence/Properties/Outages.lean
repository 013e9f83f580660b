import Copresence.Lib.Run
import Copresence.Services.ChaosOutcomes

/-! What reaches the sockets during a partition. -/
namespace Copresence

open Collections

/-- A call that hands a message to a socket, or tells of it. -/
def ChaosReport.reaches : ChaosReport → Bool
  | rawSend _ => true
  | onDeliver _ _ _ => true
  | _ => false

/-- No copy leaves at once. -/
def ChaosOutcome.Withheld : ChaosOutcome → Prop
  | dropped => True
  | sent delay => 0 < delay
  | duplicated delay again => 0 < delay ∧ 0 < again

/-- The number of the draw after so many dispatches. -/
def rollsEnd (deps : ChaosMiddlewareDeps) (config : ChaosConfig) : Nat → Nat → Nat
  | 0, drawn => drawn
  | count + 1, drawn => rollsEnd deps config count (rollOutcome deps config drawn).2

/-- The rolls of so many dispatches, one after the other, let no copy leave at
once: each message is dropped, or each of its copies is delayed. -/
def Withholds (deps : ChaosMiddlewareDeps) (config : ChaosConfig) : Nat → Nat → Prop
  | 0, _ => True
  | count + 1, drawn => (rollOutcome deps config drawn).1.Withheld ∧
      Withholds deps config count (rollOutcome deps config drawn).2

/-- A number of dispatches is withheld when the first of them are and the rest
after these. -/
theorem withholds_add (deps : ChaosMiddlewareDeps) (config : ChaosConfig) (first second drawn : Nat) :
    Withholds deps config (first + second) drawn ↔
      Withholds deps config first drawn ∧
        Withholds deps config second (rollsEnd deps config first drawn) := by
  induction first generalizing drawn with
  | zero => simp [Withholds, rollsEnd]
  | succ first ih => rw [Nat.succ_add, Withholds, Withholds, ih, rollsEnd, and_assoc]

/-- The rolls of two batches of dispatches follow one another. -/
theorem rollsEnd_add (deps : ChaosMiddlewareDeps) (config : ChaosConfig) (first second drawn : Nat) :
    rollsEnd deps config (first + second) drawn =
      rollsEnd deps config second (rollsEnd deps config first drawn) := by
  induction first generalizing drawn with
  | zero => rw [Nat.zero_add, rollsEnd]
  | succ first ih => rw [Nat.succ_add, rollsEnd, ih, rollsEnd]

namespace ChaosMiddleware

/-- The calls so far that reached a socket. -/
def reached (chaos : ChaosMiddleware) : List ChaosReport :=
  chaos.reports.filter ChaosReport.reaches

/-- What a flush takes out of the buffers. -/
def flushed (chaos : ChaosMiddleware) : Option ParticipantId → List QueuedSend
  | some pid => (chaos.reorderBuffers.get? pid).getD []
  | none => chaos.reorderBuffers.values.flatten

/-- During a partition nothing reaches a socket. -/
def Silent (deps : ChaosMiddlewareDeps) (chaos : ChaosMiddleware) (timed : TimedChaosEvent) : Prop :=
  chaos.isPartitioned timed.now = true → (chaos.step deps timed).reached = chaos.reached

/-- During a partition no latency timer fires, and what the fallback timers and
the flushes release the rolls drop or delay. -/
def Contained (deps : ChaosMiddlewareDeps) (chaos : ChaosMiddleware) (timed : TimedChaosEvent) :
    Prop :=
  chaos.isPartitioned timed.now = true →
    match timed.event with
    | .flush pid => Withholds deps chaos.config (chaos.flushed pid).length chaos.drawn
    | .timer index =>
      match chaos.timers[index]? with
      | none => True
      | some timer =>
        match timer.callback with
        | .deliver _ _ => False
        | .releaseIfStillBuffered pid entry =>
          entry ∈ (chaos.reorderBuffers.get? pid).getD [] →
            Withholds deps chaos.config 1 chaos.drawn
    | _ => True

/-- What some dispatches do beside their calls, and that they reach no socket
exactly when the rolls withhold every copy. -/
structure Rolls (deps : ChaosMiddlewareDeps) (before after : ChaosMiddleware) (count : Nat) :
    Prop where
  config : after.config = before.config
  drawn : after.drawn = rollsEnd deps before.config count before.drawn
  reached : ∃ added, after.reached = before.reached ++ added ∧
    (added = [] ↔ Withholds deps before.config count before.drawn)

section Rolls

variable {deps : ChaosMiddlewareDeps} {chaos before middle after : ChaosMiddleware}
  {first second : Nat} (now : ℚ)

/-- The dispatches reach nobody exactly when all of them are withheld. -/
theorem Rolls.reached_iff (rolls : Rolls deps before after first) :
    after.reached = before.reached ↔ Withholds deps before.config first before.drawn := by
  obtain ⟨added, same, none⟩ := rolls.reached
  rw [same, List.append_right_eq_self, none]

/-- One batch of dispatches may follow another. -/
theorem Rolls.trans (early : Rolls deps before middle first)
    (late : Rolls deps middle after second) : Rolls deps before after (first + second) where
  config := late.config.trans early.config
  drawn := by rw [late.drawn, early.config, early.drawn, rollsEnd_add]
  reached := by
    obtain ⟨added, same, none⟩ := early.reached
    obtain ⟨more, same', none'⟩ := late.reached
    refine ⟨added ++ more, by rw [same', same, List.append_assoc], ?_⟩
    rw [List.append_eq_nil_iff, none, none', withholds_add, early.config, early.drawn]

theorem rolls_refl (chaos : ChaosMiddleware) : Rolls deps chaos chaos 0 where
  config := rfl
  drawn := rfl
  reached := ⟨[], (List.append_nil _).symm, by simp [Withholds]⟩

/-- A copy reaches the socket when it has no delay. -/
theorem leave_reached (chaos : ChaosMiddleware) (pid : ParticipantId) (queued : QueuedSend)
    (delay : ℚ) :
    ∃ added, (chaos.leave now pid queued delay).reached = chaos.reached ++ added ∧
      (added = [] ↔ 0 < delay) := by
  rw [leave]
  split
  · next atOnce =>
      refine ⟨[.rawSend queued, .onDeliver pid queued now], ?_, ?_⟩
      · simp [reached, write, report, ChaosReport.reaches]
      · simp [atOnce]
  · next later => exact ⟨[], (List.append_nil _).symm, by simpa using later⟩

/-- An outcome reaches somebody unless it is a withheld one. -/
theorem settle_reached (chaos : ChaosMiddleware) (pid : ParticipantId) (queued : QueuedSend)
    (outcome : ChaosOutcome) :
    ∃ added, (chaos.settle now pid queued outcome).reached = chaos.reached ++ added ∧
      (added = [] ↔ outcome.Withheld) := by
  cases outcome with
  | dropped =>
      refine ⟨[], ?_, by simp [ChaosOutcome.Withheld]⟩
      simp [settle, reached, report, ChaosReport.reaches]
  | sent delay => exact leave_reached now chaos pid queued delay
  | duplicated delay again =>
      obtain ⟨added, same, none⟩ := leave_reached now chaos pid queued delay
      obtain ⟨more, same', none'⟩ := leave_reached now
        ((chaos.leave now pid queued delay).report (.onDuplicate pid queued)) pid queued again
      have noted : ((chaos.leave now pid queued delay).report (.onDuplicate pid queued)).reached =
          (chaos.leave now pid queued delay).reached := by
        simp [reached, report, ChaosReport.reaches]
      refine ⟨added ++ more, ?_, ?_⟩
      · rw [settle, same', noted, same, List.append_assoc]
      · rw [List.append_eq_nil_iff, none, none', ChaosOutcome.Withheld]

/-- An outcome does not change the faults that are configured. -/
@[simp] theorem settle_config (chaos : ChaosMiddleware) (pid : ParticipantId) (queued : QueuedSend)
    (outcome : ChaosOutcome) : (chaos.settle now pid queued outcome).config = chaos.config := by
  cases outcome with
  | dropped => rfl
  | sent delay => exact leave_config ..
  | duplicated delay again =>
      rw [settle, leave_config]
      exact leave_config ..

/-- An outcome draws no number any more. -/
@[simp] theorem settle_drawn (chaos : ChaosMiddleware) (pid : ParticipantId) (queued : QueuedSend)
    (outcome : ChaosOutcome) : (chaos.settle now pid queued outcome).drawn = chaos.drawn := by
  cases outcome with
  | dropped => rfl
  | sent delay => exact leave_drawn ..
  | duplicated delay again =>
      rw [settle, leave_drawn]
      exact leave_drawn ..

/-- A dispatch is one batch of rolls. -/
theorem rolls_dispatch (chaos : ChaosMiddleware) (pid : ParticipantId) (queued : QueuedSend) :
    Rolls deps chaos (chaos.dispatch deps now pid queued) 1 where
  config := by rw [dispatch_eq, settle_config]; rfl
  drawn := by rw [dispatch_eq, settle_drawn]; rfl
  reached := by
    obtain ⟨added, same, none⟩ := settle_reached now
      (chaos.redrawn (rollOutcome deps chaos.config chaos.drawn).2) pid queued
      (rollOutcome deps chaos.config chaos.drawn).1
    refine ⟨added, ?_, ?_⟩
    · rw [dispatch_eq]
      exact same
    · rw [none, Withholds, Withholds, and_true]

/-- Dispatching a buffer is one batch of rolls for each message in it. -/
theorem rolls_foldl_dispatch (buffer : List QueuedSend) (chaos : ChaosMiddleware)
    (target : ParticipantId) :
    Rolls deps chaos (buffer.foldl (fun chaos queued => chaos.dispatch deps now target queued) chaos)
      buffer.length := by
  induction buffer generalizing chaos with
  | nil => exact rolls_refl chaos
  | cons queued buffer ih =>
      have first : Rolls deps chaos (chaos.dispatch deps now target queued) 1 :=
        rolls_dispatch now chaos target queued
      rw [List.length_cons, Nat.add_comm]
      exact first.trans (ih _)

/-- Flushing a participant is dispatching its buffer. -/
theorem rolls_flushTarget (chaos : ChaosMiddleware) (target : ParticipantId) :
    Rolls deps chaos (chaos.flushTarget deps now target)
      ((chaos.reorderBuffers.get? target).getD []).length := by
  rw [flushTarget]
  cases h : chaos.reorderBuffers.get? target with
  | none => exact rolls_refl chaos
  | some buffer =>
      have rest : Rolls deps { chaos with reorderBuffers := chaos.reorderBuffers.delete target } _ _ :=
        rolls_foldl_dispatch now buffer _ target
      exact ⟨rest.config, rest.drawn, rest.reached⟩

/-- A flush of one buffer leaves the others. -/
theorem flushTarget_get? (chaos : ChaosMiddleware) (target : ParticipantId) {other : ParticipantId}
    (h : other ≠ target) :
    (chaos.flushTarget deps now target).reorderBuffers.get? other =
      chaos.reorderBuffers.get? other := by
  have kept : ∀ (buffer : List QueuedSend) (chaos : ChaosMiddleware),
      (buffer.foldl (fun chaos queued => chaos.dispatch deps now target queued)
        chaos).reorderBuffers = chaos.reorderBuffers := by
    intro buffer
    induction buffer with
    | nil => exact fun _ => rfl
    | cons queued buffer ih =>
        intro chaos
        rw [List.foldl_cons, ih, dispatch_reorderBuffers]
  rw [flushTarget]
  split
  · rfl
  · rw [kept, JsMap.get?_delete_ne _ h]

/-- Flushing several participants is dispatching their buffers, one after the other. -/
theorem rolls_foldl_flushTarget {targets : List ParticipantId} (distinct : targets.Nodup)
    (chaos : ChaosMiddleware) :
    Rolls deps chaos (targets.foldl (flushTarget deps now) chaos)
      (targets.flatMap fun target => (chaos.reorderBuffers.get? target).getD []).length := by
  induction targets generalizing chaos with
  | nil => exact rolls_refl chaos
  | cons target targets ih =>
      rw [List.nodup_cons] at distinct
      have rest := ih distinct.2 (chaos.flushTarget deps now target)
      have same : (targets.flatMap fun other =>
          ((chaos.flushTarget deps now target).reorderBuffers.get? other).getD []) =
            targets.flatMap fun other => (chaos.reorderBuffers.get? other).getD [] := by
        apply List.flatMap_congr
        intro other ho
        rw [flushTarget_get?]
        rintro rfl
        exact distinct.1 ho
      rw [same] at rest
      rw [List.flatMap_cons, List.length_append]
      exact (rolls_flushTarget now chaos target).trans rest

/-- A flush dispatches what it takes out of the buffers. -/
theorem rolls_flush (chaos : ChaosMiddleware) (pid : Option ParticipantId) :
    Rolls deps chaos (chaos.flush deps now pid) (chaos.flushed pid).length := by
  cases pid with
  | some pid =>
      have rolls : Rolls deps chaos ([pid].foldl (flushTarget deps now) chaos) _ :=
        rolls_foldl_flushTarget now (List.nodup_singleton pid) chaos
      rw [List.flatMap_singleton] at rolls
      exact rolls
  | none =>
      have rolls : Rolls deps chaos (chaos.reorderBuffers.keys.foldl (flushTarget deps now) chaos) _ :=
        rolls_foldl_flushTarget now chaos.reorderBuffers.nodup_keys chaos
      rw [List.flatMap_def, JsMap.keys_map_get?] at rolls
      exact rolls

/-- A timer reaches nobody when what it releases is withheld, and always reaches
somebody when it delivers. -/
theorem fire_reached_iff (chaos : ChaosMiddleware) (index : Nat) :
    (chaos.fire deps now index).reached = chaos.reached ↔
      match chaos.timers[index]? with
      | none => True
      | some timer =>
        match timer.callback with
        | .deliver _ _ => False
        | .releaseIfStillBuffered pid entry =>
          entry ∈ (chaos.reorderBuffers.get? pid).getD [] →
            Withholds deps chaos.config 1 chaos.drawn := by
  rw [fire]
  cases h : chaos.timers[index]? with
  | none => simp
  | some timer =>
      obtain ⟨dueAt, callback⟩ := timer
      cases callback with
      | deliver pid queued =>
          simp [call, write, report, reached, ChaosReport.reaches, List.filter_append]
      | releaseIfStillBuffered pid entry =>
          dsimp only [call]
          rw [releaseIfStillBuffered]
          dsimp only
          cases stored : chaos.reorderBuffers.get? pid with
          | none => simp [reached]
          | some buffer =>
              dsimp only
              cases found : buffer.idxOf? entry with
              | none =>
                  have notHere := List.idxOf?_eq_none_iff.mp found
                  simp [notHere, reached]
              | some place =>
                  obtain ⟨within, here, _⟩ := List.idxOf?_eq_some_iff.mp found
                  have held : entry ∈ buffer := by
                    have same : buffer[place] = entry := by simpa using here
                    rw [← same]
                    exact List.getElem_mem within
                  have rolls : Rolls deps
                      { chaos with
                        timers := chaos.timers.eraseIdx index
                        reorderBuffers := chaos.reorderBuffers.set pid (buffer.eraseIdx place) }
                      _ 1 := rolls_dispatch now _ pid entry
                  rw [Option.getD_some, forall_prop_of_true held]
                  exact rolls.reached_iff

/-- An event is silent exactly when whatever it dispatches is withheld and it
delivers nothing. -/
theorem silent_iff (chaos : ChaosMiddleware) (timed : TimedChaosEvent) :
    chaos.Silent deps timed ↔ chaos.Contained deps timed := by
  apply imp_congr_right
  intro partitioned
  rw [step]
  cases he : timed.event with
  | send pid message =>
      have still : isPartitioned timed.now { chaos with sent := chaos.sent + 1 } = true := partitioned
      dsimp only
      rw [send]
      dsimp only
      rw [if_pos still]
      simp [reached, report, ChaosReport.reaches]
  | configure changes => simp [configure, reached]
  | startPartition durationMs => simp [startPartition, reached]
  | flush pid => exact (rolls_flush timed.now chaos pid).reached_iff
  | timer index => exact fire_reached_iff timed.now chaos index

end Rolls

/-- Nothing reaches a socket during any partition of a run exactly when nothing
that was buffered or delayed is let out by a timer or a flush. -/
theorem silent_always_iff (deps : ChaosMiddlewareDeps) (events : List TimedChaosEvent) :
    Transition.Along (step deps) (Silent deps) {} events ↔
      Transition.Along (step deps) (Contained deps) {} events :=
  Transition.along_iff_along (I := fun _ => True) (fun _ _ _ => trivial)
    (fun chaos timed _ => chaos.silent_iff timed) trivial

/-- A clean network but for the reordering. -/
def steady : ChaosMiddlewareDeps := { random := fun _ => 0, rounded := id }

def pong : OutboundMessage := .pong { sid := ⟨"s", nonempty_s⟩, seq := 0, ts := 0, pingTs := 0 }

/-- The partition starts while a message is held for reordering. -/
def heldAcross : List TimedChaosEvent :=
  [⟨0, .configure { reorderWindow := some (.finite 5) }⟩, ⟨0, .send ⟨"a", nonempty_a⟩ pong⟩,
    ⟨100, .startPartition (.finite 10000)⟩]

/-- The fallback timer sends it. -/
theorem heldAcross_leaks :
    ¬ Transition.Along (step steady) (Silent steady) {} (heldAcross ++ [⟨200, .timer 0⟩]) := by
  intro along
  have silent := Transition.along_iff_prefix.mp along heldAcross _ (List.prefix_refl _)
  exact absurd (silent (by decide +kernel)) (by decide +kernel)

end ChaosMiddleware

end Copresence
