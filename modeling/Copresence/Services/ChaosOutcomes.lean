import Copresence.Services.ChaosMiddleware

/-! What becomes of one dispatched message, as its rolls decide. -/
namespace Copresence

open Collections

inductive ChaosOutcome where
  | dropped
  | sent (delay : ℚ)
  | duplicated (delay again : ℚ)
deriving DecidableEq

/-- The delay of one copy, and the number of the draw after it. -/
def rollDelay (deps : ChaosMiddlewareDeps) (config : ChaosConfig) (drawn : Nat) : ℚ × Nat :=
  if 0 < config.jitterMs then
    (max 0 (deps.rounded (config.latencyMs + deps.rounded
      (deps.rounded (deps.rounded (deps.random drawn * 2) - 1) * config.jitterMs))), drawn + 1)
  else (max 0 (deps.rounded (config.latencyMs + 0)), drawn)

/-- The rolls of one dispatch that begins with the draw `drawn`. -/
def rollOutcome (deps : ChaosMiddlewareDeps) (config : ChaosConfig) (drawn : Nat) :
    ChaosOutcome × Nat :=
  if deps.random drawn < config.dropRate then (.dropped, drawn + 1)
  else
    let first := rollDelay deps config (drawn + 1)
    if deps.random first.2 < config.duplicateRate then
      let second := rollDelay deps config (first.2 + 1)
      (.duplicated first.1 second.1, second.2)
    else (.sent first.1, first.2 + 1)

namespace ChaosMiddleware

/-- One copy leaves, now or when its delay is over. -/
def leave (now : ℚ) (pid : ParticipantId) (queued : QueuedSend) (delay : ℚ)
    (chaos : ChaosMiddleware) : ChaosMiddleware :=
  if delay ≤ 0 then chaos.write now pid queued
  else chaos.setTimeout now (.deliver pid queued) delay

def settle (now : ℚ) (pid : ParticipantId) (queued : QueuedSend) (outcome : ChaosOutcome)
    (chaos : ChaosMiddleware) : ChaosMiddleware :=
  match outcome with
  | .dropped => chaos.report (.onDrop pid queued)
  | .sent delay => chaos.leave now pid queued delay
  | .duplicated delay again =>
    ((chaos.leave now pid queued delay).report (.onDuplicate pid queued)).leave now pid queued again

/-- The same with another number of draws made. -/
def redrawn (drawn : Nat) (chaos : ChaosMiddleware) : ChaosMiddleware := { chaos with drawn }

variable (deps : ChaosMiddlewareDeps) (now : ℚ) (pid : ParticipantId) (queued : QueuedSend)
  (chaos : ChaosMiddleware)

/-- What neither a write nor a timer changes, a copy that leaves does not change. -/
theorem leave_keeps {β : Type} (look : ChaosMiddleware → β) (delay : ℚ)
    (written : ∀ chaos : ChaosMiddleware, look (chaos.write now pid queued) = look chaos)
    (scheduled : ∀ (chaos : ChaosMiddleware) callback ms,
      look (chaos.setTimeout now callback ms) = look chaos) :
    look (chaos.leave now pid queued delay) = look chaos := by
  rw [leave]
  split
  · exact written chaos
  · exact scheduled chaos _ _

/-- Nor does a whole dispatch, where a callback does not change it either. -/
theorem settle_keeps {β : Type} (look : ChaosMiddleware → β) (outcome : ChaosOutcome)
    (written : ∀ chaos : ChaosMiddleware, look (chaos.write now pid queued) = look chaos)
    (scheduled : ∀ (chaos : ChaosMiddleware) callback ms,
      look (chaos.setTimeout now callback ms) = look chaos)
    (reported : ∀ (chaos : ChaosMiddleware) call, look (chaos.report call) = look chaos) :
    look (chaos.settle now pid queued outcome) = look chaos := by
  have left : ∀ (chaos : ChaosMiddleware) delay,
      look (chaos.leave now pid queued delay) = look chaos := fun chaos delay =>
    leave_keeps now pid queued chaos look delay written scheduled
  cases outcome with
  | dropped => exact reported chaos _
  | sent delay => exact left chaos delay
  | duplicated delay again => rw [settle, left, reported, left]

@[simp] theorem leave_config (delay : ℚ) :
    (chaos.leave now pid queued delay).config = chaos.config :=
  leave_keeps now pid queued chaos config delay (fun _ => rfl) fun _ _ _ => rfl

@[simp] theorem leave_drawn (delay : ℚ) :
    (chaos.leave now pid queued delay).drawn = chaos.drawn :=
  leave_keeps now pid queued chaos drawn delay (fun _ => rfl) fun _ _ _ => rfl

/-- Sending a message on draws no number. -/
@[simp] theorem redrawn_leave (delay : ℚ) (drawn : Nat) :
    (chaos.leave now pid queued delay).redrawn drawn =
      (chaos.redrawn drawn).leave now pid queued delay := by
  rw [leave, leave]
  split
  · rfl
  · rfl

@[simp] theorem report_config (call : ChaosReport) : (chaos.report call).config = chaos.config := rfl

@[simp] theorem report_drawn (call : ChaosReport) : (chaos.report call).drawn = chaos.drawn := rfl

/-- A report draws no number. -/
@[simp] theorem redrawn_report (call : ChaosReport) (drawn : Nat) :
    (chaos.report call).redrawn drawn = (chaos.redrawn drawn).report call := rfl

@[simp] theorem redrawn_redrawn (first second : Nat) :
    (chaos.redrawn first).redrawn second = chaos.redrawn second := rfl

@[simp] theorem redrawn_drawn (drawn : Nat) : (chaos.redrawn drawn).drawn = drawn := rfl

@[simp] theorem redrawn_config (drawn : Nat) : (chaos.redrawn drawn).config = chaos.config := rfl

/-- A roll takes the next number and draws one more. -/
theorem random_eq :
    chaos.random deps = (deps.random chaos.drawn, chaos.redrawn (chaos.drawn + 1)) := rfl

/-- A delivery rolls for its delay and sends on after it. -/
theorem deliver_eq :
    chaos.deliver deps now pid queued =
      (chaos.redrawn (rollDelay deps chaos.config chaos.drawn).2).leave now pid queued
        (rollDelay deps chaos.config chaos.drawn).1 := by
  rw [deliver, rollDelay]
  by_cases jittered : 0 < chaos.config.jitterMs
  · simp only [if_pos jittered]
    rfl
  · simp only [if_neg jittered]
    rfl

/-- A dispatch is its rolls and what they lead to. -/
theorem dispatch_eq :
    chaos.dispatch deps now pid queued =
      (chaos.redrawn (rollOutcome deps chaos.config chaos.drawn).2).settle now pid queued
        (rollOutcome deps chaos.config chaos.drawn).1 := by
  rw [dispatch, rollOutcome]
  simp only [random_eq, deliver_eq, leave_config, leave_drawn, redrawn_leave, redrawn_redrawn,
    redrawn_drawn, redrawn_config]
  by_cases drop : deps.random chaos.drawn < chaos.config.dropRate
  · rw [if_pos drop, if_pos drop]
    rfl
  · rw [if_neg drop, if_neg drop]
    split
    · simp only [report_config, report_drawn, redrawn_report, redrawn_leave, redrawn_redrawn,
        leave_config, leave_drawn, redrawn_drawn, redrawn_config]
      rfl
    · rfl

/-- An outcome moves no buffer. -/
@[simp] theorem settle_reorderBuffers (outcome : ChaosOutcome) :
    (chaos.settle now pid queued outcome).reorderBuffers = chaos.reorderBuffers :=
  settle_keeps now pid queued chaos reorderBuffers outcome (fun _ => rfl) (fun _ _ _ => rfl)
    fun _ _ => rfl

/-- An outcome sends nothing of its own. -/
@[simp] theorem settle_sent (outcome : ChaosOutcome) :
    (chaos.settle now pid queued outcome).sent = chaos.sent :=
  settle_keeps now pid queued chaos sent outcome (fun _ => rfl) (fun _ _ _ => rfl) fun _ _ => rfl

section Appended

variable {α : Type} {P : α → Prop} {before middle after : List α}

/-- Nothing was appended. -/
theorem appended_refl (items : List α) : ∃ more, items = items ++ more ∧ ∀ item ∈ more, P item := by
  refine ⟨[], (List.append_nil _).symm, ?_⟩
  intro item h
  cases h

/-- What is appended twice is appended. -/
theorem appended_trans (first : ∃ more, middle = before ++ more ∧ ∀ item ∈ more, P item)
    (second : ∃ more, after = middle ++ more ∧ ∀ item ∈ more, P item) :
    ∃ more, after = before ++ more ∧ ∀ item ∈ more, P item := by
  obtain ⟨early, rfl, hEarly⟩ := first
  obtain ⟨late, rfl, hLate⟩ := second
  refine ⟨early ++ late, List.append_assoc _ _ _, ?_⟩
  intro item h
  rcases List.mem_append.mp h with h | h
  · exact hEarly item h
  · exact hLate item h

end Appended

/-- The timers of the copies that wait are set behind the others. -/
theorem leave_timers (delay : ℚ) :
    ∃ more, (chaos.leave now pid queued delay).timers = chaos.timers ++ more ∧
      ∀ timer ∈ more, timer.callback = .deliver pid queued := by
  rw [leave]
  split
  · exact appended_refl chaos.timers
  · refine ⟨_, rfl, ?_⟩
    intro timer ht
    rw [List.mem_singleton.mp ht]

/-- All timers an outcome sets are for deliveries of its message. -/
theorem settle_timers (outcome : ChaosOutcome) :
    ∃ more, (chaos.settle now pid queued outcome).timers = chaos.timers ++ more ∧
      ∀ timer ∈ more, timer.callback = .deliver pid queued := by
  cases outcome with
  | dropped => exact appended_refl chaos.timers
  | sent delay => exact leave_timers ..
  | duplicated delay again =>
      have first := leave_timers now pid queued chaos delay
      have second := leave_timers now pid queued
        ((chaos.leave now pid queued delay).report (.onDuplicate pid queued)) again
      exact appended_trans first second

/-- All timers a dispatch sets are for deliveries of its message. -/
theorem dispatch_timers :
    ∃ more, (chaos.dispatch deps now pid queued).timers = chaos.timers ++ more ∧
      ∀ timer ∈ more, timer.callback = .deliver pid queued := by
  rw [dispatch_eq]
  exact settle_timers ..

/-- A dispatched message is in no buffer and moves none. -/
@[simp] theorem dispatch_reorderBuffers :
    (chaos.dispatch deps now pid queued).reorderBuffers = chaos.reorderBuffers := by
  rw [dispatch_eq, settle_reorderBuffers]
  rfl

/-- A dispatch is no new message. -/
@[simp] theorem dispatch_sent : (chaos.dispatch deps now pid queued).sent = chaos.sent := by
  rw [dispatch_eq, settle_sent]
  rfl

end ChaosMiddleware

end Copresence
