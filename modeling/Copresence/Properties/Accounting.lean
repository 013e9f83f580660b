import Copresence.Lib.Run
import Copresence.Services.ChaosOutcomes

/-! Every message handed to the middleware is held, dropped or dispatched, and
never two of these. -/
namespace Copresence

open Collections

namespace ChaosMiddleware

/-- Everything held for reordering. -/
def buffered (chaos : ChaosMiddleware) : List QueuedSend := chaos.reorderBuffers.values.flatten

/-! For the message that the call `n` of `send` passed: how often it is held,
how often each callback was called for it, and how many of its copies wait for
their latency timers. -/

def heldCount (chaos : ChaosMiddleware) (n : Nat) : Nat :=
  chaos.buffered.countP fun entry => entry.rawSend = n

def rawSendCount (chaos : ChaosMiddleware) (n : Nat) : Nat :=
  chaos.reports.countP fun call =>
    match call with
    | .rawSend queued => queued.rawSend = n
    | _ => false

def onDeliverCount (chaos : ChaosMiddleware) (n : Nat) : Nat :=
  chaos.reports.countP fun call =>
    match call with
    | .onDeliver _ queued _ => queued.rawSend = n
    | _ => false

def onDropCount (chaos : ChaosMiddleware) (n : Nat) : Nat :=
  chaos.reports.countP fun call =>
    match call with
    | .onDrop _ queued => queued.rawSend = n
    | _ => false

def onDuplicateCount (chaos : ChaosMiddleware) (n : Nat) : Nat :=
  chaos.reports.countP fun call =>
    match call with
    | .onDuplicate _ queued => queued.rawSend = n
    | _ => false

def pendingCount (chaos : ChaosMiddleware) (n : Nat) : Nat :=
  chaos.timers.countP fun timer =>
    match timer.callback with
    | .deliver _ queued => queued.rawSend = n
    | _ => false

/-- How many fallback timers of the message have not fired. -/
def fallbackCount (chaos : ChaosMiddleware) (n : Nat) : Nat :=
  chaos.timers.countP fun timer =>
    match timer.callback with
    | .releaseIfStillBuffered _ entry => entry.rawSend = n
    | _ => false

/-- Held once, and nothing was called for it yet. -/
def Held (chaos : ChaosMiddleware) (n : Nat) : Prop :=
  chaos.heldCount n = 1 ∧ chaos.onDropCount n = 0 ∧ chaos.rawSendCount n = 0 ∧
    chaos.onDeliverCount n = 0 ∧ chaos.onDuplicateCount n = 0 ∧ chaos.pendingCount n = 0

def Dropped (chaos : ChaosMiddleware) (n : Nat) : Prop :=
  chaos.heldCount n = 0 ∧ chaos.onDropCount n = 1 ∧ chaos.rawSendCount n = 0 ∧
    chaos.onDeliverCount n = 0 ∧ chaos.onDuplicateCount n = 0 ∧ chaos.pendingCount n = 0

/-- Each copy was sent, or waits for its latency timer. -/
def Dispatched (chaos : ChaosMiddleware) (n : Nat) : Prop :=
  chaos.heldCount n = 0 ∧ chaos.onDropCount n = 0 ∧
    chaos.rawSendCount n + chaos.pendingCount n = 1 + chaos.onDuplicateCount n ∧
    chaos.onDuplicateCount n ≤ 1 ∧ chaos.onDeliverCount n = chaos.rawSendCount n

/-- Every message is where it should be, those in hand being taken out of a
buffer or not yet put into one. -/
def Accounts (chaos : ChaosMiddleware) (inHand : List QueuedSend) : Prop :=
  ∀ n, ∃ dispatched,
    chaos.heldCount n + inHand.countP (fun entry => entry.rawSend = n) + chaos.onDropCount n +
        dispatched = (if n < chaos.sent then 1 else 0) ∧
      chaos.rawSendCount n + chaos.pendingCount n = dispatched + chaos.onDuplicateCount n ∧
      chaos.onDuplicateCount n ≤ dispatched ∧ chaos.onDeliverCount n = chaos.rawSendCount n

/-- A drop is counted once, as a drop. -/
theorem report_onDrop_counts (chaos : ChaosMiddleware) (pid : ParticipantId)
    (queued : QueuedSend) (n : Nat) :
    (chaos.report (.onDrop pid queued)).onDropCount n =
        chaos.onDropCount n + (if queued.rawSend = n then 1 else 0) ∧
      (chaos.report (.onDrop pid queued)).rawSendCount n = chaos.rawSendCount n ∧
      (chaos.report (.onDrop pid queued)).onDeliverCount n = chaos.onDeliverCount n ∧
      (chaos.report (.onDrop pid queued)).onDuplicateCount n = chaos.onDuplicateCount n := by
  simp [report, rawSendCount, onDeliverCount, onDropCount, onDuplicateCount, List.countP_append,
    List.countP_singleton]

/-- A second copy is announced without being counted as a delivery. -/
theorem report_onDuplicate_counts (chaos : ChaosMiddleware) (pid : ParticipantId)
    (queued : QueuedSend) (n : Nat) :
    (chaos.report (.onDuplicate pid queued)).onDropCount n = chaos.onDropCount n ∧
      (chaos.report (.onDuplicate pid queued)).rawSendCount n = chaos.rawSendCount n ∧
      (chaos.report (.onDuplicate pid queued)).onDeliverCount n = chaos.onDeliverCount n ∧
      (chaos.report (.onDuplicate pid queued)).onDuplicateCount n =
        chaos.onDuplicateCount n + (if queued.rawSend = n then 1 else 0) := by
  simp [report, rawSendCount, onDeliverCount, onDropCount, onDuplicateCount, List.countP_append,
    List.countP_singleton]

/-- A message that is written is counted once, as written and as delivered. -/
theorem write_counts (chaos : ChaosMiddleware) (now : ℚ) (pid : ParticipantId)
    (queued : QueuedSend) (n : Nat) :
    (chaos.write now pid queued).rawSendCount n =
        chaos.rawSendCount n + (if queued.rawSend = n then 1 else 0) ∧
      (chaos.write now pid queued).onDeliverCount n =
        chaos.onDeliverCount n + (if queued.rawSend = n then 1 else 0) ∧
      (chaos.write now pid queued).onDropCount n = chaos.onDropCount n ∧
      (chaos.write now pid queued).onDuplicateCount n = chaos.onDuplicateCount n := by
  simp [write, report, rawSendCount, onDeliverCount, onDropCount, onDuplicateCount,
    List.countP_append, List.countP_cons]

/-- One copy more is sent or waits, and nothing else is counted. -/
theorem leave_counts (chaos : ChaosMiddleware) (now : ℚ) (pid : ParticipantId)
    (queued : QueuedSend) (delay : ℚ) (n : Nat) :
    ((chaos.leave now pid queued delay).rawSendCount n +
          (chaos.leave now pid queued delay).pendingCount n =
        chaos.rawSendCount n + chaos.pendingCount n + if queued.rawSend = n then 1 else 0) ∧
      (chaos.leave now pid queued delay).onDeliverCount n + chaos.rawSendCount n =
        chaos.onDeliverCount n + (chaos.leave now pid queued delay).rawSendCount n ∧
      (chaos.leave now pid queued delay).onDropCount n = chaos.onDropCount n ∧
      (chaos.leave now pid queued delay).onDuplicateCount n = chaos.onDuplicateCount n := by
  rw [leave]
  split
  · obtain ⟨written, delivers, drops, again⟩ := write_counts chaos now pid queued n
    have waiting : (chaos.write now pid queued).pendingCount n = chaos.pendingCount n := rfl
    omega
  · simp only [setTimeout, rawSendCount, pendingCount, onDeliverCount, onDropCount,
      onDuplicateCount, List.countP_append, List.countP_singleton]
    simp
    omega

/-- What is held is what stands in the buffers. -/
theorem heldCount_congr {chaos after : ChaosMiddleware}
    (h : after.reorderBuffers = chaos.reorderBuffers) (n : Nat) :
    after.heldCount n = chaos.heldCount n := by
  rw [heldCount, buffered, h]
  rfl

section Accounts

variable {deps : ChaosMiddlewareDeps} {chaos : ChaosMiddleware} {inHand : List QueuedSend}

/-- A dispatch takes one message out of the hand. -/
theorem Accounts.settle {queued : QueuedSend} (accounts : chaos.Accounts (queued :: inHand))
    (now : ℚ) (pid : ParticipantId) (outcome : ChaosOutcome) :
    (chaos.settle now pid queued outcome).Accounts inHand := by
  intro n
  obtain ⟨dispatched, one, copies, duplicates, delivered⟩ := accounts n
  have held := heldCount_congr (chaos.settle_reorderBuffers now pid queued outcome) n
  have sent := chaos.settle_sent now pid queued outcome
  have taken : List.countP (fun entry => entry.rawSend = n) (queued :: inHand) =
      List.countP (fun entry => entry.rawSend = n) inHand +
        (if queued.rawSend = n then 1 else 0) := by
    rw [List.countP_cons]
    simp
  rw [taken] at one
  rw [held, sent]
  cases outcome with
  | dropped =>
      obtain ⟨drops, written, delivers, again⟩ := report_onDrop_counts chaos pid queued n
      rw [ChaosMiddleware.settle]
      refine ⟨dispatched, ?_, ?_, ?_, ?_⟩
      · rw [drops]
        omega
      · rw [written, again]
        exact copies
      · rw [again]
        exact duplicates
      · rw [delivers, written]
        exact delivered
  | sent delay =>
      obtain ⟨copy, delivers, drops, again⟩ := leave_counts chaos now pid queued delay n
      rw [ChaosMiddleware.settle]
      refine ⟨dispatched + if queued.rawSend = n then 1 else 0, ?_, ?_, ?_, ?_⟩
      · rw [drops]
        omega
      · rw [copy, again]
        omega
      · rw [again]
        omega
      · omega
  | duplicated delay second =>
      obtain ⟨copy, delivers, drops, again⟩ := leave_counts chaos now pid queued delay n
      obtain ⟨drops', written', delivers', again'⟩ :=
        report_onDuplicate_counts (chaos.leave now pid queued delay) pid queued n
      obtain ⟨copy'', delivers'', drops'', again''⟩ :=
        leave_counts ((chaos.leave now pid queued delay).report (.onDuplicate pid queued)) now pid
          queued second n
      have waiting : ((chaos.leave now pid queued delay).report
          (.onDuplicate pid queued)).pendingCount n =
            (chaos.leave now pid queued delay).pendingCount n := rfl
      rw [ChaosMiddleware.settle]
      refine ⟨dispatched + if queued.rawSend = n then 1 else 0, ?_, ?_, ?_, ?_⟩
      · omega
      · omega
      · omega
      · omega

/-- A message is held at most once. -/
theorem Accounts.heldCount_le (accounts : chaos.Accounts inHand) (n : Nat) :
    chaos.heldCount n ≤ 1 := by
  obtain ⟨dispatched, one, _⟩ := accounts n
  split at one
  · omega
  · omega

/-- A message in hand that is dispatched is written, delayed or dropped, and
accounted for. -/
theorem Accounts.dispatch {queued : QueuedSend} (accounts : chaos.Accounts (queued :: inHand))
    (now : ℚ) (pid : ParticipantId) : (chaos.dispatch deps now pid queued).Accounts inHand := by
  rw [dispatch_eq]
  have rolled : (chaos.redrawn (rollOutcome deps chaos.config chaos.drawn).2).Accounts
      (queued :: inHand) := accounts
  exact rolled.settle now pid _

end Accounts

section Buffers

variable (chaos : ChaosMiddleware) (pid : ParticipantId)

/-- What is held for everybody else. -/
def heldElsewhere : List QueuedSend := (chaos.reorderBuffers.delete pid).values.flatten

/-- All that is held is one participant's buffer and everybody else's. -/
theorem perm_buffered :
    chaos.buffered.Perm
      ((chaos.reorderBuffers.get? pid).getD [] ++ chaos.heldElsewhere pid) := by
  rw [buffered, heldElsewhere]
  cases h : chaos.reorderBuffers.get? pid with
  | none => rw [JsMap.delete_of_get?_none h, Option.getD_none, List.nil_append]
  | some buffer => exact (JsMap.perm_values_of_get? h).flatten

/-- Writing one buffer replaces that part and no other. -/
theorem perm_buffered_set (buffer : List QueuedSend) :
    { chaos with reorderBuffers := chaos.reorderBuffers.set pid buffer }.buffered.Perm
      (buffer ++ chaos.heldElsewhere pid) := by
  have h := perm_buffered { chaos with reorderBuffers := chaos.reorderBuffers.set pid buffer } pid
  rw [heldElsewhere, JsMap.get?_set_self, JsMap.delete_set] at h
  exact h

variable {chaos pid}

/-- Whatever is held stands in somebody's buffer. -/
theorem mem_buffered_iff {entry : QueuedSend} :
    entry ∈ chaos.buffered ↔
      ∃ pid buffer, chaos.reorderBuffers.get? pid = some buffer ∧ entry ∈ buffer := by
  rw [buffered, List.mem_flatten]
  simp only [JsMap.mem_values_iff]
  constructor
  · rintro ⟨buffer, ⟨pid, h⟩, he⟩
    exact ⟨pid, buffer, h, he⟩
  · rintro ⟨pid, buffer, h, he⟩
    exact ⟨buffer, ⟨pid, h⟩, he⟩

/-- One message taken out of its buffer. -/
theorem perm_buffered_splice {buffer : List QueuedSend} {index : Nat} {picked : QueuedSend}
    (stored : chaos.reorderBuffers.get? pid = some buffer) (h : buffer[index]? = some picked) :
    (picked :: { chaos with
      reorderBuffers := chaos.reorderBuffers.set pid (buffer.eraseIdx index) }.buffered).Perm
        chaos.buffered := by
  obtain ⟨within, rfl⟩ := List.getElem?_eq_some_iff.mp h
  have whole := chaos.perm_buffered pid
  rw [stored, Option.getD_some] at whole
  have rest := chaos.perm_buffered_set pid (buffer.eraseIdx index)
  have taken := List.getElem_cons_eraseIdx_perm within
  exact (rest.cons _).trans ((taken.append_right _).trans whole.symm)

/-- A message in a buffer is counted as held. -/
theorem heldCount_pos_of_mem {entry : QueuedSend} (h : entry ∈ chaos.buffered) :
    0 < chaos.heldCount entry.rawSend := by
  rw [heldCount, List.countP_pos_iff]
  exact ⟨entry, h, by simp⟩

/-- Nothing is called when a message is moved between a buffer and the hand. -/
theorem Accounts.move {after : ChaosMiddleware} {inHand inHand' : List QueuedSend}
    (accounts : chaos.Accounts inHand)
    (moved : (after.buffered ++ inHand').Perm (chaos.buffered ++ inHand))
    (reports : after.reports = chaos.reports) (timers : after.timers = chaos.timers)
    (sent : after.sent = chaos.sent) : after.Accounts inHand' := by
  intro n
  obtain ⟨dispatched, one, rest⟩ := accounts n
  have counts := moved.countP_eq fun entry => entry.rawSend = n
  rw [List.countP_append, List.countP_append] at counts
  have drops : after.onDropCount n = chaos.onDropCount n := by rw [onDropCount, reports]; rfl
  have written : after.rawSendCount n = chaos.rawSendCount n := by rw [rawSendCount, reports]; rfl
  have delivers : after.onDeliverCount n = chaos.onDeliverCount n := by
    rw [onDeliverCount, reports]
    rfl
  have again : after.onDuplicateCount n = chaos.onDuplicateCount n := by
    rw [onDuplicateCount, reports]
    rfl
  have waiting : after.pendingCount n = chaos.pendingCount n := by rw [pendingCount, timers]; rfl
  refine ⟨dispatched, ?_, ?_⟩
  · rw [heldCount] at one ⊢
    rw [sent, drops, counts]
    exact one
  · rw [written, waiting, again, delivers]
    exact rest

end Buffers

section Step

variable {deps : ChaosMiddlewareDeps} {chaos : ChaosMiddleware} {inHand : List QueuedSend}
  {pid : ParticipantId} {buffer : List QueuedSend} (now : ℚ)

/-- One message is taken out of the buffer it is in, and dispatched. -/
theorem Accounts.splice (accounts : chaos.Accounts inHand)
    (stored : chaos.reorderBuffers.get? pid = some buffer) {index : Nat} {picked : QueuedSend}
    (h : buffer[index]? = some picked) :
    (({ chaos with reorderBuffers := chaos.reorderBuffers.set pid (buffer.eraseIdx index) } :
      ChaosMiddleware).dispatch deps now pid picked).Accounts inHand := by
  apply Accounts.dispatch
  apply accounts.move
  · exact List.perm_middle.trans ((perm_buffered_splice stored h).append_right inHand)
  · rfl
  · rfl
  · rfl

/-- A random release leaves nothing in hand, whatever it picks. -/
theorem Accounts.releaseRandomFrom (accounts : chaos.Accounts inHand)
    (stored : chaos.reorderBuffers.get? pid = some buffer) :
    (chaos.releaseRandomFrom deps now pid buffer).Accounts inHand := by
  have rolled : (chaos.redrawn (chaos.drawn + 1)).Accounts inHand := accounts
  rw [ChaosMiddleware.releaseRandomFrom]
  simp only [random_eq]
  split
  · exact rolled
  · next picked h => exact rolled.splice now stored h

/-- A timer set for a held message moves no message. -/
theorem Accounts.setFallback (accounts : chaos.Accounts inHand) (pid : ParticipantId)
    (entry : QueuedSend) (ms : ℚ) :
    (chaos.setTimeout now (.releaseIfStillBuffered pid entry) ms).Accounts inHand := by
  intro n
  have waiting : (chaos.setTimeout now (.releaseIfStillBuffered pid entry) ms).pendingCount n =
      chaos.pendingCount n := by
    simp [pendingCount, setTimeout, List.countP_append]
  rw [waiting]
  exact accounts n

/-- A new message is in hand until it is dropped, dispatched or buffered. -/
theorem Accounts.take (accounts : chaos.Accounts []) (message : OutboundMessage) :
    Accounts { chaos with sent := chaos.sent + 1 } [{ message, rawSend := chaos.sent }] := by
  intro n
  obtain ⟨dispatched, one, copies, duplicates, delivered⟩ := accounts n
  refine ⟨dispatched, ?_, copies, duplicates, delivered⟩
  change chaos.heldCount n + List.countP _ [_] + chaos.onDropCount n + dispatched =
    if n < chaos.sent + 1 then 1 else 0
  rw [List.countP_nil] at one
  rw [List.countP_singleton]
  by_cases here : n = chaos.sent
  · subst here
    simp at one ⊢
    omega
  · have other : ¬ chaos.sent = n := fun h => here h.symm
    have same : n < chaos.sent + 1 ↔ n < chaos.sent := by omega
    simp only [other, same, decide_false, Bool.false_eq_true, if_false]
    exact one

/-- A message that is sent is one more to account for, and is accounted for. -/
theorem Accounts.send (accounts : chaos.Accounts []) (pid : ParticipantId)
    (message : OutboundMessage) : (chaos.send deps now pid message).Accounts [] := by
  have taken := accounts.take message
  rw [ChaosMiddleware.send]
  dsimp only
  split
  · exact taken.settle now pid .dropped
  · split
    · exact taken.dispatch now pid
    · apply Accounts.setFallback
      have pushed : Accounts
          { chaos with
            sent := chaos.sent + 1
            reorderBuffers := chaos.reorderBuffers.set pid
              ((chaos.reorderBuffers.get? pid).getD [] ++ [{ message, rawSend := chaos.sent }]) }
          [] := by
        apply taken.move
        · have whole := chaos.perm_buffered pid
          have rest := chaos.perm_buffered_set pid
            ((chaos.reorderBuffers.get? pid).getD [] ++ [{ message, rawSend := chaos.sent }])
          rw [List.append_nil]
          apply rest.trans
          rw [List.append_assoc]
          exact (List.perm_middle.trans (List.perm_append_singleton _ _).symm).trans
            (whole.symm.append_right _)
        · rfl
        · rfl
        · rfl
      split
      · exact pushed.releaseRandomFrom now (JsMap.get?_set_self ..)
      · exact pushed

/-- A fallback timer moves its message from the buffer to the dispatch, or finds it gone. -/
theorem Accounts.releaseIfStillBuffered (accounts : chaos.Accounts inHand) (pid : ParticipantId)
    (entry : QueuedSend) : (chaos.releaseIfStillBuffered deps now pid entry).Accounts inHand := by
  rw [ChaosMiddleware.releaseIfStillBuffered]
  split
  · exact accounts
  · next buffer stored =>
      split
      · exact accounts
      · next index found =>
          obtain ⟨within, here, _⟩ := List.idxOf?_eq_some_iff.mp found
          apply accounts.splice now stored
          rw [List.getElem?_eq_getElem within]
          exact congrArg some (by simpa using here)

/-- Everything in hand is dispatched, one after the other. -/
theorem Accounts.foldl_dispatch (accounts : chaos.Accounts (buffer ++ inHand))
    (target : ParticipantId) :
    (buffer.foldl (fun chaos queued => chaos.dispatch deps now target queued) chaos).Accounts
      inHand := by
  induction buffer generalizing chaos with
  | nil => exact accounts
  | cons queued buffer ih => exact ih (accounts.dispatch now target)

/-- Flushing somebody's buffer dispatches all of it. -/
theorem Accounts.flushTarget (accounts : chaos.Accounts inHand) (target : ParticipantId) :
    (chaos.flushTarget deps now target).Accounts inHand := by
  rw [ChaosMiddleware.flushTarget]
  split
  · exact accounts
  · next buffer stored =>
      apply Accounts.foldl_dispatch
      apply accounts.move
      · have whole := chaos.perm_buffered target
        rw [stored, Option.getD_some] at whole
        rw [← List.append_assoc]
        exact (List.perm_append_comm.trans whole.symm).append_right inHand
      · rfl
      · rfl
      · rfl

/-- Flushing everybody is flushing one after the other. -/
theorem Accounts.flush (accounts : chaos.Accounts inHand) (pid : Option ParticipantId) :
    (chaos.flush deps now pid).Accounts inHand := by
  have targets : ∀ targets : List ParticipantId, ∀ chaos : ChaosMiddleware,
      chaos.Accounts inHand → (targets.foldl (ChaosMiddleware.flushTarget deps now) chaos).Accounts
        inHand := by
    intro targets
    induction targets with
    | nil => exact fun _ accounts => accounts
    | cons target targets ih => exact fun _ accounts => ih _ (accounts.flushTarget now target)
  exact targets _ chaos accounts

/-- The timers without the one that fires. -/
def unschedule (index : Nat) (chaos : ChaosMiddleware) : ChaosMiddleware :=
  { chaos with timers := chaos.timers.eraseIdx index }

/-- A timer that fires is taken off the list once. -/
theorem countP_unschedule {index : Nat} {timer : ChaosTimer}
    (h : chaos.timers[index]? = some timer) (p : ChaosTimer → Bool) :
    chaos.timers.countP p =
      (chaos.unschedule index).timers.countP p + if p timer = true then 1 else 0 := by
  obtain ⟨within, rfl⟩ := List.getElem?_eq_some_iff.mp h
  rw [← (List.getElem_cons_eraseIdx_perm within).countP_eq, List.countP_cons]
  rfl

/-- A timer is the one that fires or stays scheduled. -/
theorem eq_or_mem_unschedule {index : Nat} {fired timer : ChaosTimer}
    (h : chaos.timers[index]? = some fired) (ht : timer ∈ chaos.timers) :
    timer = fired ∨ timer ∈ (chaos.unschedule index).timers := by
  obtain ⟨within, rfl⟩ := List.getElem?_eq_some_iff.mp h
  exact List.mem_cons.mp ((List.getElem_cons_eraseIdx_perm within).mem_iff.mpr ht)

/-- A timer that fires delivers what it was set for and loses nothing. -/
theorem Accounts.fire (accounts : chaos.Accounts inHand) (index : Nat) :
    (chaos.fire deps now index).Accounts inHand := by
  rw [ChaosMiddleware.fire]
  split
  · exact accounts
  · next timer h =>
      obtain ⟨dueAt, callback⟩ := timer
      have waiting := fun n => countP_unschedule h fun timer =>
        match timer.callback with
        | .deliver _ queued => queued.rawSend = n
        | _ => false
      cases callback with
      | releaseIfStillBuffered pid entry =>
          have rest : (chaos.unschedule index).Accounts inHand := by
            intro n
            have same : (chaos.unschedule index).pendingCount n = chaos.pendingCount n :=
              (waiting n).symm
            rw [same]
            exact accounts n
          exact rest.releaseIfStillBuffered now pid entry
      | deliver pid queued =>
          intro n
          obtain ⟨dispatched, one, copies, duplicates, delivered⟩ := accounts n
          obtain ⟨written, delivers, drops, again⟩ :=
            write_counts (chaos.unschedule index) now pid queued n
          have fewer : chaos.pendingCount n = (chaos.unschedule index).pendingCount n +
              if queued.rawSend = n then 1 else 0 := by
            simpa [pendingCount] using waiting n
          refine ⟨dispatched, ?_, ?_, ?_, ?_⟩
          · exact drops ▸ one
          · change ((chaos.unschedule index).write now pid queued).rawSendCount n +
              (chaos.unschedule index).pendingCount n =
                dispatched + ((chaos.unschedule index).write now pid queued).onDuplicateCount n
            rw [written, again]
            change chaos.rawSendCount n + _ + _ = dispatched + chaos.onDuplicateCount n
            omega
          · exact again ▸ duplicates
          · rw [ChaosMiddleware.call]
            change ((chaos.unschedule index).write now pid queued).onDeliverCount n =
              ((chaos.unschedule index).write now pid queued).rawSendCount n
            rw [written, delivers]
            exact congrArg (· + _) delivered

/-- Every event of the middleware leaves all messages accounted for. -/
theorem Accounts.step (accounts : chaos.Accounts []) (timed : TimedChaosEvent) :
    (chaos.step deps timed).Accounts [] := by
  rw [ChaosMiddleware.step]
  split
  · exact accounts.send timed.now _ _
  · exact accounts
  · exact accounts
  · exact accounts.flush timed.now _
  · exact accounts.fire timed.now _

end Step

/-- Messages may have left their buffers, and only timers of copies that wait
were set. -/
structure Releases (before after : ChaosMiddleware) : Prop where
  within : ∀ pid buffer, after.reorderBuffers.get? pid = some buffer → ∀ entry ∈ buffer,
    ∃ old, before.reorderBuffers.get? pid = some old ∧ entry ∈ old
  timers : ∃ more, after.timers = before.timers ++ more ∧
    ∀ timer ∈ more, ∃ pid queued, timer.callback = .deliver pid queued
  sent : after.sent = before.sent

section Releases

variable {deps : ChaosMiddlewareDeps} {chaos before middle after : ChaosMiddleware}
  {pid : ParticipantId} {buffer : List QueuedSend} (now : ℚ)

theorem releases_refl (chaos : ChaosMiddleware) : chaos.Releases chaos where
  within := fun _ buffer h _ he => ⟨buffer, h, he⟩
  timers := appended_refl chaos.timers
  sent := rfl

/-- One release after another is a release. -/
theorem Releases.trans (first : before.Releases middle) (second : middle.Releases after) :
    before.Releases after where
  within := by
    intro pid buffer h entry he
    obtain ⟨old, hOld, hm⟩ := second.within pid buffer h entry he
    exact first.within pid old hOld entry hm
  timers := appended_trans first.timers second.timers
  sent := second.sent.trans first.sent

/-- Dispatching holds nothing anew. -/
theorem releases_dispatch (chaos : ChaosMiddleware) (pid : ParticipantId) (queued : QueuedSend) :
    chaos.Releases (chaos.dispatch deps now pid queued) where
  within := by
    intro other buffer h entry he
    rw [dispatch_reorderBuffers] at h
    exact ⟨buffer, h, he⟩
  timers := by
    obtain ⟨more, hMore, deliver⟩ := dispatch_timers deps now pid queued chaos
    exact ⟨more, hMore, fun timer ht => ⟨pid, queued, deliver timer ht⟩⟩
  sent := dispatch_sent ..

/-- Taking messages out of a buffer. -/
theorem releases_set (stored : chaos.reorderBuffers.get? pid = some buffer)
    {left : List QueuedSend} (fewer : ∀ entry ∈ left, entry ∈ buffer) :
    chaos.Releases { chaos with reorderBuffers := chaos.reorderBuffers.set pid left } where
  within := by
    intro other found h entry he
    rw [JsMap.get?_set] at h
    split at h
    · next same =>
        rw [same]
        exact ⟨buffer, stored, fewer entry (Option.some.inj h ▸ he)⟩
    · exact ⟨found, h, he⟩
  timers := (releases_refl chaos).timers
  sent := rfl

/-- A release picks one message of a buffer and leaves the rest of it. -/
theorem releases_releaseRandomFrom (stored : chaos.reorderBuffers.get? pid = some buffer) :
    chaos.Releases (chaos.releaseRandomFrom deps now pid buffer) := by
  have rolled : chaos.Releases (chaos.redrawn (chaos.drawn + 1)) :=
    ⟨(releases_refl chaos).within, (releases_refl chaos).timers, rfl⟩
  have kept : (chaos.redrawn (chaos.drawn + 1)).reorderBuffers.get? pid = some buffer := stored
  rw [releaseRandomFrom]
  simp only [random_eq]
  split
  · exact rolled
  · exact (rolled.trans (releases_set kept fun _ => List.mem_of_mem_eraseIdx)).trans
      (releases_dispatch now _ pid _)

/-- A fallback timer takes at most its own message out. -/
theorem releases_releaseIfStillBuffered (pid : ParticipantId) (entry : QueuedSend) :
    chaos.Releases (chaos.releaseIfStillBuffered deps now pid entry) := by
  rw [releaseIfStillBuffered]
  split
  · exact releases_refl chaos
  · next buffer stored =>
      split
      · exact releases_refl chaos
      · exact (releases_set stored fun _ => List.mem_of_mem_eraseIdx).trans
          (releases_dispatch now _ pid entry)

/-- Releases made one after the other are a release. -/
theorem releases_foldl {α : Type} {act : ChaosMiddleware → α → ChaosMiddleware}
    (each : ∀ chaos item, Releases chaos (act chaos item)) (items : List α)
    (chaos : ChaosMiddleware) : chaos.Releases (items.foldl act chaos) := by
  induction items generalizing chaos with
  | nil => exact releases_refl chaos
  | cons item items ih => exact (each chaos item).trans (ih _)

/-- Flushing somebody's buffer empties it, which is a release. -/
theorem releases_flushTarget (target : ParticipantId) :
    chaos.Releases (chaos.flushTarget deps now target) := by
  rw [flushTarget]
  split
  · exact releases_refl chaos
  · have taken : chaos.Releases
        { chaos with reorderBuffers := chaos.reorderBuffers.delete target } := by
      refine ⟨?_, (releases_refl chaos).timers, rfl⟩
      intro other found h entry he
      rw [JsMap.get?_delete] at h
      split at h
      · cases h
      · exact ⟨found, h, he⟩
    exact taken.trans (releases_foldl (fun _ _ => releases_dispatch now _ target _) _ _)

/-- Flushing everybody's buffer is a release. -/
theorem releases_flush (pid : Option ParticipantId) :
    chaos.Releases (chaos.flush deps now pid) :=
  releases_foldl (fun _ _ => releases_flushTarget now _) _ chaos

/-- A release sets no fallback timer and clears none. -/
theorem Releases.fallbackCount (releases : before.Releases after) (n : Nat) :
    after.fallbackCount n = before.fallbackCount n := by
  obtain ⟨more, hMore, deliver⟩ := releases.timers
  rw [ChaosMiddleware.fallbackCount, hMore, List.countP_append,
    ChaosMiddleware.fallbackCount, Nat.add_eq_left, List.countP_eq_zero]
  intro timer ht
  obtain ⟨pid, queued, hCallback⟩ := deliver timer ht
  rw [hCallback]
  simp

end Releases

/-- Every message that is held has its fallback timer, the only one it ever
gets. -/
structure Guarded (chaos : ChaosMiddleware) : Prop where
  covered : ∀ pid buffer, chaos.reorderBuffers.get? pid = some buffer → ∀ entry ∈ buffer,
    ∃ timer ∈ chaos.timers, timer.callback = .releaseIfStillBuffered pid entry
  once : ∀ n, chaos.fallbackCount n ≤ if n < chaos.sent then 1 else 0

section Guarded

variable {deps : ChaosMiddlewareDeps} {chaos after : ChaosMiddleware} (now : ℚ)

/-- What is held afterwards was held before, under the same timer. -/
theorem Releases.guarded (releases : chaos.Releases after) (guarded : chaos.Guarded) :
    after.Guarded where
  covered := by
    intro pid buffer h entry he
    obtain ⟨old, hOld, hm⟩ := releases.within pid buffer h entry he
    obtain ⟨timer, ht, hCallback⟩ := guarded.covered pid old hOld entry hm
    obtain ⟨more, hMore, _⟩ := releases.timers
    rw [hMore]
    exact ⟨timer, List.mem_append_left _ ht, hCallback⟩
  once := by
    intro n
    rw [releases.fallbackCount, releases.sent]
    exact guarded.once n

/-- A message without a fallback timer is in no buffer. -/
theorem Guarded.heldCount_eq_zero (guarded : chaos.Guarded) {n : Nat}
    (fired : chaos.fallbackCount n = 0) : chaos.heldCount n = 0 := by
  rw [heldCount, List.countP_eq_zero]
  intro entry he own
  obtain ⟨pid, buffer, stored, hm⟩ := mem_buffered_iff.mp he
  obtain ⟨timer, ht, hCallback⟩ := guarded.covered pid buffer stored entry hm
  have counted := List.countP_eq_zero.mp fired timer ht
  rw [hCallback] at counted
  exact counted own

/-- A new message has neither a place in a buffer nor a timer. -/
theorem Guarded.take (guarded : chaos.Guarded) :
    Guarded { chaos with sent := chaos.sent + 1 } where
  covered := guarded.covered
  once := by
    intro n
    have before := guarded.once n
    change chaos.fallbackCount n ≤ if n < chaos.sent + 1 then 1 else 0
    split at before
    · rw [if_pos (by omega)]
      exact before
    · exact before.trans (Nat.zero_le _)

/-- The fallback timer of a new message is set whether or not the message is
still held. -/
theorem Guarded.push {pid : ParticipantId} {entry : QueuedSend} (guarded : chaos.Guarded)
    (new : entry.rawSend = chaos.sent) (ms : ℚ)
    (releases : Releases
      { chaos with
        sent := chaos.sent + 1
        reorderBuffers := chaos.reorderBuffers.set pid
          ((chaos.reorderBuffers.get? pid).getD [] ++ [entry]) } after) :
    (after.setTimeout now (.releaseIfStillBuffered pid entry) ms).Guarded where
  covered := by
    intro other buffer h held he
    obtain ⟨old, hOld, hm⟩ := releases.within other buffer h held he
    obtain ⟨more, hMore, _⟩ := releases.timers
    have earlier : ∀ buffer, chaos.reorderBuffers.get? other = some buffer → held ∈ buffer →
        ∃ timer ∈ (after.setTimeout now (.releaseIfStillBuffered pid entry) ms).timers,
          timer.callback = .releaseIfStillBuffered other held := by
      intro buffer stored hm
      obtain ⟨timer, ht, hCallback⟩ := guarded.covered other buffer stored held hm
      refine ⟨timer, ?_, hCallback⟩
      rw [setTimeout, hMore]
      exact List.mem_append_left _ (List.mem_append_left _ ht)
    rw [JsMap.get?_set] at hOld
    split at hOld
    · next same =>
        rw [← Option.some.inj hOld] at hm
        rcases List.mem_append.mp hm with hm | hm
        · cases stored : chaos.reorderBuffers.get? pid with
          | none =>
              rw [stored] at hm
              cases hm
          | some buffer =>
              rw [stored] at hm
              exact earlier buffer (same ▸ stored) hm
        · rw [List.mem_singleton.mp hm, same]
          exact ⟨_, List.mem_append_right _ (List.mem_singleton_self _), rfl⟩
    · exact earlier old hOld hm
  once := by
    intro n
    have counted : (after.setTimeout now (.releaseIfStillBuffered pid entry) ms).fallbackCount n =
        after.fallbackCount n + if entry.rawSend = n then 1 else 0 := by
      simp [fallbackCount, setTimeout, List.countP_append, List.countP_singleton]
    have same : after.fallbackCount n = chaos.fallbackCount n := releases.fallbackCount n
    have before := guarded.once n
    rw [counted, same, new]
    change _ ≤ if n < after.sent then 1 else 0
    rw [releases.sent]
    dsimp only
    split at before
    · rw [if_neg (by omega), if_pos (by omega)]
      exact before
    · split
      · rw [if_pos (by omega)]
        omega
      · omega

/-- A message that is held when it is sent gets its fallback timer with its place. -/
theorem Guarded.send (guarded : chaos.Guarded) (pid : ParticipantId) (message : OutboundMessage) :
    (chaos.send deps now pid message).Guarded := by
  rw [ChaosMiddleware.send]
  dsimp only
  split
  · exact ⟨guarded.take.covered, guarded.take.once⟩
  · split
    · exact (releases_dispatch now _ pid _).guarded guarded.take
    · apply guarded.push now rfl
      split
      · exact releases_releaseRandomFrom now (JsMap.get?_set_self ..)
      · exact releases_refl _

/-- A message held once is not held after its fallback timer. -/
theorem not_mem_releaseIfStillBuffered {pid : ParticipantId} {entry : QueuedSend}
    (once : chaos.heldCount entry.rawSend ≤ 1) {left : List QueuedSend}
    (h : (chaos.releaseIfStillBuffered deps now pid entry).reorderBuffers.get? pid = some left) :
    entry ∉ left := by
  rw [releaseIfStillBuffered] at h
  split at h
  · next absent =>
      rw [absent] at h
      cases h
  · next buffer stored =>
      split at h
      · next notHere =>
          rw [stored] at h
          rw [← Option.some.inj h]
          exact List.idxOf?_eq_none_iff.mp notHere
      · next index found =>
          obtain ⟨within, here, _⟩ := List.idxOf?_eq_some_iff.mp found
          have taken : buffer[index]? = some entry := by
            rw [List.getElem?_eq_getElem within]
            exact congrArg some (by simpa using here)
          have counts := (perm_buffered_splice stored taken).countP_eq fun other =>
            other.rawSend = entry.rawSend
          rw [dispatch_reorderBuffers] at h
          intro hm
          have still := heldCount_pos_of_mem (mem_buffered_iff.mpr ⟨pid, left, h, hm⟩)
          rw [heldCount] at once still
          rw [List.countP_cons, if_pos (by simp)] at counts
          omega

/-- What fires is the only fallback timer of its message, and takes it out of
the one buffer it may be in. -/
theorem Guarded.release {index : Nat} {dueAt : ℚ} {pid : ParticipantId} {entry : QueuedSend}
    (guarded : chaos.Guarded) (once : chaos.heldCount entry.rawSend ≤ 1)
    (h : chaos.timers[index]? = some ⟨dueAt, .releaseIfStillBuffered pid entry⟩) :
    ((chaos.unschedule index).releaseIfStillBuffered deps now pid entry).Guarded ∧
      ((chaos.unschedule index).releaseIfStillBuffered deps now pid entry).fallbackCount
        entry.rawSend = 0 := by
  have releases : (chaos.unschedule index).Releases
      ((chaos.unschedule index).releaseIfStillBuffered deps now pid entry) :=
    releases_releaseIfStillBuffered now pid entry
  have onceLeft : (chaos.unschedule index).heldCount entry.rawSend ≤ 1 := once
  have fewer : ∀ n, chaos.fallbackCount n = (chaos.unschedule index).fallbackCount n +
      if entry.rawSend = n then 1 else 0 := by
    intro n
    have counted := countP_unschedule h fun timer =>
      match timer.callback with
      | .releaseIfStillBuffered _ entry => entry.rawSend = n
      | _ => false
    simpa [fallbackCount] using counted
  constructor
  · constructor
    · intro other buffer stored held he
      obtain ⟨old, hOld, hm⟩ := releases.within other buffer stored held he
      obtain ⟨timer, ht, hCallback⟩ := guarded.covered other old hOld held hm
      rcases eq_or_mem_unschedule h ht with same | left
      · rw [same] at hCallback
        obtain ⟨rfl, rfl⟩ := ChaosCallback.releaseIfStillBuffered.inj hCallback
        exact absurd he (not_mem_releaseIfStillBuffered now onceLeft stored)
      · obtain ⟨more, hMore, _⟩ := releases.timers
        rw [hMore]
        exact ⟨timer, List.mem_append_left _ left, hCallback⟩
    · intro n
      rw [releases.fallbackCount, releases.sent]
      have before := guarded.once n
      rw [fewer] at before
      exact (Nat.le_add_right _ _).trans before
  · have before := guarded.once entry.rawSend
    rw [fewer, if_pos rfl] at before
    rw [releases.fallbackCount]
    split at before
    · omega
    · omega

/-- A fallback timer is gone after it fired, and so is its message. -/
theorem Guarded.fire (guarded : chaos.Guarded) (accounts : chaos.Accounts []) (index : Nat) :
    (chaos.fire deps now index).Guarded := by
  rw [ChaosMiddleware.fire]
  split
  · exact guarded
  · next timer h =>
      obtain ⟨dueAt, callback⟩ := timer
      cases callback with
      | releaseIfStillBuffered pid entry => exact (guarded.release now (accounts.heldCount_le _) h).1
      | deliver pid queued =>
          have kept := fun n => countP_unschedule h fun timer =>
            match timer.callback with
            | .releaseIfStillBuffered _ entry => entry.rawSend = n
            | _ => false
          constructor
          · intro other buffer stored held he
            obtain ⟨timer, ht, hCallback⟩ := guarded.covered other buffer stored held he
            rcases eq_or_mem_unschedule h ht with same | left
            · rw [same] at hCallback
              cases hCallback
            · exact ⟨timer, left, hCallback⟩
          · intro n
            have same : (chaos.unschedule index).fallbackCount n = chaos.fallbackCount n :=
              (kept n).symm
            exact same.trans_le (guarded.once n)

/-- Every event leaves each held message under a timer of its own. -/
theorem Guarded.step (guarded : chaos.Guarded) (accounts : chaos.Accounts [])
    (timed : TimedChaosEvent) : (chaos.step deps timed).Guarded := by
  rw [ChaosMiddleware.step]
  split
  · exact guarded.send timed.now _ _
  · exact ⟨guarded.covered, guarded.once⟩
  · exact ⟨guarded.covered, guarded.once⟩
  · exact (releases_flush timed.now _).guarded guarded
  · exact guarded.fire timed.now accounts _

end Guarded

end ChaosMiddleware

/-- Where a message may be. -/
inductive ChaosStatus where
  | held
  | dropped
  | dispatched
deriving DecidableEq

def ChaosStatus.Of (chaos : ChaosMiddleware) (n : Nat) : ChaosStatus → Prop
  | held => chaos.Held n
  | dropped => chaos.Dropped n
  | dispatched => chaos.Dispatched n

def ChaosEvent.isSend : ChaosEvent → Bool
  | send _ _ => true
  | _ => false

namespace ChaosMiddleware

variable {deps : ChaosMiddlewareDeps} {chaos : ChaosMiddleware}

def run (deps : ChaosMiddlewareDeps) (events : List TimedChaosEvent) : ChaosMiddleware :=
  Transition.run (step deps) {} events

/-- How often `send` was called. -/
def sends (events : List TimedChaosEvent) : Nat := events.countP fun timed => timed.event.isSend

/-- A message that is accounted for has one status and no second. -/
theorem Accounts.status (accounts : chaos.Accounts []) {n : Nat} (sent : n < chaos.sent) :
    ∃! status : ChaosStatus, status.Of chaos n := by
  obtain ⟨dispatched, one, copies, duplicates, delivered⟩ := accounts n
  rw [List.countP_nil, if_pos sent] at one
  have only : ∀ status : ChaosStatus, status.Of chaos n →
      status = if chaos.heldCount n = 1 then .held
        else if chaos.onDropCount n = 1 then .dropped else .dispatched := by
    intro status h
    cases status with
    | held => simp [h.1]
    | dropped => simp [h.1, h.2.1]
    | dispatched => simp [h.1, h.2.1]
  have found : ∃ status : ChaosStatus, status.Of chaos n := by
    rcases Nat.eq_zero_or_pos dispatched with none | some
    · rcases Nat.eq_zero_or_pos (chaos.onDropCount n) with kept | drop
      · exact ⟨.held, by omega, by omega, by omega, by omega, by omega, by omega⟩
      · exact ⟨.dropped, by omega, by omega, by omega, by omega, by omega, by omega⟩
    · exact ⟨.dispatched, by omega, by omega, by omega, by omega, by omega⟩
  obtain ⟨status, h⟩ := found
  refine ⟨status, h, ?_⟩
  intro other ho
  rw [only status h, only other ho]

/-- Each send is a message of its own. -/
theorem send_sent (now : ℚ) (pid : ParticipantId) (message : OutboundMessage) :
    (chaos.send deps now pid message).sent = chaos.sent + 1 := by
  rw [send]
  dsimp only
  split
  · rfl
  · split
    · exact dispatch_sent ..
    · rw [setTimeout]
      dsimp only
      split
      · exact (releases_releaseRandomFrom now (JsMap.get?_set_self ..)).sent
      · rfl

/-- A message sent before gets no fallback timer. -/
theorem send_fallbackCount (now : ℚ) (pid : ParticipantId) (message : OutboundMessage) {n : Nat}
    (earlier : n ≠ chaos.sent) :
    (chaos.send deps now pid message).fallbackCount n = chaos.fallbackCount n := by
  have own : ∀ after : ChaosMiddleware,
      (after.setTimeout now (.releaseIfStillBuffered pid { message, rawSend := chaos.sent })
        reorderMaxHoldMs).fallbackCount n = after.fallbackCount n := by
    intro after
    simp [fallbackCount, setTimeout, List.countP_append, earlier.symm]
  rw [send]
  dsimp only
  split
  · rfl
  · split
    · exact (releases_dispatch now _ pid _).fallbackCount n
    · rw [own]
      split
      · exact (releases_releaseRandomFrom now (JsMap.get?_set_self ..)).fallbackCount n
      · rfl

/-- A timer sends nothing new, and uses up fallback timers at most. -/
theorem fire_releases (now : ℚ) (index : Nat) :
    (chaos.fire deps now index).sent = chaos.sent ∧
      ∀ n, (chaos.fire deps now index).fallbackCount n ≤ chaos.fallbackCount n := by
  rw [fire]
  split
  · exact ⟨rfl, fun n => Nat.le_refl _⟩
  · next timer h =>
      have fewer : ∀ n, (chaos.unschedule index).fallbackCount n ≤ chaos.fallbackCount n :=
        fun n => (List.eraseIdx_sublist _ _).countP_le
      cases timer.callback with
      | releaseIfStillBuffered pid entry =>
          have releases : (chaos.unschedule index).Releases
              ((chaos.unschedule index).releaseIfStillBuffered deps now pid entry) :=
            releases_releaseIfStillBuffered now pid entry
          exact ⟨releases.sent, fun n => (releases.fallbackCount n).trans_le (fewer n)⟩
      | deliver pid queued => exact ⟨rfl, fewer⟩

/-- Only a send adds a message. -/
theorem step_sent (timed : TimedChaosEvent) :
    (chaos.step deps timed).sent = chaos.sent + if timed.event.isSend then 1 else 0 := by
  rw [step]
  split
  · next he => rw [he, send_sent]; rfl
  · next he => rw [he]; rfl
  · next he => rw [he]; rfl
  · next he => rw [he, (releases_flush timed.now _).sent]; rfl
  · next he => rw [he, (fire_releases timed.now _).1]; rfl

/-- A fallback timer that has fired is not set again. -/
theorem step_fallbackCount (timed : TimedChaosEvent) {n : Nat} (earlier : n < chaos.sent) :
    (chaos.step deps timed).fallbackCount n ≤ chaos.fallbackCount n := by
  rw [step]
  split
  · exact (send_fallbackCount timed.now _ _ (Nat.ne_of_lt earlier)).le
  · exact Nat.le_refl _
  · exact Nat.le_refl _
  · exact ((releases_flush timed.now _).fallbackCount n).le
  · exact (fire_releases timed.now _).2 n

/-- The messages of a run are the sends in it. -/
theorem run_sent (events : List TimedChaosEvent) : (run deps events).sent = sends events := by
  induction events using List.reverseRecOn with
  | nil => rfl
  | append_singleton events timed ih =>
      rw [run, Transition.run_concat, step_sent, sends, List.countP_append, List.countP_singleton]
      exact congrArg (· + _) ih

/-- Over every run the accounts stay balanced and the held messages guarded. -/
theorem run_tracked (events : List TimedChaosEvent) :
    (run deps events).Accounts [] ∧ (run deps events).Guarded := by
  apply Transition.invariant_run (P := fun chaos : ChaosMiddleware =>
    chaos.Accounts [] ∧ chaos.Guarded)
  · intro chaos timed tracked
    exact ⟨tracked.1.step timed, tracked.2.step tracked.1 timed⟩
  · constructor
    · intro n
      exact ⟨0, rfl, rfl, Nat.le_refl _, rfl⟩
    · constructor
      · intro pid buffer h
        cases h
      · intro n
        exact Nat.zero_le _

/-- Every message handed to `send` is held once, dropped once or dispatched, and
none is held after its fallback timer fired. -/
theorem run_accounted (deps : ChaosMiddlewareDeps) (events : List TimedChaosEvent) :
    (∀ n < sends events, ∃! status : ChaosStatus, status.Of (run deps events) n) ∧
      ∀ past timed later index dueAt pid entry, events = past ++ timed :: later →
        timed.event = .timer index →
        (run deps past).timers[index]? = some ⟨dueAt, .releaseIfStillBuffered pid entry⟩ →
          (run deps events).heldCount entry.rawSend = 0 := by
  constructor
  · intro n hn
    apply (run_tracked events).1.status
    rw [run_sent]
    exact hn
  · rintro past timed later index dueAt pid entry rfl fires scheduled
    have tracked : (run deps past).Accounts [] ∧ (run deps past).Guarded := run_tracked past
    have guarded : (run deps (past ++ timed :: later)).Guarded := (run_tracked _).2
    apply guarded.heldCount_eq_zero
    have released : _ ∧ (((run deps past).unschedule index).releaseIfStillBuffered deps timed.now
        pid entry).fallbackCount entry.rawSend = 0 :=
      tracked.2.release timed.now (tracked.1.heldCount_le _) scheduled
    have counted : 0 < (run deps past).fallbackCount entry.rawSend := by
      rw [fallbackCount, List.countP_pos_iff]
      exact ⟨_, List.mem_of_getElem? scheduled, by simp⟩
    have sent : entry.rawSend < (run deps past).sent := by
      by_contra notSent
      have none := tracked.2.once entry.rawSend
      rw [if_neg notSent] at none
      omega
    have fired : ((run deps past).step deps timed).fallbackCount entry.rawSend = 0 ∧
        entry.rawSend < ((run deps past).step deps timed).sent := by
      constructor
      · rw [step, fires]
        dsimp only
        rw [fire, scheduled]
        exact released.2
      · rw [step_sent]
        omega
    rw [run, Transition.run_append, Transition.run_cons]
    refine (Transition.invariant_run (P := fun chaos : ChaosMiddleware =>
      chaos.fallbackCount entry.rawSend = 0 ∧ entry.rawSend < chaos.sent) ?_ fired later).1
    intro chaos timed before
    constructor
    · exact Nat.le_zero.mp ((step_fallbackCount timed before.2).trans before.1.le)
    · rw [step_sent]
      omega

end ChaosMiddleware

end Copresence
