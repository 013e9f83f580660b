import Copresence.Client.BrowserPage
import Copresence.Properties.Ownership

/-! What each operation of a page does to its listeners, frames and intervals, and
what an event of its connection does to the pings. -/
namespace Copresence

open Transition

/-- Adding a listener keeps those that are there. -/
theorem mem_addEventListener {listener other : Listener} {listeners : List Listener} :
    other ∈ addEventListener listener listeners ↔ other ∈ listeners ∨ other = listener := by
  rw [addEventListener]
  split
  · next listed =>
      constructor
      · exact Or.inl
      · rintro (h | rfl)
        · exact h
        · exact listed
  · simp

/-- Removing a listener removes no other. -/
theorem mem_removeEventListener {listener other : Listener} {listeners : List Listener} :
    other ∈ removeEventListener listener listeners ↔ other ∈ listeners ∧ other ≠ listener := by
  simp [removeEventListener]

/-- A listener added twice is there once. -/
theorem nodup_addEventListener {listener : Listener} {listeners : List Listener}
    (distinct : listeners.Nodup) : (addEventListener listener listeners).Nodup := by
  rw [addEventListener]
  split
  · exact distinct
  · next new =>
      rw [List.nodup_append]
      refine ⟨distinct, List.nodup_singleton _, ?_⟩
      intro other listed same isNew
      rw [List.mem_singleton.mp isNew]
      rintro rfl
      exact new listed

/-- Removing a listener leaves each of the others once. -/
theorem nodup_removeEventListener {listener : Listener} {listeners : List Listener}
    (distinct : listeners.Nodup) : (removeEventListener listener listeners).Nodup :=
  distinct.filter _

/-- Whether the timers run once the status is another. -/
def pingingAfter (previous next : ConnectionStatus) (pinging : Bool) : Bool :=
  if next = previous then pinging
  else
    match next with
    | .open => true
    | .closed => false
    | _ => pinging

/-- Pings neither begin nor end while the status stays as it is. -/
@[simp] theorem pingingAfter_same (status : ConnectionStatus) (pinging : Bool) :
    pingingAfter status status pinging = pinging :=
  if_pos rfl

/-- Only an opened connection begins them and only a closed one ends them. -/
theorem pingingAfter_of_other (previous : ConnectionStatus) {next : ConnectionStatus}
    (pinging : Bool) (notOpen : next ≠ .open) (notClosed : next ≠ .closed) :
    pingingAfter previous next pinging = pinging := by
  unfold pingingAfter
  split
  · rfl
  · cases next <;> first | rfl | contradiction

/-- A connection that closes is reconnected unless its page has disconnected it. -/
theorem Transport.handleClose_status (onStatusChange : StatusHandler) (transport : Transport) :
    (transport.handleClose onStatusChange).currentStatus =
      if transport.intentionalDisconnect then .closed else .reconnecting := by
  have kept : transport.detachSocket.intentionalDisconnect = transport.intentionalDisconnect := by
    rw [detachSocket]
    split <;> rfl
  rw [handleClose, kept]
  split
  · exact congrArg Wiring.currentStatus (setStatus_toWiring _ _ _)
  · next wanted =>
      have h := congrArg Wiring.currentStatus
        (scheduleReconnect_toWiring onStatusChange transport.detachSocket)
      rw [kept, if_neg wanted] at h
      exact h

namespace CopresenceInstance

variable {page : CopresenceInstance}

/-- The flags and the status are the same. -/
structure Alike (before after : CopresenceInstance) : Prop where
  pointer : after.pointerCaptureActive = before.pointerCaptureActive
  listening : after.listening = before.listening
  pinging : after.pinging = before.pinging
  status : after.transport.currentStatus = before.transport.currentStatus

/-- Sending leaves the flags and the status as they are. -/
theorem alike_sendBuilt (reading : SocketReading) (built : WireContext × InboundMessage)
    (page : CopresenceInstance) : page.Alike (page.sendBuilt reading built) where
  pointer := rfl
  listening := rfl
  pinging := rfl
  status := congrArg Wiring.currentStatus (Transport.send_toWiring _ _ _)

/-- A page pings while it is open, or was until the connection was lost. -/
def Live (page : CopresenceInstance) : Prop :=
  page.pinging = true →
    page.transport.currentStatus = .open ∨ page.transport.currentStatus = .reconnecting

/-- The pings turn as the status does. -/
def Turns (before after : CopresenceInstance) : Prop :=
  after.pinging =
    pingingAfter before.transport.currentStatus after.transport.currentStatus before.pinging

/-- What moves neither status nor pings leaves a page live. -/
theorem Live.of_same {after : CopresenceInstance} (live : page.Live)
    (status : after.transport.currentStatus = page.transport.currentStatus)
    (pinging : after.pinging = page.pinging) : after.Live ∧ page.Turns after := by
  constructor
  · rw [Live, status, pinging]
    exact live
  · rw [Turns, status, pinging, pingingAfter_same]

/-- A status of neither kind leaves the pings alone. -/
theorem Live.of_opening {after : CopresenceInstance} (live : page.Live)
    (status : after.transport.currentStatus =
      if page.transport.currentStatus = .idle then .connecting else .reconnecting)
    (pinging : after.pinging = page.pinging) : after.Live ∧ page.Turns after := by
  constructor
  · intro on
    rw [pinging] at on
    right
    rw [status, if_neg]
    rcases live on with h | h <;> simp [h]
  · rw [Turns, status, pinging, pingingAfter_of_other]
    · split <;> simp
    · split <;> simp

/-- A close leaves a page live: its connection is closed or about to be opened again. -/
theorem Live.closing {transport : Transport} (live : page.Live)
    (status : transport.currentStatus = page.transport.currentStatus ∨
      transport.currentStatus = .closed ∨ transport.currentStatus = .reconnecting) :
    (page.handleClose transport).Live ∧ page.Turns (page.handleClose transport) := by
  rw [handleClose]
  by_cases closed : transport.currentStatus = .closed
  · constructor
    · intro on
      simp [closed] at on
    · show (if transport.currentStatus = .closed then false else page.pinging) =
        pingingAfter page.transport.currentStatus transport.currentStatus page.pinging
      rw [if_pos closed, closed]
      unfold pingingAfter
      split
      · next was =>
          by_contra on
          rcases live (Bool.eq_true_of_not_eq_false (Ne.symm on)) with h | h <;> simp [h] at was
      · rfl
  · rw [if_neg closed]
    rcases status with same | closed' | reconnecting
    · exact live.of_same same rfl
    · exact absurd closed' closed
    · constructor
      · intro _
        exact Or.inr reconnecting
      · show page.pinging = pingingAfter _ transport.currentStatus page.pinging
        rw [reconnecting, pingingAfter_of_other] <;> simp

/-- Sending leaves a page live. -/
theorem Live.sendBuilt (live : page.Live) (reading : SocketReading)
    (built : WireContext × InboundMessage) :
    (page.sendBuilt reading built).Live ∧ page.Turns (page.sendBuilt reading built) :=
  live.of_same (congrArg Wiring.currentStatus (Transport.send_toWiring _ _ _)) rfl

/-- A timer of its connection leaves a page live, whichever it is. -/
theorem Live.timer (live : page.Live) (handle : Nat) :
    (page.step (.timer handle)).Live ∧ page.Turns (page.step (.timer handle)) := by
  by_cases fires : handle ∈ page.transport.pending
  · refine live.of_opening ?_ rfl
    show (if handle ∈ page.transport.pending then _ else page.transport).currentStatus = _
    rw [if_pos fires]
    exact congrArg Wiring.currentStatus (Transport.openSocket_toWiring _ _)
  · refine live.of_same ?_ rfl
    show (if handle ∈ page.transport.pending then _ else page.transport).currentStatus = _
    rw [if_neg fires]

/-- An opened connection starts the pings, and the page is live. -/
theorem Live.opened (live : page.Live) (socket : Nat) (now : Int) (viewport : ViewportInfo)
    (state : VisibilityState) (greeting reading : SocketReading) :
    (page.opened socket now viewport state greeting reading).Live ∧
      page.Turns (page.opened socket now viewport state greeting reading) := by
  rw [CopresenceInstance.opened]
  split
  · next guard =>
      have isOpen : ∀ onStatusChange : StatusHandler,
          (page.transport.handleOpen onStatusChange reading).currentStatus = .open :=
        fun _ => congrArg Wiring.currentStatus (Transport.handleOpen_toWiring _ _ _)
      constructor
      · intro _
        exact Or.inl (isOpen _)
      · rw [Turns]
        show true = pingingAfter _ (Transport.handleOpen _ reading page.transport).currentStatus _
        rw [isOpen, pingingAfter, if_neg (Ne.symm guard.2)]
  · exact live.of_same rfl rfl

/-- Every event but a disconnect leaves a page live and turns its pings as its
status says. -/
theorem Live.step (live : page.Live) {event : InstanceEvent}
    (notDisconnect : ∀ now reading, event ≠ .disconnect now reading) :
    (page.step event).Live ∧ page.Turns (page.step event) := by
  cases event with
  | connect now eventId state =>
      cases hLive : page.transport.currentStatus.live with
      | true =>
          refine live.of_same ?_ rfl
          exact congrArg (·.currentStatus) (Transport.connect_of_live hLive)
      | false =>
          refine live.of_opening ?_ rfl
          show (page.transport.connect _).currentStatus = _
          rw [Transport.connect_of_settled hLive]
          exact congrArg Wiring.currentStatus (Transport.openSocket_toWiring _ _)
  | disconnect now reading => exact absurd rfl (notDisconnect now reading)
  | opened socket now viewport state greeting reading =>
      exact live.opened socket now viewport state greeting reading
  | closed socket =>
      refine live.closing ?_
      rw [Transport.step]
      split
      · rw [Transport.handleClose_status]
        split <;> simp
      · exact Or.inl rfl
  | errored socket =>
      refine live.closing ?_
      rw [Transport.step]
      split
      · rw [Transport.handleClose_status]
        split <;> simp
      · exact Or.inl rfl
  | timer handle => exact live.timer handle
  | pointer now x y reading =>
      rw [CopresenceInstance.step]
      split
      · exact live.sendBuilt _ _
      · exact live.of_same rfl rfl
  | scroll now x y reading =>
      rw [CopresenceInstance.step]
      split
      · exact live.sendBuilt _ _
      · exact live.of_same rfl rfl
  | ping now reading =>
      rw [CopresenceInstance.step]
      split
      · exact live.sendBuilt _ _
      · exact live.of_same rfl rfl
  | visibilityChange now viewport state changeId sessionId reading =>
      rw [CopresenceInstance.step]
      split
      · rw [visibilityChange]
        split
        · have captured : Live { page with
              pointerCaptureActive := decide (state = VisibilityState.visible) } := live
          exact captured.sendBuilt _ _
        · exact live.of_same rfl rfl
      · exact live.of_same rfl rfl
  | added index reading =>
      rw [CopresenceInstance.step, added]
      split
      · exact live.of_same rfl rfl
      · refine live.of_same ?_ rfl
        split
        · exact congrArg Wiring.currentStatus (Transport.send_toWiring _ _ _)
        · rfl
  | addFailed index => exact live.of_same rfl rfl

end CopresenceInstance

namespace BrowserPage

variable {arithmetic : PointerArithmetic} {page : BrowserPage}

def intervalHandle (page : BrowserPage) : IntervalCallback → Option Nat
  | .ping => page.pingTimer
  | .staleSweep => page.staleSweepTimer

/-- Starting a timer arms its callback, unless it is. -/
theorem startPing_held (held : page.intervals.Held page.intervalHandle) :
    page.startPing.intervals.Held page.startPing.intervalHandle := by
  rw [startPing]
  split
  · exact held
  · next free =>
      refine held.request (k := IntervalCallback.ping) free rfl ?_
      intro callback other
      cases callback with
      | ping => exact absurd rfl other
      | staleSweep => rfl

/-- The interval that is replaced is cleared first, so only the new one is held. -/
theorem startStaleSweep_held (held : page.intervals.Held page.intervalHandle) :
    page.startStaleSweep.intervals.Held page.startStaleSweep.intervalHandle := by
  rw [startStaleSweep]
  split
  · exact held
  · next free =>
      refine held.request (k := IntervalCallback.staleSweep) free rfl ?_
      intro callback other
      cases callback with
      | ping => rfl
      | staleSweep => exact absurd rfl other

/-- A cleared interval is known of no more. -/
theorem stopPing_held (held : page.intervals.Held page.intervalHandle) :
    page.stopPing.intervals.Held page.stopPing.intervalHandle := by
  rw [stopPing]
  split
  · exact held
  · next has =>
      refine held.cancel (k := IntervalCallback.ping) has rfl ?_
      intro callback other
      cases callback with
      | ping => exact absurd rfl other
      | staleSweep => rfl

/-- Clearing the other interval keeps the first. -/
theorem stopStaleSweep_held (held : page.intervals.Held page.intervalHandle) :
    page.stopStaleSweep.intervals.Held page.stopStaleSweep.intervalHandle := by
  rw [stopStaleSweep]
  split
  · exact held
  · next has =>
      refine held.cancel (k := IntervalCallback.staleSweep) has rfl ?_
      intro callback other
      cases callback with
      | ping => rfl
      | staleSweep => exact absurd rfl other

/-- Both timers run, or neither does. -/
structure Timed (pinging : Bool) (page : BrowserPage) : Prop where
  held : page.intervals.Held page.intervalHandle
  ping : page.pingTimer.isSome = pinging
  sweep : page.staleSweepTimer.isSome = pinging

/-- Only the intervals and the handles kept for them matter. -/
theorem Timed.congr {pinging : Bool} {after : BrowserPage} (timed : page.Timed pinging)
    (intervals : after.intervals = page.intervals) (ping : after.pingTimer = page.pingTimer)
    (sweep : after.staleSweepTimer = page.staleSweepTimer) : after.Timed pinging where
  held := by
    have handles : after.intervalHandle = page.intervalHandle := by
      funext callback
      cases callback with
      | ping => exact ping
      | staleSweep => exact sweep
    rw [intervals, handles]
    exact timed.held
  ping := by
    rw [ping]
    exact timed.ping
  sweep := by
    rw [sweep]
    exact timed.sweep

/-- With both started, the page holds both intervals. -/
theorem Timed.start {pinging : Bool} (timed : Timed pinging page) :
    Timed true page.startPing.startStaleSweep where
  held := startStaleSweep_held (startPing_held timed.held)
  ping := by
    rw [startPing]
    split <;> (rw [startStaleSweep]; split <;> simp_all)
  sweep := by
    rw [startPing]
    split <;> (rw [startStaleSweep]; split <;> simp_all)

/-- With both stopped, the page holds no interval. -/
theorem Timed.stop {pinging : Bool} (timed : Timed pinging page) :
    Timed false page.stopPing.stopStaleSweep where
  held := stopStaleSweep_held (stopPing_held timed.held)
  ping := by
    rw [stopPing]
    split <;> (rw [stopStaleSweep]; split <;> simp_all)
  sweep := by
    rw [stopPing]
    split <;> (rw [stopStaleSweep]; split <;> simp_all)

/-- The status handler starts and stops the intervals as the pings say. -/
theorem Timed.handleStatusChange {pinging : Bool} (previous : ConnectionStatus)
    (timed : Timed pinging page) :
    Timed (pingingAfter previous page.transport.currentStatus pinging)
      (page.handleStatusChange previous) := by
  unfold BrowserPage.handleStatusChange pingingAfter
  split
  · exact timed
  · cases page.transport.currentStatus with
    | «open» => exact timed.start
    | closed => exact timed.stop
    | idle | connecting | reconnecting => exact timed

/-- The page but for its timers. -/
def withoutTimers (page : BrowserPage) : BrowserPage :=
  { page with
    intervals := {}
    pingTimer := none
    staleSweepTimer := none }

/-- Pings move the intervals alone. -/
@[simp] theorem startPing_withoutTimers (page : BrowserPage) :
    page.startPing.withoutTimers = page.withoutTimers := by
  rw [startPing]
  split <;> rfl

@[simp] theorem stopPing_withoutTimers (page : BrowserPage) :
    page.stopPing.withoutTimers = page.withoutTimers := by
  rw [stopPing]
  split <;> rfl

/-- The sweep, too, moves the intervals alone. -/
@[simp] theorem startStaleSweep_withoutTimers (page : BrowserPage) :
    page.startStaleSweep.withoutTimers = page.withoutTimers := by
  rw [startStaleSweep]
  split <;> rfl

@[simp] theorem stopStaleSweep_withoutTimers (page : BrowserPage) :
    page.stopStaleSweep.withoutTimers = page.withoutTimers := by
  rw [stopStaleSweep]
  split <;> rfl

/-- Whatever the status turns to, the handler moves the intervals alone. -/
@[simp] theorem handleStatusChange_withoutTimers (previous : ConnectionStatus)
    (page : BrowserPage) :
    (page.handleStatusChange previous).withoutTimers = page.withoutTimers := by
  rw [handleStatusChange]
  split
  · rfl
  · split <;> simp

/-- An event of the connection reaches the instance and, by its status, the intervals. -/
theorem inner_withoutTimers (event : InstanceEvent) (page : BrowserPage) :
    (page.inner event).withoutTimers =
      { page with
        toCopresenceInstance := page.toCopresenceInstance.step event }.withoutTimers :=
  handleStatusChange_withoutTimers _ _

def frameHandle (page : BrowserPage) : FrameCallback → Option Nat
  | .render => page.renderHandle
  | .pointer => page.pointerCapture.scheduler.handle
  | .scroll => page.scrollCapture.handle

section Scheduling

variable {frames : CallbackTable FrameCallback} {scheduler : RafScheduler Unit}
  {held after : FrameCallback → Option Nat} {c : FrameCallback}

/-- A frame that is asked for is known by the one who asked. -/
theorem scheduleIn_held (holds : frames.Held held) (has : held c = scheduler.handle)
    (own : after c = (scheduler.scheduleIn c frames).1.handle)
    (others : ∀ other, other ≠ c → after other = held other) :
    (scheduler.scheduleIn c frames).2.Held after := by
  rw [RafScheduler.scheduleIn] at own ⊢
  cases hs : scheduler.handle with
  | none =>
      rw [hs] at has own
      refine holds.request has ?_ others
      rw [own, RafScheduler.schedule, hs]
      rfl
  | some handle =>
      rw [hs] at has own
      have same : after = held := by
        funext other
        by_cases isOwn : other = c
        · rw [isOwn, own, has, RafScheduler.schedule, hs]
          rfl
        · exact others other isOwn
      rw [same]
      exact holds

/-- A frame that is cancelled is neither held nor known. -/
theorem cancelIn_held (holds : frames.Held held) (has : held c = scheduler.handle)
    (own : after c = none) (others : ∀ other, other ≠ c → after other = held other) :
    (scheduler.cancelIn frames).2.Held after := by
  rw [RafScheduler.cancelIn]
  cases hs : scheduler.handle with
  | none =>
      rw [hs] at has
      have same : after = held := by
        funext other
        by_cases isOwn : other = c
        · rw [isOwn, own, has]
        · exact others other isOwn
      rw [same]
      exact holds
  | some handle =>
      rw [hs] at has
      exact holds.cancel has own others

/-- After a cancel nothing is scheduled. -/
@[simp] theorem cancelIn_fst (scheduler : RafScheduler Unit)
    (frames : CallbackTable FrameCallback) : (scheduler.cancelIn frames).1 = {} := by
  rw [RafScheduler.cancelIn]
  split <;> rfl

end Scheduling

/-- The render loop knows of the frame it asked for. -/
theorem requestRender_held (held : page.frames.Held page.frameHandle)
    (free : page.renderHandle = none) :
    page.requestRender.frames.Held page.requestRender.frameHandle := by
  refine held.request (k := FrameCallback.render) free rfl ?_
  intro callback other
  cases callback with
  | render => exact absurd rfl other
  | pointer | scroll => rfl

/-- The cancelled frame of the render loop is known no more. -/
theorem cancelRender_held (held : page.frames.Held page.frameHandle) :
    page.cancelRender.frames.Held page.cancelRender.frameHandle := by
  rw [cancelRender]
  split
  · exact held
  · next has =>
      refine held.cancel (k := FrameCallback.render) has rfl ?_
      intro callback other
      cases callback with
      | render => exact absurd rfl other
      | pointer | scroll => rfl

/-- Stopping the pointer capture cancels the frame it had asked for. -/
theorem stopPointer_held (held : page.frames.Held page.frameHandle) :
    page.stopPointer.frames.Held page.stopPointer.frameHandle := by
  refine cancelIn_held (c := FrameCallback.pointer) held rfl ?_ ?_
  · show (page.pointerCapture.scheduler.cancelIn page.frames).1.handle = none
    rw [cancelIn_fst]
  · intro other isOther
    cases other with
    | pointer => exact absurd rfl isOther
    | render | scroll => rfl

/-- Stopping the scroll capture cancels its frame, too. -/
theorem stopScroll_held (held : page.frames.Held page.frameHandle) :
    page.stopScroll.frames.Held page.stopScroll.frameHandle := by
  refine cancelIn_held (c := FrameCallback.scroll) held rfl ?_ ?_
  · show (page.scrollCapture.cancelIn page.frames).1.handle = none
    rw [cancelIn_fst]
  · intro other isOther
    cases other with
    | scroll => exact absurd rfl isOther
    | render | pointer => rfl

/-- A mouse event asks for at most one frame, which the pointer capture knows of. -/
theorem mousemove_held (point : ViewportPoint) (held : page.frames.Held page.frameHandle) :
    (page.mousemove point).frames.Held (page.mousemove point).frameHandle := by
  rw [mousemove]
  split
  · refine scheduleIn_held (c := FrameCallback.pointer) held rfl rfl ?_
    intro other isOther
    cases other with
    | pointer => exact absurd rfl isOther
    | render | scroll => rfl
  · exact held

/-- A scroll event asks for at most one frame, which the scroll capture knows of. -/
theorem scroll_held (held : page.frames.Held page.frameHandle) :
    page.scroll.frames.Held page.scroll.frameHandle := by
  rw [scroll]
  split
  · refine scheduleIn_held (c := FrameCallback.scroll) held rfl rfl ?_
    intro other isOther
    cases other with
    | scroll => exact absurd rfl isOther
    | render | pointer => rfl
  · exact held

/-- A frame that ran has to be asked for again. -/
@[simp] theorem fire_handle (scheduler : RafScheduler Unit) : scheduler.fire.1.handle = none := by
  rw [RafScheduler.fire]
  split
  · next none => exact none
  · rfl

/-- The pointer capture's frame runs its scheduler's. -/
@[simp] theorem frame_scheduler (capture : PointerCapture) :
    (capture.frame arithmetic).1.scheduler = capture.scheduler.fire.1 := by
  rw [PointerCapture.frame]
  split
  · next fired => rw [fired]
  · next fired =>
      rw [fired, PointerCapture.flush]
      split
      · rfl
      · split <;> rfl

section Firing

variable (now : Int) (seen : BrowserReading) (reading : SocketReading)

/-- What the capture sends is all else that a pointer's frame does. -/
theorem pointerFrame_eq (page : BrowserPage) :
    page.pointerFrame arithmetic now seen reading =
      { page with
        pointerCapture := (page.pointerCapture.frame arithmetic).1
        toCopresenceInstance :=
          (page.pointerFrame arithmetic now seen reading).toCopresenceInstance } := by
  rw [pointerFrame]
  split <;> next fired => rw [fired]

/-- A frame of the scroll capture moves the capture and what it sends, nothing more. -/
theorem scrollFrame_eq (page : BrowserPage) :
    page.scrollFrame now seen reading =
      { page with
        scrollCapture := page.scrollCapture.fire.1
        toCopresenceInstance := (page.scrollFrame now seen reading).toCopresenceInstance } := by
  rw [scrollFrame]
  split <;> next fired => rw [fired]

/-- After a frame every one that is held is known of, the one that ran excepted. -/
theorem frame_held (arithmetic : PointerArithmetic) {handle : Nat}
    (held : page.frames.Held page.frameHandle) :
    (page.frame arithmetic handle now seen reading).frames.Held
      (page.frame arithmetic handle now seen reading).frameHandle := by
  rw [frame]
  cases found : page.frames.callback? handle with
  | none => exact held
  | some callback =>
      have has := held.callback?_eq_some_iff.mp found
      cases callback with
      | render =>
          let idle : BrowserPage :=
            { page with frames := page.frames.cancel handle, renderHandle := none }
          have free : idle.frames.Held idle.frameHandle := by
            refine held.cancel (k := FrameCallback.render) has rfl fun other isOther => ?_
            cases other with
            | render => exact absurd rfl isOther
            | pointer | scroll => rfl
          show idle.requestRender.frames.Held idle.requestRender.frameHandle
          exact requestRender_held free rfl
      | pointer =>
          show (pointerFrame arithmetic now seen reading _).frames.Held _
          rw [pointerFrame_eq]
          refine held.cancel (k := FrameCallback.pointer) has ?_ fun other isOther => ?_
          · simp [frameHandle]
          · cases other with
            | pointer => exact absurd rfl isOther
            | render | scroll => rfl
      | scroll =>
          show (scrollFrame now seen reading _).frames.Held _
          rw [scrollFrame_eq]
          refine held.cancel (k := FrameCallback.scroll) has ?_ fun other isOther => ?_
          · simp [frameHandle]
          · cases other with
            | scroll => exact absurd rfl isOther
            | render | pointer => rfl

end Firing

end BrowserPage

end Copresence
