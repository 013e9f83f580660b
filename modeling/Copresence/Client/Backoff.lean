import Copresence.Client.Transport
import Copresence.Lib.Products

/-! How long the connection waits before it tries again: exponential backoff with
full jitter, computed in doubles as the page computes it. -/
namespace Copresence

open Floating Transition

def reconnectMaxBackoffMs : Number binary64 := .ofRat 10000

def baseDelayMs : Number binary64 := .ofRat 250

/-- `random` is what the page's `random()` returns. The connection counts its
attempts from zero, so the counter is the `safeAttempt` it stands for. -/
def backoffDelayMs (attempt : ℕ) (capMs random : Number binary64) : Number binary64 :=
  let exponential := capMs.min (baseDelayMs * .ofRat (2 ^ attempt))
  (random * exponential).floor

/-- What the reconnecting goes by: a call of `connect` that opens a socket, a socket
that opened, and a timer set with this delay. -/
inductive Attempt where
  | connected
  | opened
  | waits (delay : Number binary64)
deriving DecidableEq

/-- A connection with its attempts in order. `drawn` counts the calls of `random`. -/
structure PacedTransport extends Transport where
  attempts : List Attempt := []
  drawn : ℕ := 0

namespace PacedTransport

variable (random : ℕ → Number binary64)

/-- The delay is computed after the page is told, from the attempts before this one. -/
def scheduleReconnect (onStatusChange : StatusHandler) (paced : PacedTransport) : PacedTransport :=
  if paced.intentionalDisconnect then paced
  else
    let told := paced.toTransport.setStatus .reconnecting onStatusChange
    let delay := backoffDelayMs told.reconnectAttempt reconnectMaxBackoffMs (random paced.drawn)
    { toTransport := paced.toTransport.scheduleReconnect onStatusChange
      attempts := paced.attempts ++ [.waits delay]
      drawn := paced.drawn + 1 }

def handleClose (onStatusChange : StatusHandler) (paced : PacedTransport) : PacedTransport :=
  let detached := { paced with toTransport := paced.toTransport.detachSocket }
  if detached.intentionalDisconnect then
    { detached with toTransport := detached.toTransport.setStatus .closed onStatusChange }
  else detached.scheduleReconnect random onStatusChange

def handleOpen (onStatusChange : StatusHandler) (reading : SocketReading)
    (paced : PacedTransport) : PacedTransport :=
  { paced with
    toTransport := paced.toTransport.handleOpen onStatusChange reading
    attempts := paced.attempts ++ [.opened] }

def connect (onStatusChange : StatusHandler) (paced : PacedTransport) : PacedTransport :=
  if paced.currentStatus.live then paced
  else
    { paced with
      toTransport := paced.toTransport.connect onStatusChange
      attempts := paced.attempts ++ [.connected] }

def step (paced : PacedTransport) : TransportEvent → PacedTransport
  | .connect onStatusChange => paced.connect onStatusChange
  | .opened socket onStatusChange reading =>
    if socket ∈ paced.listening then paced.handleOpen onStatusChange reading else paced
  | .closed socket onStatusChange =>
    let reported := { paced with closing := paced.closing.filter (· ≠ socket) }
    if socket ∈ reported.listening then reported.handleClose random onStatusChange else reported
  | .errored socket onStatusChange =>
    if socket ∈ paced.listening then paced.handleClose random onStatusChange else paced
  | event => { paced with toTransport := paced.toTransport.step event }

@[simp] theorem handleClose_toTransport (onStatusChange : StatusHandler) (paced : PacedTransport) :
    (paced.handleClose random onStatusChange).toTransport =
      paced.toTransport.handleClose onStatusChange := by
  rw [handleClose, Transport.handleClose]
  split
  · rfl
  · next goesOn =>
      rw [scheduleReconnect, if_neg goesOn]

@[simp] theorem connect_toTransport (onStatusChange : StatusHandler) (paced : PacedTransport) :
    (paced.connect onStatusChange).toTransport = paced.toTransport.connect onStatusChange := by
  rw [connect]
  split
  · next live => exact (Transport.connect_of_live live).symm
  · rfl

/-- What holds of the runs of a connection holds of the paced ones. -/
theorem step_toTransport (paced : PacedTransport) (event : TransportEvent) :
    (paced.step random event).toTransport = paced.toTransport.step event := by
  cases event with
  | connect => exact connect_toTransport _ _
  | opened socket =>
      rw [step, Transport.step]
      split <;> rfl
  | closed socket =>
      rw [step, Transport.step]
      dsimp only
      split
      · exact handleClose_toTransport random _ _
      · rfl
  | errored socket =>
      rw [step, Transport.step]
      split
      · exact handleClose_toTransport random _ _
      · rfl
  | disconnect | send | message | timer => rfl

theorem run_toTransport (start : PacedTransport) (events : List TransportEvent) :
    (run (step random) start events).toTransport =
      run Transport.step start.toTransport events :=
  run_map (f := PacedTransport.toTransport) (step_toTransport random) start events

end PacedTransport

end Copresence
