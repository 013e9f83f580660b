import Copresence.Client.Capture
import Copresence.Client.ScrollFollow
import Copresence.Lib.CallbackTable
import Copresence.Lib.JsValue

/-! The pointer capture: mouse moves come faster than frames, and positions too
close to the last one sent are not sent. -/
namespace Copresence

open Transition

/-- The arithmetic the dead band is measured with, of which nothing is assumed. -/
structure PointerArithmetic extends JsArithmetic where
  sub : JsNumber → JsNumber → JsNumber
  hypot : JsNumber → JsNumber → JsNumber

/-- `clientX` and `clientY` of a mouse event. -/
structure ViewportPoint where
  x : JsNumber
  y : JsNumber
deriving DecidableEq, Repr

def cursorDeadBandPx : JsNumber := .finite 2

def exceedsDeadBand (arithmetic : PointerArithmetic) (previous : Option ViewportPoint)
    (next : ViewportPoint) : Bool :=
  match previous with
  | none => true
  | some previous =>
    let dx := arithmetic.sub next.x previous.x
    let dy := arithmetic.sub next.y previous.y
    cursorDeadBandPx.atMost (arithmetic.hypot dx dy)

/-- What a page asks animation frames for. -/
inductive FrameCallback where
  | render
  | pointer
  | scroll
deriving DecidableEq, Repr

namespace RafScheduler

/-- `schedule` where the frames come from; the callback of a capture is always its
`flush`. -/
def scheduleIn (callback : FrameCallback) (scheduler : RafScheduler Unit)
    (frames : CallbackTable FrameCallback) : RafScheduler Unit × CallbackTable FrameCallback :=
  match scheduler.handle with
  | some _ => (scheduler.schedule frames.next (), frames)
  | none => (scheduler.schedule frames.next (), frames.request callback)

def cancelIn (scheduler : RafScheduler Unit) (frames : CallbackTable FrameCallback) :
    RafScheduler Unit × CallbackTable FrameCallback :=
  match scheduler.handle with
  | some handle => ({}, frames.cancel handle)
  | none => ({}, frames)

end RafScheduler

/-- `captured` has every point given to `onCapture`. -/
structure PointerCapture where
  scheduler : RafScheduler Unit := {}
  lastEmitted : Option ViewportPoint := none
  latest : Option ViewportPoint := none
  captured : List ViewportPoint := []

namespace PointerCapture

/-- The point to capture, if any. -/
def flush (arithmetic : PointerArithmetic) (capture : PointerCapture) :
    PointerCapture × Option ViewportPoint :=
  match capture.latest with
  | none => (capture, none)
  | some point =>
    if exceedsDeadBand arithmetic capture.lastEmitted point then
      ({ capture with lastEmitted := some point, captured := capture.captured ++ [point] },
        some point)
    else (capture, none)

/-- The frame the scheduler asked for. -/
def frame (arithmetic : PointerArithmetic) (capture : PointerCapture) :
    PointerCapture × Option ViewportPoint :=
  match capture.scheduler.fire with
  | (scheduler, none) => ({ capture with scheduler }, none)
  | (scheduler, some ()) => { capture with scheduler }.flush arithmetic

def handleMove (point : ViewportPoint) (capture : PointerCapture)
    (frames : CallbackTable FrameCallback) : PointerCapture × CallbackTable FrameCallback :=
  let (scheduler, frames) := capture.scheduler.scheduleIn .pointer frames
  ({ capture with latest := some point, scheduler }, frames)

/-- Where the pointer is gets forgotten, but not where it was last captured. -/
def stop (capture : PointerCapture) (frames : CallbackTable FrameCallback) :
    PointerCapture × CallbackTable FrameCallback :=
  let (scheduler, frames) := capture.scheduler.cancelIn frames
  ({ capture with scheduler, latest := none }, frames)

end PointerCapture

end Copresence
