import Copresence.Client.Instance
import Copresence.Client.PointerCapture

/-! `init` down to what it asks its browser for: event listeners, animation frames
and intervals, each under the handle one of its variables keeps. -/
namespace Copresence

open Transition

/-- The listeners a page adds; the last two are the lifecycle's own. -/
inductive Listener where
  | mousemove
  | scroll
  | visibilityChange
  | lifecycleChange
  | pageHide
deriving DecidableEq, Repr

inductive IntervalCallback where
  | ping
  | staleSweep
deriving DecidableEq, Repr

/-- The same listener is added once. -/
def addEventListener (listener : Listener) (listeners : List Listener) : List Listener :=
  if listener ∈ listeners then listeners else listeners ++ [listener]

def removeEventListener (listener : Listener) (listeners : List Listener) : List Listener :=
  listeners.filter (· ≠ listener)

/-- `listening` and `pinging` only say what `listeners` and `intervals` have: no
handler reads them. -/
structure BrowserPage extends CopresenceInstance where
  listeners : List Listener := []
  frames : CallbackTable FrameCallback := {}
  intervals : CallbackTable IntervalCallback := {}
  renderHandle : Option Nat := none
  pingTimer : Option Nat := none
  staleSweepTimer : Option Nat := none
  pointerCapture : PointerCapture := {}
  scrollCapture : RafScheduler Unit := {}

/-- What the host page calls and the browser calls back. A frame or an interval comes
under its handle, with what the page then reads of the browser. -/
inductive BrowserEvent where
  | connect (now : Int) (eventId : EventId) (state : VisibilityState)
  | disconnect (now : Int) (reading : SocketReading)
  | opened (socket : Nat) (now : Int) (viewport : ViewportInfo) (state : VisibilityState)
      (greeting reading : SocketReading)
  | closed (socket : Nat)
  | errored (socket : Nat)
  | timer (handle : Nat)
  | mousemove (point : ViewportPoint)
  | scroll
  | visibilityChange (now : Int) (viewport : ViewportInfo) (state : VisibilityState)
      (changeId sessionId : EventId) (reading : SocketReading)
  | frame (handle : Nat) (now : Int) (seen : BrowserReading) (reading : SocketReading)
  | interval (handle : Nat) (now : Int) (reading : SocketReading)
  | added (index : Nat) (reading : SocketReading)
  | addFailed (index : Nat)

namespace BrowserPage

def listen (listener : Listener) (page : BrowserPage) : BrowserPage :=
  { page with listeners := addEventListener listener page.listeners }

def unlisten (listener : Listener) (page : BrowserPage) : BrowserPage :=
  { page with listeners := removeEventListener listener page.listeners }

def startPing (page : BrowserPage) : BrowserPage :=
  match page.pingTimer with
  | some _ => page
  | none =>
    { page with
      pingTimer := some page.intervals.next
      intervals := page.intervals.request .ping }

def stopPing (page : BrowserPage) : BrowserPage :=
  match page.pingTimer with
  | none => page
  | some handle =>
    { page with
      intervals := page.intervals.cancel handle
      pingTimer := none }

def startStaleSweep (page : BrowserPage) : BrowserPage :=
  match page.staleSweepTimer with
  | some _ => page
  | none =>
    { page with
      staleSweepTimer := some page.intervals.next
      intervals := page.intervals.request .staleSweep }

def stopStaleSweep (page : BrowserPage) : BrowserPage :=
  match page.staleSweepTimer with
  | none => page
  | some handle =>
    { page with
      intervals := page.intervals.cancel handle
      staleSweepTimer := none }

/-- The timers' part of `handleStatusChange`, called when the status is another. -/
def handleStatusChange (previous : ConnectionStatus) (page : BrowserPage) : BrowserPage :=
  if page.transport.currentStatus = previous then page
  else
    match page.transport.currentStatus with
    | .open => page.startPing.startStaleSweep
    | .closed => page.stopPing.stopStaleSweep
    | _ => page

/-- A call of the page, or an event of its connection. -/
def inner (event : InstanceEvent) (page : BrowserPage) : BrowserPage :=
  { page with
    toCopresenceInstance := page.toCopresenceInstance.step event }.handleStatusChange
      page.transport.currentStatus

def startPointer (page : BrowserPage) : BrowserPage :=
  { page.listen .mousemove with pointerCaptureActive := true }

def stopPointer (page : BrowserPage) : BrowserPage :=
  let (pointerCapture, frames) := page.pointerCapture.stop page.frames
  { page.unlisten .mousemove with pointerCapture, frames, pointerCaptureActive := false }

def stopScroll (page : BrowserPage) : BrowserPage :=
  let (scrollCapture, frames) := page.scrollCapture.cancelIn page.frames
  { page.unlisten .scroll with scrollCapture, frames }

def requestRender (page : BrowserPage) : BrowserPage :=
  { page with
    renderHandle := some page.frames.next
    frames := page.frames.request .render }

def cancelRender (page : BrowserPage) : BrowserPage :=
  match page.renderHandle with
  | none => page
  | some handle =>
    { page with
      frames := page.frames.cancel handle
      renderHandle := none }

/-- The document position of a point of the viewport. -/
def place (arithmetic : PointerArithmetic) (seen : BrowserReading) (point : ViewportPoint) :
    ℚ × ℚ :=
  toDocumentSpace arithmetic.toJsArithmetic point.x point.y
    (.finite (readViewportMetadata seen).docWidth) (.finite (readScrollOffset seen).2)

def connect (now : Int) (eventId : EventId) (state : VisibilityState) (page : BrowserPage) :
    BrowserPage :=
  let joined := page.inner (.connect now eventId state)
  let pointing := if page.pointerCaptureActive then joined else joined.startPointer
  let heard := (pointing.listen .scroll).listen .visibilityChange
  let drawn := if heard.renderHandle.isSome then heard else heard.requestRender
  (drawn.listen .lifecycleChange).listen .pageHide

def disconnect (now : Int) (reading : SocketReading) (page : BrowserPage) : BrowserPage :=
  let left := (page.inner (.disconnect now reading)).stopPointer.stopScroll
  let silent := (left.unlisten .visibilityChange).cancelRender.stopPing.stopStaleSweep
  (silent.unlisten .lifecycleChange).unlisten .pageHide

def handleVisibilityChange (now : Int) (viewport : ViewportInfo) (state : VisibilityState)
    (reading : SocketReading) (page : BrowserPage) : BrowserPage :=
  match state with
  | .hidden => if page.pointerCaptureActive then page.stopPointer else page
  | .visible =>
    let captured := if page.pointerCaptureActive then page else page.startPointer
    if captured.transport.currentStatus = .open then
      { captured with
        toCopresenceInstance := captured.sendBuilt reading
          ((buildHello captured.page.wire now viewport .visible).map id .hello) }
    else captured

/-- Both listeners are told, the page's own before the lifecycle's. -/
def visibilityChange (now : Int) (viewport : ViewportInfo) (state : VisibilityState)
    (changeId sessionId : EventId) (reading : SocketReading) (page : BrowserPage) : BrowserPage :=
  let resynced :=
    if .visibilityChange ∈ page.listeners then
      page.handleVisibilityChange now viewport state reading
    else page
  if .lifecycleChange ∈ resynced.listeners then
    { resynced with
      toCopresenceInstance := resynced.emitAll
        (resynced.page.onVisibilityChange now changeId sessionId state) }
  else resynced

def pointerFrame (arithmetic : PointerArithmetic) (now : Int) (seen : BrowserReading)
    (reading : SocketReading) (page : BrowserPage) : BrowserPage :=
  match page.pointerCapture.frame arithmetic with
  | (pointerCapture, none) => { page with pointerCapture }
  | (pointerCapture, some point) =>
    let (x, y) := place arithmetic seen point
    { page with
      pointerCapture
      toCopresenceInstance :=
        page.sendBuilt reading ((buildCursor page.page.wire now x y).map id .cursor) }

def scrollFrame (now : Int) (seen : BrowserReading) (reading : SocketReading)
    (page : BrowserPage) : BrowserPage :=
  match page.scrollCapture.fire with
  | (scrollCapture, none) => { page with scrollCapture }
  | (scrollCapture, some ()) =>
    let (x, y) := readScrollOffset seen
    { page with
      scrollCapture
      toCopresenceInstance :=
        page.sendBuilt reading ((buildScroll page.page.wire now x y).map id .scroll) }

/-- What a frame draws is left to the drawn page. -/
def frame (arithmetic : PointerArithmetic) (handle : Nat) (now : Int) (seen : BrowserReading)
    (reading : SocketReading) (page : BrowserPage) : BrowserPage :=
  let fired := { page with frames := page.frames.cancel handle }
  match page.frames.callback? handle with
  | none => page
  | some .render => fired.requestRender
  | some .pointer => fired.pointerFrame arithmetic now seen reading
  | some .scroll => fired.scrollFrame now seen reading

/-- Whom a sweep forgets is left to the drawn page. -/
def interval (handle : Nat) (now : Int) (reading : SocketReading) (page : BrowserPage) :
    BrowserPage :=
  match page.intervals.callback? handle with
  | some .ping =>
    { page with
      toCopresenceInstance :=
        page.sendBuilt reading ((buildPing page.page.wire now).map id .ping) }
  | some .staleSweep | none => page

def mousemove (point : ViewportPoint) (page : BrowserPage) : BrowserPage :=
  if .mousemove ∈ page.listeners then
    let (pointerCapture, frames) := page.pointerCapture.handleMove point page.frames
    { page with pointerCapture, frames }
  else page

def scroll (page : BrowserPage) : BrowserPage :=
  if .scroll ∈ page.listeners then
    let (scrollCapture, frames) := page.scrollCapture.scheduleIn .scroll page.frames
    { page with scrollCapture, frames }
  else page

def step (arithmetic : PointerArithmetic) (page : BrowserPage) : BrowserEvent → BrowserPage
  | .connect now eventId state => page.connect now eventId state
  | .disconnect now reading => page.disconnect now reading
  | .opened socket now viewport state greeting reading =>
    page.inner (.opened socket now viewport state greeting reading)
  | .closed socket => page.inner (.closed socket)
  | .errored socket => page.inner (.errored socket)
  | .timer handle => page.inner (.timer handle)
  | .mousemove point => page.mousemove point
  | .scroll => page.scroll
  | .visibilityChange now viewport state changeId sessionId reading =>
    page.visibilityChange now viewport state changeId sessionId reading
  | .frame handle now seen reading => page.frame arithmetic handle now seen reading
  | .interval handle now reading => page.interval handle now reading
  | .added index reading => page.inner (.added index reading)
  | .addFailed index => page.inner (.addFailed index)

end BrowserPage

end Copresence
