import Copresence.Client.Presence
import Copresence.Lib.Products

/-! What the page draws of the others: a cursor element for each, moved by every
frame of the screen, in the doubles the page computes with. -/
namespace Copresence

open Collections Floating Transition

/-- A position with the local clock at its arrival. -/
structure TimedPoint where
  x : Number binary64
  y : Number binary64
  t : Number binary64
deriving DecidableEq

/-- Projected forward from the latest point by at most the distance from the one
before it. -/
def interpolatedPosition (previous : Option TimedPoint) (latest : TimedPoint)
    (now : Number binary64) : Number binary64 × Number binary64 :=
  match previous with
  | none => (latest.x, latest.y)
  | some previous =>
    let interval := latest.t - previous.t
    if !interval.isFinite || interval.le (.ofRat 0) then (latest.x, latest.y)
    else
      let elapsed := now - latest.t
      let factor := (Number.ofRat 1).min ((Number.ofRat 0).max (elapsed / interval))
      (latest.x + (latest.x - previous.x) * factor, latest.y + (latest.y - previous.y) * factor)

namespace Drawing

def clamp01 (value : Number binary64) : Number binary64 :=
  if value.isFinite then (Number.ofRat 1).min ((Number.ofRat 0).max value) else .ofRat 0

def finiteOr (value fallback : Number binary64) : Number binary64 :=
  if value.isFinite then value else fallback

/-- A difference of finite numbers may be too large for one. -/
def finiteDifferenceOr (a b fallback : Number binary64) : Number binary64 :=
  let result := finiteOr a fallback - finiteOr b fallback
  if result.isFinite then result else fallback

end Drawing

open Drawing in
/-- From the document to the viewport, for any input. -/
def toViewportSpace (documentPoint : Number binary64 × Number binary64)
    (documentWidth scrollY : Number binary64) : Number binary64 × Number binary64 :=
  let safeWidth :=
    if documentWidth.isFinite && (Number.ofRat 0).lt documentWidth then documentWidth
    else .ofRat 0
  (Drawing.clamp01 documentPoint.1 * safeWidth,
    finiteDifferenceOr documentPoint.2 scrollY (.ofRat 0))

/-- An element of the layer: the colour it was built with, its label, and the
translation and the opacity in its style. -/
structure CursorElement where
  color : String
  label : String := ""
  transform : Option (Number binary64 × Number binary64) := none
  opacity : Option (Number binary64) := none
deriving DecidableEq

structure CursorLayer where
  elements : JsMap ParticipantId CursorElement := JsMap.empty

namespace CursorLayer

/-- An element that exists is not built again. -/
def elementFor (layer : CursorLayer) (pid : ParticipantId) (color : String) : CursorElement :=
  (layer.elements.get? pid).getD { color }

def upsert (pid : ParticipantId) (place : Number binary64 × Number binary64) (color : String)
    (label : Option String) (layer : CursorLayer) : CursorLayer :=
  let entry := layer.elementFor pid color
  { elements := layer.elements.set pid
      { entry with transform := some place, label := label.getD entry.label } }

def setOpacity (pid : ParticipantId) (opacity : Number binary64) (layer : CursorLayer) :
    CursorLayer :=
  match layer.elements.get? pid with
  | none => layer
  | some entry =>
    { elements := layer.elements.set pid { entry with opacity := some opacity } }

def remove (pid : ParticipantId) (layer : CursorLayer) : CursorLayer :=
  { elements := layer.elements.delete pid }

def has (layer : CursorLayer) (pid : ParticipantId) : Bool := layer.elements.has pid

end CursorLayer

def opacityFor (staleness : Staleness) : Number binary64 :=
  if staleness = .stale then .ofRat (2 / 5) else .ofRat 1

def RemoteCursorPoint.timed (point : RemoteCursorPoint) : TimedPoint where
  x := .ofRat point.x
  y := .ofRat point.y
  t := .ofRat point.t

/-- The window a frame is drawn for. -/
structure ViewportReading where
  docWidth : Number binary64
  scrollY : Number binary64

/-- The page with what it draws. `reducedMotion` is read once. -/
structure DrawnPage where
  hosted : Hosted
  reducedMotion : Bool
  layer : CursorLayer := {}

/-- What moves the remotes, with the window each frame is drawn for. -/
inductive DrawnEvent where
  | message (msg : OutboundMessage)
  | renderFrame (reading : ViewportReading)
  | staleSweep

namespace DrawnPage

/-- Where a participant's cursor is drawn. -/
def place (reducedMotion : Bool) (now : Int) (reading : ViewportReading)
    (previous : Option RemoteCursorPoint) (latest : RemoteCursorPoint) :
    Number binary64 × Number binary64 :=
  let documentPoint :=
    if reducedMotion then (latest.timed.x, latest.timed.y)
    else interpolatedPosition (previous.map RemoteCursorPoint.timed) latest.timed (.ofRat now)
  toViewportSpace documentPoint reading.docWidth reading.scrollY

/-- One turn of the loop in `renderFrame`. -/
def renderRemote (reducedMotion : Bool) (now : Int) (reading : ViewportReading)
    (page : DrawnPage) (entry : ParticipantId × RemoteParticipant) : DrawnPage :=
  let staleness := stalenessOf entry.2.lastSeenAt now
  if staleness = .expired then
    { page with
      hosted := { page.hosted with client := page.hosted.client.forget entry.1 }
      layer := page.layer.remove entry.1 }
  else
    let drawn :=
      match entry.2.cursorLatest with
      | none => page.layer
      | some latest =>
        page.layer.upsert entry.1
          (place reducedMotion now reading entry.2.cursorPrev latest) entry.2.color none
    { page with layer := drawn.setOpacity entry.1 (opacityFor staleness) }

def renderFrame (now : Int) (reading : ViewportReading) (page : DrawnPage) : DrawnPage :=
  page.hosted.client.remotes.entries.foldl (renderRemote page.reducedMotion now reading) page

/-- One turn of the loop in the sweep. -/
def sweepRemote (now : Int) (page : DrawnPage) (entry : ParticipantId × RemoteParticipant) :
    DrawnPage :=
  if stalenessOf entry.2.lastSeenAt now ≠ .expired then page
  else
    { page with
      hosted := { page.hosted with client := page.hosted.client.forget entry.1 }
      layer := page.layer.remove entry.1 }

def staleSweep (now : Int) (page : DrawnPage) : DrawnPage :=
  page.hosted.client.remotes.entries.foldl (sweepRemote now) page

/-- The elements of those the seed leaves out. -/
def removeUnseen (page : DrawnPage) (participants : List ParticipantSnapshot) : CursorLayer :=
  let unseen := page.hosted.client.remotes.keys.filter fun known =>
    known ∉ participants.map ParticipantSnapshot.pid
  unseen.foldl (fun layer pid => layer.remove pid) page.layer

/-- What one inbound message does to the elements: none is built before a frame. -/
def routeMessage (now : Int) (page : DrawnPage) (msg : OutboundMessage) : DrawnPage :=
  { page with
    hosted := page.hosted.routeMessage now msg
    layer :=
      match msg with
      | .welcome msg => page.removeUnseen msg.participants
      | .snapshot msg => page.removeUnseen msg.participants
      | .leave msg => page.layer.remove msg.pid
      | .join _ | .patch _ | .pong _ | .auditAck _ | .error _ => page.layer }

/-- An event, with the client's clock when it happens. -/
def step (page : DrawnPage) (stamped : Int × DrawnEvent) : DrawnPage :=
  match stamped.2 with
  | .message msg => page.routeMessage stamped.1 msg
  | .renderFrame reading => page.renderFrame stamped.1 reading
  | .staleSweep => page.staleSweep stamped.1

end DrawnPage

end Copresence
