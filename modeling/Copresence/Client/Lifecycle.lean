import Copresence.Client.Wire

/-! The page's lifecycle: which audit events a change of visibility makes the
page report. Each handler lists the messages it passes to `emit`, in order. -/
namespace Copresence

/-- The wire context and what `createLifecycle` remembers of one page. -/
structure Page where
  wire : WireContext
  sessionOpen : Bool := false
  lastVisibilityState : Option VisibilityState := none
deriving DecidableEq, Repr

namespace Page

def openSession (now : Int) (eventId : EventId) (page : Page) : Page × List AuditMessage :=
  if page.sessionOpen then (page, [])
  else
    let (wire, message) := buildSessionStart page.wire now eventId
    ({ page with wire, sessionOpen := true }, [message])

def closeSession (now : Int) (eventId : EventId) (reason : EndReason) (page : Page) :
    Page × List AuditMessage :=
  if page.sessionOpen then
    let (wire, message) := buildSessionEnd page.wire now eventId reason
    ({ page with wire, sessionOpen := false }, [message])
  else (page, [])

/-- `changeId` and `sessionId` are the ids drawn for the two events. -/
def onVisibilityChange (now : Int) (changeId sessionId : EventId) (state : VisibilityState)
    (page : Page) : Page × List AuditMessage :=
  if page.lastVisibilityState = some state then (page, [])
  else
    let (wire, change) := buildVisibilityChange page.wire now changeId state
    let noted := { page with wire, lastVisibilityState := some state }
    let (next, messages) := match state with
      | .hidden => noted.closeSession now sessionId .navigate
      | .visible => noted.openSession now sessionId
    (next, change :: messages)

/-- What `start` emits, after it has begun to replay the outbox. -/
def start (now : Int) (eventId : EventId) (state : VisibilityState) (page : Page) :
    Page × List AuditMessage :=
  let noted := { page with lastVisibilityState := some state }
  match state with
  | .visible => noted.openSession now eventId
  | .hidden => (noted, [])

end Page

/-- What happens to a page's lifecycle. The document's visibility changes
without it; the 'visibilitychange' event is one of its own. -/
inductive LifecycleEvent where
  | start (now : Int) (eventId : EventId)
  | stop
  | visibility (state : VisibilityState)
  | visibilityChange (now : Int) (changeId sessionId : EventId)
  | pageHide (persisted : Bool)
deriving DecidableEq, Repr

/-- The page, the visibility of its document, whether the listeners are added,
and every message built so far. -/
structure Lifecycle where
  page : Page
  visibilityState : VisibilityState
  listening : Bool := false
  built : List AuditMessage := []
deriving DecidableEq, Repr

namespace Lifecycle

def createLifecycle (wire : WireContext) (visibilityState : VisibilityState) : Lifecycle :=
  { page := { wire }, visibilityState }

/-- A 'pagehide' flushes the outbox and builds nothing. -/
def step (lifecycle : Lifecycle) : LifecycleEvent → Lifecycle
  | .start now eventId =>
    let (page, messages) := lifecycle.page.start now eventId lifecycle.visibilityState
    { lifecycle with page, listening := true, built := lifecycle.built ++ messages }
  | .stop => { lifecycle with listening := false }
  | .visibility state => { lifecycle with visibilityState := state }
  | .visibilityChange now changeId sessionId =>
    if lifecycle.listening then
      let (page, messages) :=
        lifecycle.page.onVisibilityChange now changeId sessionId lifecycle.visibilityState
      { lifecycle with page, built := lifecycle.built ++ messages }
    else lifecycle
  | .pageHide _ => lifecycle

end Lifecycle

end Copresence
