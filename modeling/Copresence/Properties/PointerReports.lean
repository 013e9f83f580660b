import Copresence.Properties.Holding
import Mathlib.Data.List.Chain

/-! Which positions of the pointer a page sends: none too close to the one before it,
and the last one is where the pointer is, or not far from there, whenever no frame is
due. -/
namespace Copresence

open Transition

namespace PointerCapture

variable {arithmetic : PointerArithmetic} {moves : List ViewportPoint}
  {capture : PointerCapture}

/-- Among the moves so far the captured points are some, in order, and apart from one
another. A frame that was asked for will look at a move that came after them; without
one the last of them is where the pointer is, or within the dead band of it. -/
structure Faithful (arithmetic : PointerArithmetic) (moves : List ViewportPoint)
    (capture : PointerCapture) : Prop where
  among : capture.captured.Sublist moves
  apart : capture.captured.IsChain fun before after =>
    exceedsDeadBand arithmetic (some before) after = true
  last : capture.lastEmitted = capture.captured.getLast?
  due : capture.scheduler.handle.isSome = true → capture.scheduler.pending = some () ∧
    ∀ point, capture.latest = some point → (capture.captured ++ [point]).Sublist moves
  settled : capture.scheduler.handle = none → ∀ point, capture.latest = some point →
    ∃ sent, capture.captured.getLast? = some sent ∧
      (sent = point ∨ exceedsDeadBand arithmetic (some sent) point = false)

/-- A capture that has seen nothing has reported nothing. -/
theorem faithful_initial : Faithful arithmetic [] {} where
  among := List.Sublist.refl []
  apart := .nil
  last := rfl
  due := by simp
  settled := by simp

/-- Moves nobody listens to change nothing. -/
theorem Faithful.later (faithful : capture.Faithful arithmetic moves)
    (more : List ViewportPoint) : capture.Faithful arithmetic (moves ++ more) where
  among := faithful.among.trans (List.sublist_append_left moves more)
  apart := faithful.apart
  last := faithful.last
  due := by
    intro asked
    have due := faithful.due asked
    exact ⟨due.1, fun point seen => (due.2 point seen).trans (List.sublist_append_left moves more)⟩
  settled := faithful.settled

/-- A move leaves a frame to come, which will look at it. -/
theorem Faithful.handleMove (faithful : capture.Faithful arithmetic moves)
    (point : ViewportPoint) (frames : CallbackTable FrameCallback) :
    (capture.handleMove point frames).1.Faithful arithmetic (moves ++ [point]) := by
  have scheduled : (capture.scheduler.scheduleIn .pointer frames).1 =
      capture.scheduler.schedule frames.next () := by
    rw [RafScheduler.scheduleIn]
    split <;> rfl
  constructor
  case among => exact faithful.among.trans (List.sublist_append_left moves [point])
  case apart => exact faithful.apart
  case last => exact faithful.last
  case due =>
    intro _
    constructor
    · show (capture.scheduler.scheduleIn .pointer frames).1.pending = some ()
      rw [scheduled]
      rfl
    · intro other seen
      rw [← Option.some.inj (show some point = some other from seen)]
      exact faithful.among.append (List.Sublist.refl [point])
  case settled =>
    intro idle
    have handle : (capture.scheduler.scheduleIn .pointer frames).1.handle = none := idle
    rw [scheduled] at handle
    cases handle

/-- A capture that is stopped has no frame to come, and forgets the pointer. -/
theorem Faithful.stop (faithful : capture.Faithful arithmetic moves)
    (frames : CallbackTable FrameCallback) :
    (capture.stop frames).1.Faithful arithmetic moves where
  among := faithful.among
  apart := faithful.apart
  last := faithful.last
  due := by
    show (capture.scheduler.cancelIn frames).1.handle.isSome = true → _
    rw [BrowserPage.cancelIn_fst]
    simp
  settled := by
    intro _ point seen
    cases seen

/-- A frame captures where the pointer is if that is far enough from the last point. -/
theorem Faithful.flush (faithful : capture.Faithful arithmetic moves)
    (newer : ∀ point, capture.latest = some point →
      (capture.captured ++ [point]).Sublist moves) :
    ({ capture with scheduler := {} }.flush arithmetic).1.Faithful arithmetic moves ∧
      ({ capture with scheduler := {} }.flush arithmetic).1.captured =
        capture.captured ++ ({ capture with scheduler := {} }.flush arithmetic).2.toList := by
  rw [PointerCapture.flush]
  cases seen : capture.latest with
  | none =>
      refine ⟨⟨faithful.among, faithful.apart, faithful.last, by simp, ?_⟩, by simp⟩
      intro _ point isSeen
      cases isSeen
  | some point =>
      dsimp only
      split
      · next far =>
          refine ⟨⟨newer point seen, ?_, by simp, by simp, ?_⟩, rfl⟩
          · rw [List.isChain_append]
            refine ⟨faithful.apart, List.isChain_singleton _, ?_⟩
            intro before isLast after isNext
            rw [Option.mem_def, ← faithful.last] at isLast
            rw [show point = after from Option.some.inj isNext, isLast] at far
            exact far
          · intro _ other isSeen
            exact ⟨point, by simp, Or.inl (Option.some.inj isSeen)⟩
      · next near =>
          refine ⟨⟨faithful.among, faithful.apart, faithful.last, by simp, ?_⟩, by simp⟩
          intro _ other isSeen
          cases emitted : capture.lastEmitted with
          | none =>
              rw [emitted] at near
              exact absurd rfl near
          | some sent =>
              rw [emitted, Option.some.inj isSeen] at near
              exact ⟨sent, faithful.last ▸ emitted, Or.inr (Bool.eq_false_of_not_eq_true near)⟩

/-- The capture is faithful after any frame, whether or not it asked for it. -/
theorem Faithful.frame (faithful : capture.Faithful arithmetic moves) :
    (capture.frame arithmetic).1.Faithful arithmetic moves ∧
      (capture.frame arithmetic).1.captured =
        capture.captured ++ (capture.frame arithmetic).2.toList := by
  rw [PointerCapture.frame, RafScheduler.fire]
  cases asked : capture.scheduler.handle with
  | none => exact ⟨faithful, by simp⟩
  | some handle =>
      have due := faithful.due (Option.isSome_of_eq_some asked)
      rw [due.1]
      exact faithful.flush due.2

/-- Only a move and a stop change where the pointer was seen. -/
theorem frame_latest (arithmetic : PointerArithmetic) (capture : PointerCapture) :
    (capture.frame arithmetic).1.latest = capture.latest := by
  have flushed : ∀ capture : PointerCapture,
      (capture.flush arithmetic).1.latest = capture.latest := by
    intro capture
    rw [PointerCapture.flush]
    split
    · rfl
    · split <;> rfl
  rw [PointerCapture.frame]
  split
  · rfl
  · exact flushed _

end PointerCapture

/-- The coordinates of the cursor messages among these. -/
def cursorsOf (messages : List InboundMessage) : List (ℚ × ℚ) :=
  messages.filterMap fun
    | .cursor msg => some (msg.x, msg.y)
    | _ => none

/-- The cursor messages of two lists are those of the first, then those of the second. -/
@[simp] theorem cursorsOf_append (first second : List InboundMessage) :
    cursorsOf (first ++ second) = cursorsOf first ++ cursorsOf second :=
  List.filterMap_append

namespace Transport

/-- A handler that sends no cursor message. -/
def Plain (onStatusChange : StatusHandler) : Prop :=
  ∀ status, cursorsOf ((onStatusChange status).map Prod.fst) = []

variable {transport : Transport} {onStatusChange : StatusHandler}

/-- Flushing the queue passes no message on anew. -/
@[simp] theorem flushQueue_passed (reading : SocketReading) (transport : Transport) :
    (transport.flushQueue reading).passed = transport.passed := by
  rw [flushQueue]
  split
  · rfl
  · split <;> rfl

/-- Whatever becomes of a message that is sent, it is passed on once. -/
@[simp] theorem send_passed (message : InboundMessage) (reading : SocketReading)
    (transport : Transport) :
    (transport.send message reading).passed = transport.passed ++ [message] := by
  rw [send, flushQueue_passed]

/-- A list of messages is passed on in its order. -/
@[simp] theorem sendAll_passed (messages : List (InboundMessage × SocketReading))
    (transport : Transport) :
    (transport.sendAll messages).passed = transport.passed ++ messages.map Prod.fst := by
  induction messages generalizing transport with
  | nil => simp [sendAll]
  | cons first messages ih =>
      show ((transport.send first.1 first.2).sendAll messages).passed = _
      rw [ih, send_passed]
      simp

/-- A change of status passes on no cursor message. -/
@[simp] theorem setStatus_cursors (plain : Plain onStatusChange) (next : ConnectionStatus) :
    cursorsOf (transport.setStatus next onStatusChange).passed = cursorsOf transport.passed := by
  rw [setStatus]
  split
  · rfl
  · simp [plain next]

@[simp] theorem detachSocket_passed (transport : Transport) :
    transport.detachSocket.passed = transport.passed := by
  rw [detachSocket]
  split <;> rfl

@[simp] theorem clearReconnectTimer_passed (transport : Transport) :
    transport.clearReconnectTimer.passed = transport.passed := by
  rw [clearReconnectTimer]
  split <;> rfl

/-- Opening a socket passes on no cursor message. -/
theorem openSocket_cursors (plain : Plain onStatusChange) :
    cursorsOf (transport.openSocket onStatusChange).passed = cursorsOf transport.passed :=
  setStatus_cursors plain _

/-- An opened socket is sent a hello and what was queued, no new cursor message. -/
theorem handleOpen_cursors (plain : Plain onStatusChange) (reading : SocketReading) :
    cursorsOf (transport.handleOpen onStatusChange reading).passed =
      cursorsOf transport.passed := by
  rw [handleOpen, flushQueue_passed, setStatus_cursors plain]

/-- A closed socket passes on no cursor message. -/
theorem handleClose_cursors (plain : Plain onStatusChange) :
    cursorsOf (transport.handleClose onStatusChange).passed = cursorsOf transport.passed := by
  rw [handleClose]
  split
  · rw [setStatus_cursors plain, detachSocket_passed]
  · rw [scheduleReconnect]
    split
    · rw [detachSocket_passed]
    · show cursorsOf (transport.detachSocket.setStatus .reconnecting onStatusChange).passed = _
      rw [setStatus_cursors plain, detachSocket_passed]

/-- Only a call of `send` may pass a cursor message. -/
theorem step_cursors (event : TransportEvent)
    (plain : match event with
      | .connect onStatusChange | .disconnect onStatusChange | .opened _ onStatusChange _
      | .closed _ onStatusChange | .errored _ onStatusChange | .timer _ onStatusChange =>
        Plain onStatusChange
      | .send message _ => cursorsOf [message] = []
      | .message _ => True) :
    cursorsOf (transport.step event).passed = cursorsOf transport.passed := by
  cases event with
  | connect onStatusChange =>
      rw [step, connect]
      split
      · rfl
      · exact openSocket_cursors plain
  | disconnect onStatusChange =>
      rw [step, disconnect]
      split
      · rfl
      · split
        · show cursorsOf transport.stopped.passed = _
          rw [stopped, clearReconnectTimer_passed]
        · rw [setStatus_cursors plain, stopped, clearReconnectTimer_passed]
  | send message reading =>
      rw [step, send_passed, cursorsOf_append, plain, List.append_nil]
  | opened socket onStatusChange reading =>
      rw [step]
      split
      · exact handleOpen_cursors plain reading
      · rfl
  | message socket => rfl
  | closed socket onStatusChange =>
      rw [step]
      split
      · exact handleClose_cursors plain
      · rfl
  | errored socket onStatusChange =>
      rw [step]
      split
      · exact handleClose_cursors plain
      · rfl
  | timer handle onStatusChange =>
      rw [step]
      split
      · exact openSocket_cursors plain
      · rfl

end Transport

namespace CopresenceInstance

variable {page : CopresenceInstance}

/-- A message that is built is passed on, and is a cursor message or none. -/
theorem sendBuilt_cursors (page : CopresenceInstance) (reading : SocketReading)
    (built : WireContext × InboundMessage) :
    cursorsOf (page.sendBuilt reading built).transport.passed =
      cursorsOf page.transport.passed ++ cursorsOf [built.2] := by
  rw [sendBuilt, Transport.send_passed, cursorsOf_append]

/-- The one cursor message an event makes a page send. -/
def cursorOf (page : CopresenceInstance) : InstanceEvent → List (ℚ × ℚ)
  | .pointer _ x y _ => if page.pointerCaptureActive then [(x, y)] else []
  | _ => []

/-- Of the instance's events, a movement alone passes on a cursor message. -/
theorem step_cursors (page : CopresenceInstance) (event : InstanceEvent) :
    cursorsOf (page.step event).transport.passed =
      cursorsOf page.transport.passed ++ page.cursorOf event := by
  have silent : Transport.Plain fun _ => [] := fun _ => rfl
  have same : ∀ transport : Transport,
      cursorsOf transport.passed = cursorsOf page.transport.passed →
      cursorsOf transport.passed = cursorsOf page.transport.passed ++ [] := by simp
  cases event with
  | connect now eventId state =>
      apply same (page.step (.connect now eventId state)).transport
      exact Transport.step_cursors (.connect fun _ => []) silent
  | disconnect now reading =>
      apply same (page.step (.disconnect now reading)).transport
      have left : cursorsOf (page.step (.disconnect now reading)).transport.passed =
          cursorsOf (page.sendBuilt reading
            ((buildBye page.page.wire now).map id .bye)).transport.passed :=
        Transport.step_cursors (.disconnect fun _ => []) silent
      refine left.trans ?_
      rw [sendBuilt_cursors]
      exact List.append_nil _
  | opened socket now viewport state greeting reading =>
      apply same (page.opened socket now viewport state greeting reading).transport
      rw [opened]
      split
      · refine Transport.handleOpen_cursors ?_ reading
        intro status
        cases status <;> rfl
      · rfl
  | closed socket =>
      apply same (page.step (.closed socket)).transport
      exact Transport.step_cursors (.closed socket fun _ => []) silent
  | errored socket =>
      apply same (page.step (.errored socket)).transport
      exact Transport.step_cursors (.errored socket fun _ => []) silent
  | timer handle =>
      apply same (page.step (.timer handle)).transport
      exact Transport.step_cursors (.timer handle fun _ => []) silent
  | pointer now x y reading =>
      rw [step, cursorOf]
      split
      · exact sendBuilt_cursors _ _ _
      · exact same _ rfl
  | scroll now x y reading =>
      rw [step]
      split
      · exact sendBuilt_cursors _ _ _
      · exact same _ rfl
  | ping now reading =>
      rw [step]
      split
      · exact sendBuilt_cursors _ _ _
      · exact same _ rfl
  | visibilityChange now viewport state changeId sessionId reading =>
      rw [step]
      split
      · rw [visibilityChange]
        split
        · exact sendBuilt_cursors { page with
            pointerCaptureActive := decide (state = VisibilityState.visible) } _ _
        · exact same _ rfl
      · exact same _ rfl
  | added index reading =>
      rw [step, added]
      split
      · exact same _ rfl
      · apply same
        split
        · rw [Transport.send_passed, cursorsOf_append]
          exact List.append_nil _
        · rfl
  | addFailed index => exact same _ rfl

end CopresenceInstance

namespace BrowserPage

/-- What the page reads of its browser at a frame. -/
def look : BrowserEvent → List BrowserReading
  | .frame _ _ seen _ => [seen]
  | _ => []

/-- Where a mouse event has the pointer. -/
def moves : BrowserEvent → List ViewportPoint
  | .mousemove point => [point]
  | _ => []

variable {arithmetic : PointerArithmetic} {past more : List BrowserEvent} {page : BrowserPage}

/-- The page has captured faithfully, and the cursor messages it passed on are the
captured points, in order, each placed by what the page read at a frame of its own. -/
structure Reports (arithmetic : PointerArithmetic) (past : List BrowserEvent)
    (page : BrowserPage) : Prop where
  faithful : page.pointerCapture.Faithful arithmetic (past.flatMap moves)
  sent : ∃ seen : List BrowserReading, seen.Sublist (past.flatMap look) ∧
    seen.length = page.pointerCapture.captured.length ∧
    cursorsOf page.transport.passed =
      List.zipWith (place arithmetic) seen page.pointerCapture.captured

/-- The same points were captured, and no cursor was sent. -/
theorem Reports.of_unsent (reports : page.Reports arithmetic past) {after : BrowserPage}
    (faithful : after.pointerCapture.Faithful arithmetic ((past ++ more).flatMap moves))
    (captured : after.pointerCapture.captured = page.pointerCapture.captured)
    (cursors : cursorsOf after.transport.passed = cursorsOf page.transport.passed) :
    after.Reports arithmetic (past ++ more) where
  faithful
  sent := by
    obtain ⟨seen, among, length, sent⟩ := reports.sent
    rw [captured, cursors, List.flatMap_append]
    exact ⟨seen, among.trans (List.sublist_append_left _ _), length, sent⟩

/-- What moves neither the capture nor the cursor messages keeps the reports true. -/
theorem Reports.of_kept (reports : page.Reports arithmetic past) {after : BrowserPage}
    (capture : after.pointerCapture = page.pointerCapture)
    (cursors : cursorsOf after.transport.passed = cursorsOf page.transport.passed) :
    after.Reports arithmetic (past ++ more) := by
  refine reports.of_unsent ?_ (congrArg PointerCapture.captured capture) cursors
  rw [capture, List.flatMap_append]
  exact reports.faithful.later _

/-- A capture that is stopped has nothing left to report. -/
theorem Reports.of_stopped (reports : page.Reports arithmetic past) {after : BrowserPage}
    {frames : CallbackTable FrameCallback}
    (capture : after.pointerCapture = (page.pointerCapture.stop frames).1)
    (cursors : cursorsOf after.transport.passed = cursorsOf page.transport.passed) :
    after.Reports arithmetic (past ++ more) := by
  have captured : after.pointerCapture.captured = page.pointerCapture.captured :=
    (congrArg PointerCapture.captured capture).trans rfl
  refine reports.of_unsent ?_ captured cursors
  rw [capture, List.flatMap_append]
  exact (reports.faithful.stop frames).later _

/-- A disconnect stops the pointer capture. -/
theorem disconnect_pointerCapture (now : Int) (reading : SocketReading) (page : BrowserPage) :
    (page.disconnect now reading).pointerCapture =
      (page.pointerCapture.stop (page.inner (.disconnect now reading)).frames).1 := by
  have same := congrArg pointerCapture (disconnect_withoutTimers now reading page)
  refine same.trans ?_
  show (page.stilled now reading).pointerCapture = _
  rw [stilled, cancelRender_eq]
  show ((page.inner (.disconnect now reading)).pointerCapture.stop _).1 = _
  rw [inner_pointerCapture]

/-- Only hiding the page stops the capture. -/
theorem handleVisibilityChange_pointerCapture (now : Int) (viewport : ViewportInfo)
    (state : VisibilityState) (reading : SocketReading) (page : BrowserPage) :
    let after := page.handleVisibilityChange now viewport state reading
    after.pointerCapture = page.pointerCapture ∨
      state = .hidden ∧ after.pointerCapture = (page.pointerCapture.stop page.frames).1 := by
  cases state with
  | hidden =>
      simp only [handleVisibilityChange]
      split
      · exact Or.inr ⟨trivial, rfl⟩
      · exact Or.inl rfl
  | visible =>
      left
      simp only [handleVisibilityChange]
      split <;> split <;> rfl

/-- A change of visibility stops or starts the pointer capture, and sends no
cursor message. -/
theorem visibilityChange_pointerCapture (now : Int) (viewport : ViewportInfo)
    (state : VisibilityState) (changeId sessionId : EventId) (reading : SocketReading)
    (page : BrowserPage) :
    let after := page.visibilityChange now viewport state changeId sessionId reading
    after.pointerCapture = page.pointerCapture ∨
      state = .hidden ∧ after.pointerCapture = (page.pointerCapture.stop page.frames).1 := by
  have own := handleVisibilityChange_pointerCapture now viewport state reading page
  have heard : (if .visibilityChange ∈ page.listeners then
        page.handleVisibilityChange now viewport state reading else page).pointerCapture =
          page.pointerCapture ∨
      state = .hidden ∧ (if .visibilityChange ∈ page.listeners then
        page.handleVisibilityChange now viewport state reading else page).pointerCapture =
          (page.pointerCapture.stop page.frames).1 := by
    split
    · exact own
    · exact Or.inl rfl
  rw [visibilityChange]
  generalize (if .visibilityChange ∈ page.listeners then
    page.handleVisibilityChange now viewport state reading else page) = next at heard
  dsimp only
  split <;> exact heard

/-- What the instance is told decides which cursor is sent. -/
theorem step_cursors (arithmetic : PointerArithmetic) (holds : page.Holds)
    (event : BrowserEvent) :
    cursorsOf (page.step arithmetic event).transport.passed =
      cursorsOf page.transport.passed ++
        (page.event? arithmetic event).toList.flatMap page.cursorOf := by
  rw [step_toCopresenceInstance arithmetic holds event]
  cases page.event? arithmetic event with
  | none => simp
  | some told => simp [CopresenceInstance.step_cursors]

/-- A frame sends what it captures, placed by what it reads. -/
theorem Reports.frame (reports : page.Reports arithmetic past) (holds : page.Holds)
    (handle : Nat) (now : Int) (seen : BrowserReading) (reading : SocketReading) :
    (page.frame arithmetic handle now seen reading).Reports arithmetic
      (past ++ [.frame handle now seen reading]) := by
  have cursors := step_cursors arithmetic holds (.frame handle now seen reading)
  rw [event?] at cursors
  rw [BrowserPage.frame]
  rw [BrowserPage.step, BrowserPage.frame] at cursors
  cases found : page.frames.callback? handle with
  | none => exact reports.of_kept rfl rfl
  | some callback =>
      rw [found] at cursors
      cases callback with
      | render => exact reports.of_kept rfl (cursors.trans (List.append_nil _))
      | scroll =>
          have capture := congrArg pointerCapture (scrollFrame_eq now seen reading
            { page with frames := page.frames.cancel handle })
          refine reports.of_kept capture (cursors.trans ?_)
          cases page.scrollCapture.fire.2 <;> exact List.append_nil _
      | pointer =>
          have capture : (pointerFrame arithmetic now seen reading
                { page with frames := page.frames.cancel handle }).pointerCapture =
              (page.pointerCapture.frame arithmetic).1 :=
            congrArg pointerCapture (pointerFrame_eq now seen reading _)
          have framed := reports.faithful.frame
          have has := holds.frames.callback?_eq_some_iff.mp found
          have active := holds.pointing (Option.isSome_of_eq_some has)
          constructor
          case faithful =>
            dsimp only
            rw [capture, List.flatMap_append]
            exact framed.1.later _
          case sent =>
            dsimp only
            rw [capture, framed.2, cursors, List.flatMap_append]
            obtain ⟨earlier, among, length, sent⟩ := reports.sent
            cases (page.pointerCapture.frame arithmetic).2 with
            | none =>
                refine ⟨earlier, among.trans (List.sublist_append_left _ _), ?_⟩
                simp [length, sent]
            | some point =>
                have own : page.cursorOf (.pointer now (place arithmetic seen point).1
                    (place arithmetic seen point).2 reading) = [place arithmetic seen point] :=
                  if_pos active
                refine ⟨earlier ++ [seen], among.append (List.Sublist.refl [seen]), ?_⟩
                simp [length, sent, own, List.zipWith_append length]

/-- The reports stay true of every event of the browser. -/
theorem Reports.step (reports : page.Reports arithmetic past) (holds : page.Holds)
    (event : BrowserEvent) :
    (page.step arithmetic event).Reports arithmetic (past ++ [event]) := by
  have cursors := step_cursors arithmetic holds event
  cases event with
  | connect now eventId state =>
      exact reports.of_kept (connect_captures now eventId state page).1
        (cursors.trans (List.append_nil _))
  | disconnect now reading =>
      exact reports.of_stopped (disconnect_pointerCapture now reading page)
        (cursors.trans (List.append_nil _))
  | opened _ _ _ _ _ _ | closed _ | errored _ | timer _ | added _ _ | addFailed _ =>
      exact reports.of_kept (inner_pointerCapture _ page) (cursors.trans (List.append_nil _))
  | mousemove point =>
      rw [BrowserPage.step, mousemove]
      split
      · refine reports.of_unsent ?_ rfl rfl
        rw [List.flatMap_append]
        exact reports.faithful.handleMove point page.frames
      · exact reports.of_kept rfl rfl
  | scroll =>
      rw [BrowserPage.step, scroll]
      split
      · exact reports.of_kept rfl rfl
      · exact reports.of_kept rfl rfl
  | visibilityChange now viewport state changeId sessionId reading =>
      have unsent := cursors.trans (List.append_nil _)
      rcases visibilityChange_pointerCapture now viewport state changeId sessionId reading page with
        kept | ⟨_, stopped⟩
      · exact reports.of_kept kept unsent
      · exact reports.of_stopped stopped unsent
  | frame handle now seen reading => exact reports.frame holds handle now seen reading
  | interval handle now reading =>
      have unsent : cursorsOf (page.interval handle now reading).transport.passed =
          cursorsOf page.transport.passed := by
        refine cursors.trans ?_
        rw [event?]
        split <;> exact List.append_nil _
      refine reports.of_kept ?_ unsent
      rw [BrowserPage.step, interval]
      split <;> rfl

/-- The reports are true of every run, over its events. -/
theorem Reports.run (reports : page.Reports arithmetic past) (holds : page.Holds)
    (events : List BrowserEvent) :
    (Transition.run (BrowserPage.step arithmetic) page events).Reports arithmetic
      (past ++ events) := by
  induction events generalizing page past with
  | nil => exact reports.of_kept rfl rfl
  | cons event events ih =>
      have after := ih (reports.step holds event) (holds.step arithmetic event)
      rw [List.append_assoc] at after
      exact after

/-- The pointer is not moved by this, and its capture not stopped. -/
def LeavesPointer : BrowserEvent → Prop
  | .mousemove _ | .disconnect _ _ | .visibilityChange _ _ .hidden _ _ _ => False
  | _ => True

/-- Where the pointer was seen stays known. -/
theorem step_latest (arithmetic : PointerArithmetic) (page : BrowserPage) {event : BrowserEvent}
    (leaves : LeavesPointer event) :
    (page.step arithmetic event).pointerCapture.latest = page.pointerCapture.latest := by
  cases event with
  | connect now eventId state =>
      exact congrArg PointerCapture.latest (connect_captures now eventId state page).1
  | disconnect now reading => exact leaves.elim
  | opened _ _ _ _ _ _ | closed _ | errored _ | timer _ | added _ _ | addFailed _ =>
      exact congrArg PointerCapture.latest (inner_pointerCapture _ page)
  | mousemove point => exact leaves.elim
  | scroll =>
      rw [BrowserPage.step, scroll]
      split <;> rfl
  | visibilityChange now viewport state changeId sessionId reading =>
      rcases visibilityChange_pointerCapture now viewport state changeId sessionId reading page with
        kept | ⟨isHidden, _⟩
      · exact congrArg PointerCapture.latest kept
      · subst isHidden
        exact leaves.elim
  | frame handle now seen reading =>
      rw [BrowserPage.step, BrowserPage.frame]
      cases page.frames.callback? handle with
      | none => rfl
      | some callback =>
          cases callback with
          | render => rfl
          | scroll =>
              have capture := congrArg pointerCapture (scrollFrame_eq now seen reading
                { page with frames := page.frames.cancel handle })
              exact congrArg PointerCapture.latest capture
          | pointer =>
              have capture : (pointerFrame arithmetic now seen reading
                    { page with frames := page.frames.cancel handle }).pointerCapture =
                  (page.pointerCapture.frame arithmetic).1 :=
                congrArg pointerCapture (pointerFrame_eq now seen reading _)
              dsimp only
              rw [capture]
              exact PointerCapture.frame_latest arithmetic page.pointerCapture
  | interval handle now reading =>
      rw [BrowserPage.step, interval]
      split <;> rfl

/-- Every move that a page capturing the pointer gets is where it sees the pointer. -/
theorem mousemove_latest (holds : page.Holds) (active : page.pointerCaptureActive = true)
    (point : ViewportPoint) :
    (page.mousemove point).pointerCapture.latest = some point := by
  have listed : Listener.mousemove ∈ page.listeners := (holds.listens .mousemove).mpr active
  rw [mousemove, if_pos listed]
  rfl

/-- What a page has sent of the pointer after a run: points it moved to, in order and
apart from one another, placed by frames of the page; and once it has moved while it
was captured, and no frame is due any more, the last of them is there, or within the
dead band of it. -/
structure Reported (arithmetic : PointerArithmetic) (wire : WireContext)
    (events : List BrowserEvent) (page : BrowserPage) : Prop where
  among : page.pointerCapture.captured.Sublist (events.flatMap moves)
  apart : page.pointerCapture.captured.IsChain fun before after =>
    exceedsDeadBand arithmetic (some before) after = true
  sent : ∃ seen : List BrowserReading, seen.Sublist (events.flatMap look) ∧
    seen.length = page.pointerCapture.captured.length ∧
    cursorsOf page.transport.passed =
      List.zipWith (place arithmetic) seen page.pointerCapture.captured
  settled : ∀ before point after, events = before ++ .mousemove point :: after →
    (run (step arithmetic) (initial wire) before).pointerCaptureActive = true →
    (∀ event ∈ after, LeavesPointer event) →
    (∀ handle, (handle, FrameCallback.pointer) ∉ page.frames.armed) →
    ∃ last, page.pointerCapture.captured.getLast? = some last ∧
      (last = point ∨ exceedsDeadBand arithmetic (some last) point = false)

/-- In every run the cursor messages of a page are points the pointer was moved to, in
order, each where the page found it in its document at a frame of its own, and each at
least the dead band away from the one before it. None is missing at the end: when the
pointer rests, is captured and no frame is due, the last of them is where it rests, or
within the dead band of that. -/
theorem pointer_reported (arithmetic : PointerArithmetic) (wire : WireContext)
    (events : List BrowserEvent) :
    (run (step arithmetic) (initial wire) events).Reported arithmetic wire events := by
  have untouched : (initial wire).Reports arithmetic [] :=
    ⟨PointerCapture.faithful_initial, [], List.Sublist.refl [], rfl, rfl⟩
  have reports := untouched.run (initial_holds wire) events
  refine ⟨reports.faithful.among, reports.faithful.apart, reports.sent, ?_⟩
  rintro before point after rfl active leaves undue
  have holds : ∀ earlier, (run (step arithmetic) (initial wire) earlier).Holds :=
    invariant_run (fun _ event holds => holds.step arithmetic event) (initial_holds wire)
  have seen : (run (step arithmetic) (initial wire)
      (before ++ .mousemove point :: after)).pointerCapture.latest = some point := by
    rw [run_append, run_cons]
    refine invariant_run_mem (P := fun page : BrowserPage =>
      page.pointerCapture.latest = some point) ?_ ?_
    · exact mousemove_latest (holds before) active point
    · intro page event listed same
      exact (step_latest arithmetic page (leaves event listed)).trans same
  have idle : (run (step arithmetic) (initial wire)
      (before ++ .mousemove point :: after)).pointerCapture.scheduler.handle = none := by
    rw [Option.eq_none_iff_forall_ne_some]
    intro handle has
    exact undue handle (((holds _).frames.armed_iff handle .pointer).mpr has)
  exact reports.faithful.settled idle point seen

end BrowserPage

end Copresence
