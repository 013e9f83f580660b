import Copresence.Properties.Arming

/-! What a page holds of its browser: every listener, frame and interval is one its
variables know of, and what the browser calls is what `init` takes for an event. -/
namespace Copresence

open Transition

namespace BrowserPage

variable {arithmetic : PointerArithmetic} {page : BrowserPage}

/-- Which listeners the page means to have. -/
def wants (page : BrowserPage) : Listener → Bool
  | .mousemove => page.pointerCaptureActive
  | .scroll | .visibilityChange | .lifecycleChange | .pageHide => page.listening

/-- The listeners are those the page means to have; each frame and each interval that
is armed is known to the page by its handle; a capture has a frame only while it is
on; both timers run exactly while the page pings. -/
structure Holds (page : BrowserPage) : Prop where
  frames : page.frames.Held page.frameHandle
  timed : page.Timed page.pinging
  distinct : page.listeners.Nodup
  listens : ∀ listener, listener ∈ page.listeners ↔ page.wants listener = true
  drawn : page.renderHandle.isSome = page.listening
  pointing : page.pointerCapture.scheduler.handle.isSome = true → page.pointerCaptureActive = true
  scrolling : page.scrollCapture.handle.isSome = true → page.listening = true
  live : page.Live

section Inner

variable (event : InstanceEvent) (page : BrowserPage)

/-- An event of the connection is the instance's own step. -/
@[simp] theorem inner_toCopresenceInstance :
    (page.inner event).toCopresenceInstance = page.toCopresenceInstance.step event :=
  congrArg toCopresenceInstance (inner_withoutTimers event page)

@[simp] theorem inner_listeners : (page.inner event).listeners = page.listeners :=
  (congrArg listeners (inner_withoutTimers event page) :)

@[simp] theorem inner_frames : (page.inner event).frames = page.frames :=
  (congrArg frames (inner_withoutTimers event page) :)

@[simp] theorem inner_renderHandle : (page.inner event).renderHandle = page.renderHandle :=
  (congrArg renderHandle (inner_withoutTimers event page) :)

@[simp] theorem inner_pointerCapture : (page.inner event).pointerCapture = page.pointerCapture :=
  (congrArg pointerCapture (inner_withoutTimers event page) :)

@[simp] theorem inner_scrollCapture : (page.inner event).scrollCapture = page.scrollCapture :=
  (congrArg scrollCapture (inner_withoutTimers event page) :)

/-- An event of the connection asks for no frame and cancels none. -/
@[simp] theorem inner_frameHandle : (page.inner event).frameHandle = page.frameHandle := by
  funext callback
  cases callback <;> simp [frameHandle]

end Inner

/-- The intervals follow the pings, which the step may have turned. -/
theorem Timed.inner {pinging : Bool} (timed : page.Timed pinging) (event : InstanceEvent) :
    (page.inner event).Timed
      (pingingAfter page.transport.currentStatus
        (page.toCopresenceInstance.step event).transport.currentStatus pinging) := by
  have told : ({ page with
      toCopresenceInstance := page.toCopresenceInstance.step event } : BrowserPage).Timed
      pinging := ⟨timed.held, timed.ping, timed.sweep⟩
  exact told.handleStatusChange page.transport.currentStatus

/-- The timers follow the status through every event but a disconnect. -/
theorem Holds.inner_timed (holds : page.Holds) {event : InstanceEvent}
    (notDisconnect : ∀ now reading, event ≠ .disconnect now reading) :
    (page.inner event).Timed (page.toCopresenceInstance.step event).pinging := by
  have turned := (holds.live.step notDisconnect).2
  rw [turned]
  exact holds.timed.inner event

/-- What only concerns the connection leaves listeners and frames alone. -/
theorem Holds.inner (holds : page.Holds) {event : InstanceEvent}
    (notDisconnect : ∀ now reading, event ≠ .disconnect now reading)
    (pointer : (page.toCopresenceInstance.step event).pointerCaptureActive =
      page.pointerCaptureActive)
    (listening : (page.toCopresenceInstance.step event).listening = page.listening) :
    (page.inner event).Holds where
  frames := by
    rw [inner_frames, inner_frameHandle]
    exact holds.frames
  timed := by
    rw [inner_toCopresenceInstance]
    exact holds.inner_timed notDisconnect
  distinct := by
    rw [inner_listeners]
    exact holds.distinct
  listens := by
    intro listener
    rw [inner_listeners, holds.listens]
    cases listener <;> simp [wants, pointer, listening]
  drawn := by
    rw [inner_renderHandle, inner_toCopresenceInstance, listening]
    exact holds.drawn
  pointing := by
    rw [inner_pointerCapture, inner_toCopresenceInstance, pointer]
    exact holds.pointing
  scrolling := by
    rw [inner_scrollCapture, inner_toCopresenceInstance, listening]
    exact holds.scrolling
  live := by
    rw [inner_toCopresenceInstance]
    exact (holds.live.step notDisconnect).1

section Connect

variable (now : Int) (eventId : EventId) (state : VisibilityState) (page : BrowserPage)

/-- Connecting is the instance's own step. -/
@[simp] theorem connect_toCopresenceInstance :
    (page.connect now eventId state).toCopresenceInstance =
      page.toCopresenceInstance.step (.connect now eventId state) := by
  unfold BrowserPage.connect
  dsimp only
  split <;> split <;> simp [listen, startPointer, requestRender] <;> rfl

/-- Connecting adds the listeners of both captures, of visibility and of the page's life. -/
theorem mem_connect_listeners {listener : Listener} :
    listener ∈ (page.connect now eventId state).listeners ↔
      listener ∈ page.listeners ∨ (page.pointerCaptureActive = false ∧ listener = .mousemove) ∨
        listener ∈ [.scroll, .visibilityChange, .lifecycleChange, .pageHide] := by
  unfold BrowserPage.connect
  dsimp only
  split <;> split <;>
    simp_all [listen, startPointer, requestRender, mem_addEventListener, or_assoc]

/-- No listener is added twice, not even by a second connect. -/
theorem connect_distinct (distinct : page.listeners.Nodup) :
    (page.connect now eventId state).listeners.Nodup := by
  unfold BrowserPage.connect
  dsimp only
  split <;> split <;> repeat apply nodup_addEventListener
  all_goals simpa using distinct

/-- The captures themselves begin where they were. -/
theorem connect_captures :
    (page.connect now eventId state).pointerCapture = page.pointerCapture ∧
      (page.connect now eventId state).scrollCapture = page.scrollCapture := by
  unfold BrowserPage.connect
  dsimp only
  split <;> split <;> simp [listen, startPointer, requestRender]

/-- Connecting starts the render loop, which knows of its frame. -/
theorem connect_held (held : page.frames.Held page.frameHandle) :
    (page.connect now eventId state).frames.Held (page.connect now eventId state).frameHandle ∧
      (page.connect now eventId state).renderHandle.isSome = true := by
  have joined : (page.inner (.connect now eventId state)).frames.Held
      (page.inner (.connect now eventId state)).frameHandle := by
    rw [inner_frames, inner_frameHandle]
    exact held
  unfold BrowserPage.connect
  dsimp only
  generalize page.inner (.connect now eventId state) = inner at joined
  split <;> split
  · next rendered => exact ⟨joined, rendered⟩
  · next idle => exact ⟨requestRender_held joined (by simpa using idle), rfl⟩
  · next rendered => exact ⟨joined, rendered⟩
  · next idle => exact ⟨requestRender_held joined (by simpa using idle), rfl⟩

/-- The intervals are those of the instance's step. -/
theorem connect_timed {pinging : Bool}
    (timed : (page.inner (.connect now eventId state)).Timed pinging) :
    (page.connect now eventId state).Timed pinging := by
  unfold BrowserPage.connect
  dsimp only
  generalize page.inner (.connect now eventId state) = inner at timed
  split <;> split <;> exact ⟨timed.held, timed.ping, timed.sweep⟩

end Connect

section Disconnect

variable (now : Int) (reading : SocketReading) (page : BrowserPage)

/-- Without the render frame nothing else is missing. -/
theorem cancelRender_eq :
    page.cancelRender = { page with frames := page.cancelRender.frames, renderHandle := none } := by
  rw [cancelRender]
  split
  · next none =>
      rw [← none]
  · rfl

/-- The page once its captures and its render frame are stopped. -/
def stilled : BrowserPage :=
  ((page.inner (.disconnect now reading)).stopPointer.stopScroll.unlisten
    .visibilityChange).cancelRender

/-- A disconnect stops the captures and the loop, then both intervals, then the
last two listeners. -/
theorem disconnect_eq :
    page.disconnect now reading =
      (((page.stilled now reading).stopPing.stopStaleSweep).unlisten .lifecycleChange).unlisten
        .pageHide :=
  rfl

/-- Of that, the intervals alone are moved by stopping them. -/
theorem disconnect_withoutTimers :
    (page.disconnect now reading).withoutTimers =
      (((page.stilled now reading).unlisten .lifecycleChange).unlisten .pageHide).withoutTimers := by
  rw [disconnect_eq]
  show ((page.stilled now reading).stopPing.stopStaleSweep.withoutTimers.unlisten
    .lifecycleChange).unlisten .pageHide = _
  rw [stopStaleSweep_withoutTimers, stopPing_withoutTimers]
  rfl

/-- A disconnect is the instance's own step. -/
@[simp] theorem disconnect_toCopresenceInstance :
    (page.disconnect now reading).toCopresenceInstance =
      page.toCopresenceInstance.step (.disconnect now reading) := by
  have h := congrArg toCopresenceInstance (disconnect_withoutTimers now reading page)
  refine h.trans ?_
  show (page.stilled now reading).toCopresenceInstance = _
  rw [stilled, cancelRender_eq]
  show ({ (page.inner (.disconnect now reading)).toCopresenceInstance with
    pointerCaptureActive := false } : CopresenceInstance) = _
  rw [inner_toCopresenceInstance]
  rfl

/-- After a disconnect nothing is listened for. -/
theorem disconnect_listeners : (page.disconnect now reading).listeners = [] := by
  have h := congrArg listeners (disconnect_withoutTimers now reading page)
  refine h.trans ?_
  rw [List.eq_nil_iff_forall_not_mem]
  intro listener listed
  have left : listener ∈ removeEventListener .pageHide (removeEventListener .lifecycleChange
      (page.stilled now reading).listeners) := listed
  rw [stilled, cancelRender_eq] at left
  have left' : listener ∈ removeEventListener .pageHide (removeEventListener .lifecycleChange
      (removeEventListener .visibilityChange (removeEventListener .scroll
        (removeEventListener .mousemove (page.inner (.disconnect now reading)).listeners)))) := left
  simp only [mem_removeEventListener] at left'
  cases listener <;> simp at left'

/-- After a disconnect no frame is asked for. -/
theorem disconnect_frameHandle : (page.disconnect now reading).frameHandle = fun _ => none := by
  have h := congrArg frameHandle (disconnect_withoutTimers now reading page)
  refine h.trans ?_
  funext callback
  show (page.stilled now reading).frameHandle callback = none
  rw [stilled, cancelRender_eq]
  generalize page.inner (.disconnect now reading) = inner
  cases callback with
  | render => rfl
  | pointer =>
      show (inner.pointerCapture.scheduler.cancelIn inner.frames).1.handle = none
      rw [cancelIn_fst]
  | scroll =>
      show (inner.scrollCapture.cancelIn inner.stopPointer.frames).1.handle = none
      rw [cancelIn_fst]

/-- After a disconnect the browser holds no frame of the page. -/
theorem disconnect_held (held : page.frames.Held page.frameHandle) :
    (page.disconnect now reading).frames.Held (page.disconnect now reading).frameHandle := by
  have inner : (page.inner (.disconnect now reading)).frames.Held
      (page.inner (.disconnect now reading)).frameHandle := by
    rw [inner_frames, inner_frameHandle]
    exact held
  have stilled : (page.stilled now reading).frames.Held (page.stilled now reading).frameHandle :=
    cancelRender_held (stopScroll_held (stopPointer_held inner))
  have same := disconnect_withoutTimers now reading page
  have frames : (page.disconnect now reading).frames = (page.stilled now reading).frames :=
    (congrArg BrowserPage.frames same :)
  have handles : (page.disconnect now reading).frameHandle =
      (page.stilled now reading).frameHandle := (congrArg BrowserPage.frameHandle same :)
  rw [frames, handles]
  exact stilled

/-- After a disconnect the browser holds no interval of the page. -/
theorem disconnect_timed {pinging : Bool} (timed : page.Timed pinging) :
    (page.disconnect now reading).Timed false := by
  obtain ⟨held, ping, sweep⟩ := timed.inner (.disconnect now reading)
  have stopped : ((page.stilled now reading).stopPing.stopStaleSweep).Timed false := by
    apply Timed.stop
    rw [stilled, cancelRender_eq]
    exact ⟨held, ping, sweep⟩
  rw [disconnect_eq]
  exact ⟨stopped.held, stopped.ping, stopped.sweep⟩

end Disconnect

/-- A page that connects knows of all that it holds. -/
theorem Holds.connect (holds : page.Holds) (now : Int) (eventId : EventId)
    (state : VisibilityState) : (page.connect now eventId state).Holds := by
  have notDisconnect : ∀ other reading,
      InstanceEvent.connect now eventId state ≠ .disconnect other reading := by simp
  constructor
  case frames => exact (connect_held now eventId state page holds.frames).1
  case timed =>
    rw [connect_toCopresenceInstance]
    exact connect_timed now eventId state page (holds.inner_timed notDisconnect)
  case distinct => exact connect_distinct now eventId state page holds.distinct
  case listens =>
    intro listener
    have moves := holds.listens .mousemove
    rw [mem_connect_listeners]
    cases listener with
    | mousemove =>
        have on : (page.toCopresenceInstance.step
            (.connect now eventId state)).pointerCaptureActive = true := rfl
        cases active : page.pointerCaptureActive <;> simp_all [wants]
    | scroll | visibilityChange | lifecycleChange | pageHide =>
        have on : (page.toCopresenceInstance.step (.connect now eventId state)).listening = true :=
          rfl
        simp [wants, on]
  case drawn =>
    rw [(connect_held now eventId state page holds.frames).2, connect_toCopresenceInstance]
    rfl
  case pointing =>
    intro _
    rw [connect_toCopresenceInstance]
    rfl
  case scrolling =>
    intro _
    rw [connect_toCopresenceInstance]
    rfl
  case live =>
    rw [connect_toCopresenceInstance]
    exact (holds.live.step notDisconnect).1

/-- What is built and sent changes nothing the page holds. -/
theorem Holds.of_alike (holds : page.Holds) {after : CopresenceInstance}
    (alike : page.Alike after) :
    ({ page with toCopresenceInstance := after } : BrowserPage).Holds where
  frames := holds.frames
  timed := by
    show (_ : BrowserPage).Timed after.pinging
    rw [alike.pinging]
    exact holds.timed.congr rfl rfl rfl
  distinct := holds.distinct
  listens := by
    intro listener
    have before := holds.listens listener
    cases listener <;> simpa [wants, alike.pointer, alike.listening] using before
  drawn := holds.drawn.trans alike.listening.symm
  pointing := fun has => alike.pointer.trans (holds.pointing has)
  scrolling := fun has => alike.listening.trans (holds.scrolling has)
  live := by
    show after.pinging = true → _
    rw [alike.pinging, alike.status]
    exact holds.live

/-- A page whose pointer capture starts knows of the listener it adds. -/
theorem Holds.startPointer (holds : page.Holds) : page.startPointer.Holds where
  frames := holds.frames
  timed := holds.timed.congr rfl rfl rfl
  distinct := nodup_addEventListener holds.distinct
  listens := by
    intro listener
    have before := holds.listens listener
    show listener ∈ addEventListener .mousemove page.listeners ↔ _
    rw [mem_addEventListener, before]
    cases listener <;> simp [wants, BrowserPage.startPointer, listen]
  drawn := holds.drawn
  pointing := fun _ => rfl
  scrolling := holds.scrolling
  live := holds.live

/-- A capture that stops gives back its listener and its frame. -/
theorem Holds.stopPointer (holds : page.Holds) : page.stopPointer.Holds where
  frames := stopPointer_held holds.frames
  timed := holds.timed.congr rfl rfl rfl
  distinct := nodup_removeEventListener holds.distinct
  listens := by
    intro listener
    have before := holds.listens listener
    show listener ∈ removeEventListener .mousemove page.listeners ↔ _
    rw [mem_removeEventListener, before]
    cases listener <;> simp [wants, BrowserPage.stopPointer, unlisten]
  drawn := holds.drawn
  pointing := by
    show (page.pointerCapture.scheduler.cancelIn page.frames).1.handle.isSome = true → _
    rw [cancelIn_fst]
    simp
  scrolling := holds.scrolling
  live := holds.live

/-- A page that is hidden stops its pointer capture, and one that is shown starts it. -/
theorem Holds.handleVisibilityChange (holds : page.Holds) (now : Int) (viewport : ViewportInfo)
    (state : VisibilityState) (reading : SocketReading) :
    (page.handleVisibilityChange now viewport state reading).Holds := by
  unfold BrowserPage.handleVisibilityChange
  cases state with
  | hidden =>
      dsimp only
      split
      · exact holds.stopPointer
      · exact holds
  | visible =>
      have captured : (if page.pointerCaptureActive then page else page.startPointer).Holds := by
        split
        · exact holds
        · exact holds.startPointer
      dsimp only
      generalize (if page.pointerCaptureActive then page else page.startPointer) = next at captured
      split
      · exact captured.of_alike (CopresenceInstance.alike_sendBuilt _ _ _)
      · exact captured

/-- What else a change of visibility does is the instance's own. -/
theorem Holds.visibilityChange (holds : page.Holds) (now : Int) (viewport : ViewportInfo)
    (state : VisibilityState) (changeId sessionId : EventId) (reading : SocketReading) :
    (page.visibilityChange now viewport state changeId sessionId reading).Holds := by
  have heard : (if .visibilityChange ∈ page.listeners then
      page.handleVisibilityChange now viewport state reading else page).Holds := by
    split
    · exact holds.handleVisibilityChange now viewport state reading
    · exact holds
  rw [BrowserPage.visibilityChange]
  generalize (if .visibilityChange ∈ page.listeners then
    page.handleVisibilityChange now viewport state reading else page) = next at heard
  dsimp only
  split
  · exact heard.of_alike ⟨rfl, rfl, rfl, rfl⟩
  · exact heard

/-- A mouse event may ask for the pointer capture's frame. -/
theorem Holds.mousemove (holds : page.Holds) (point : ViewportPoint) :
    (page.mousemove point).Holds := by
  have frames := mousemove_held point holds.frames
  rw [BrowserPage.mousemove] at frames ⊢
  split at frames
  · next listed =>
      rw [if_pos listed]
      exact { holds with
        frames
        timed := holds.timed.congr rfl rfl rfl
        pointing := fun _ => (holds.listens .mousemove).mp listed }
  · next off =>
      rw [if_neg off]
      exact holds

/-- A scroll event may ask for the scroll capture's frame. -/
theorem Holds.scroll (holds : page.Holds) : page.scroll.Holds := by
  have frames := scroll_held holds.frames
  rw [BrowserPage.scroll] at frames ⊢
  split at frames
  · next listed =>
      rw [if_pos listed]
      exact { holds with
        frames
        timed := holds.timed.congr rfl rfl rfl
        scrolling := fun _ => (holds.listens .scroll).mp listed }
  · next off =>
      rw [if_neg off]
      exact holds

/-- A frame of the pointer capture leaves the flags and the status as they are. -/
theorem alike_pointerFrame (arithmetic : PointerArithmetic) (now : Int) (seen : BrowserReading)
    (reading : SocketReading) (page : BrowserPage) :
    page.Alike (page.pointerFrame arithmetic now seen reading).toCopresenceInstance := by
  rw [pointerFrame]
  split
  · exact ⟨rfl, rfl, rfl, rfl⟩
  · exact CopresenceInstance.alike_sendBuilt _ _ _

/-- A frame of the scroll capture leaves the flags and the status as they are. -/
theorem alike_scrollFrame (now : Int) (seen : BrowserReading) (reading : SocketReading)
    (page : BrowserPage) :
    page.Alike (page.scrollFrame now seen reading).toCopresenceInstance := by
  rw [scrollFrame]
  split
  · exact ⟨rfl, rfl, rfl, rfl⟩
  · exact CopresenceInstance.alike_sendBuilt _ _ _

/-- A frame that runs is given back, and the render loop asks for its next. -/
theorem Holds.frame (holds : page.Holds) (handle now) (seen : BrowserReading)
    (reading : SocketReading) : (page.frame arithmetic handle now seen reading).Holds := by
  have frames : (page.frame arithmetic handle now seen reading).frames.Held
      (page.frame arithmetic handle now seen reading).frameHandle :=
    frame_held now seen reading arithmetic holds.frames
  rw [BrowserPage.frame] at frames ⊢
  cases found : page.frames.callback? handle with
  | none => exact holds
  | some callback =>
      rw [found] at frames
      have has := holds.frames.callback?_eq_some_iff.mp found
      cases callback with
      | render =>
          have drawing : page.renderHandle.isSome = true :=
            Option.isSome_of_eq_some (show page.renderHandle = _ from has)
          exact { holds with
            frames
            timed := holds.timed.congr rfl rfl rfl
            drawn := drawing.symm.trans holds.drawn }
      | pointer =>
          dsimp only at frames ⊢
          have alike := alike_pointerFrame arithmetic now seen reading
            { page with frames := page.frames.cancel handle }
          rw [pointerFrame_eq] at frames ⊢
          have idle : ({ page with
              frames := page.frames.cancel handle
              pointerCapture := (page.pointerCapture.frame arithmetic).1 } : BrowserPage).Holds :=
            { holds with
              frames
              timed := holds.timed.congr rfl rfl rfl
              pointing := by simp }
          exact idle.of_alike alike
      | scroll =>
          dsimp only at frames ⊢
          have alike := alike_scrollFrame now seen reading
            { page with frames := page.frames.cancel handle }
          rw [scrollFrame_eq] at frames ⊢
          have idle : ({ page with
              frames := page.frames.cancel handle
              scrollCapture := page.scrollCapture.fire.1 } : BrowserPage).Holds :=
            { holds with
              frames
              timed := holds.timed.congr rfl rfl rfl
              scrolling := by simp }
          exact idle.of_alike alike

/-- An interval that runs stays held, and sends a ping or sweeps. -/
theorem Holds.interval (holds : page.Holds) (handle : Nat) (now : Int) (reading : SocketReading) :
    (page.interval handle now reading).Holds := by
  rw [BrowserPage.interval]
  split
  · exact holds.of_alike (CopresenceInstance.alike_sendBuilt _ _ _)
  · exact holds
  · exact holds

/-- A page that disconnects holds nothing any more. -/
theorem Holds.disconnect (holds : page.Holds) (now : Int) (reading : SocketReading) :
    (page.disconnect now reading).Holds := by
  have none : ∀ callback, (page.disconnect now reading).frameHandle callback = none := by
    simp [disconnect_frameHandle]
  constructor
  case frames => exact disconnect_held now reading page holds.frames
  case timed =>
    rw [disconnect_toCopresenceInstance]
    exact disconnect_timed now reading page holds.timed
  case distinct =>
    rw [disconnect_listeners]
    exact List.nodup_nil
  case listens =>
    intro listener
    rw [disconnect_listeners]
    cases listener <;> simp [wants, CopresenceInstance.step, CopresenceInstance.disconnect]
  case drawn =>
    rw [show (page.disconnect now reading).renderHandle = _ from none .render,
      disconnect_toCopresenceInstance]
    rfl
  case pointing =>
    rw [show (page.disconnect now reading).pointerCapture.scheduler.handle = _ from none .pointer]
    simp
  case scrolling =>
    rw [show (page.disconnect now reading).scrollCapture.handle = _ from none .scroll]
    simp
  case live =>
    rw [disconnect_toCopresenceInstance]
    intro on
    cases on

/-- Every event leaves a page that knows of all it holds. -/
theorem Holds.step (holds : page.Holds) (arithmetic : PointerArithmetic) (event : BrowserEvent) :
    (page.step arithmetic event).Holds := by
  cases event with
  | connect now eventId state => exact holds.connect now eventId state
  | disconnect now reading => exact holds.disconnect now reading
  | opened socket now viewport state greeting reading =>
      refine holds.inner (by simp) ?_ ?_
      · rw [CopresenceInstance.step, CopresenceInstance.opened]
        split <;> rfl
      · rw [CopresenceInstance.step, CopresenceInstance.opened]
        split <;> rfl
  | closed socket => exact holds.inner (by simp) rfl rfl
  | errored socket => exact holds.inner (by simp) rfl rfl
  | timer handle => exact holds.inner (by simp) rfl rfl
  | mousemove point => exact holds.mousemove point
  | scroll => exact holds.scroll
  | visibilityChange now viewport state changeId sessionId reading =>
      exact holds.visibilityChange now viewport state changeId sessionId reading
  | frame handle now seen reading => exact holds.frame handle now seen reading
  | interval handle now reading => exact holds.interval handle now reading
  | added index reading =>
      refine holds.inner (by simp) ?_ ?_
      · rw [CopresenceInstance.step, CopresenceInstance.added]
        split <;> rfl
      · rw [CopresenceInstance.step, CopresenceInstance.added]
        split <;> rfl
  | addFailed index => exact holds.inner (by simp) rfl rfl

/-- A page as `init` leaves it. -/
def initial (wire : WireContext) : BrowserPage := { page := { wire } }

/-- A page begins with nothing held. -/
theorem initial_holds (wire : WireContext) : (initial wire).Holds where
  frames := CallbackTable.Held.initial.congr fun callback => by cases callback <;> rfl
  timed := ⟨CallbackTable.Held.initial.congr fun callback => by cases callback <;> rfl, rfl, rfl⟩
  distinct := List.nodup_nil
  listens := by
    intro listener
    cases listener <;> simp [initial, wants]
  drawn := rfl
  pointing := by simp [initial]
  scrolling := by simp [initial]
  live := by
    intro on
    cases on

/-- What an event of the browser is to the instance, if anything: a frame counts where
its capture sends, an interval where it pings. -/
def event? (arithmetic : PointerArithmetic) (page : BrowserPage) :
    BrowserEvent → Option InstanceEvent
  | .connect now eventId state => some (.connect now eventId state)
  | .disconnect now reading => some (.disconnect now reading)
  | .opened socket now viewport state greeting reading =>
    some (.opened socket now viewport state greeting reading)
  | .closed socket => some (.closed socket)
  | .errored socket => some (.errored socket)
  | .timer handle => some (.timer handle)
  | .mousemove _ | .scroll => none
  | .visibilityChange now viewport state changeId sessionId reading =>
    some (.visibilityChange now viewport state changeId sessionId reading)
  | .frame handle now seen reading =>
    match page.frames.callback? handle with
    | some .pointer =>
      (page.pointerCapture.frame arithmetic).2.map fun point =>
        .pointer now (place arithmetic seen point).1 (place arithmetic seen point).2 reading
    | some .scroll =>
      page.scrollCapture.fire.2.map fun _ =>
        .scroll now (readScrollOffset seen).1 (readScrollOffset seen).2 reading
    | some .render | none => none
  | .interval handle now reading =>
    match page.intervals.callback? handle with
    | some .ping => some (.ping now reading)
    | some .staleSweep | none => none
  | .added index reading => some (.added index reading)
  | .addFailed index => some (.addFailed index)

/-- The events of a run that its instance is told. -/
def instanceEvents (arithmetic : PointerArithmetic) (page : BrowserPage) :
    List BrowserEvent → List InstanceEvent
  | [] => []
  | event :: events =>
    (page.event? arithmetic event).toList ++
      (page.step arithmetic event).instanceEvents arithmetic events

/-- The page as its visibility makes it capture. -/
theorem handleVisibilityChange_toCopresenceInstance (now : Int) (viewport : ViewportInfo)
    (state : VisibilityState) (reading : SocketReading) (page : BrowserPage) :
    let captured : CopresenceInstance :=
      { page.toCopresenceInstance with
        pointerCaptureActive := decide (state = VisibilityState.visible) }
    (page.handleVisibilityChange now viewport state reading).toCopresenceInstance =
      if state = .visible ∧ page.transport.currentStatus = .open then
        captured.sendBuilt reading ((buildHello page.page.wire now viewport state).map id .hello)
      else captured := by
  intro captured
  have kept : page.pointerCaptureActive = decide (state = VisibilityState.visible) →
      captured = page.toCopresenceInstance := by
    intro same
    show ({ page.toCopresenceInstance with
      pointerCaptureActive := decide (state = VisibilityState.visible) } : CopresenceInstance) = _
    rw [← same]
  unfold handleVisibilityChange
  cases state with
  | hidden =>
      have hidden : ¬(VisibilityState.hidden = .visible ∧
          page.transport.currentStatus = .open) := by simp
      rw [if_neg hidden]
      dsimp only
      split
      · rfl
      · next off => exact (kept (by simpa using off)).symm
  | visible =>
      have started : (if page.pointerCaptureActive then page
          else page.startPointer).toCopresenceInstance = captured := by
        split
        · next on => exact (kept (by simpa using on)).symm
        · rfl
      dsimp only
      generalize (if page.pointerCaptureActive then page else page.startPointer) = next at started
      have same : next.transport.currentStatus = page.transport.currentStatus := by rw [started]
      rw [same, started]
      by_cases isOpen : page.transport.currentStatus = .open
      · rw [if_pos isOpen, if_pos ⟨rfl, isOpen⟩]
      · rw [if_neg isOpen, if_neg (by simp [isOpen])]
        exact started

/-- A change of visibility is the instance's own step. -/
theorem visibilityChange_toCopresenceInstance (holds : page.Holds) (now : Int)
    (viewport : ViewportInfo) (state : VisibilityState) (changeId sessionId : EventId)
    (reading : SocketReading) :
    (page.visibilityChange now viewport state changeId sessionId reading).toCopresenceInstance =
      page.toCopresenceInstance.step
        (.visibilityChange now viewport state changeId sessionId reading) := by
  have own := holds.listens .visibilityChange
  rw [visibilityChange, CopresenceInstance.step]
  by_cases listening : page.listening = true
  · have resynced := holds.handleVisibilityChange now viewport state reading
    have inner := handleVisibilityChange_toCopresenceInstance now viewport state reading page
    have still : (page.handleVisibilityChange now viewport state reading).listening = true := by
      rw [inner]
      split <;> exact listening
    rw [if_pos (own.mpr listening), if_pos listening, CopresenceInstance.visibilityChange]
    dsimp only
    rw [if_pos ((resynced.listens .lifecycleChange).mpr still), inner]
  · have silent := holds.listens .lifecycleChange
    rw [if_neg fun h => listening (own.mp h), if_neg listening]
    dsimp only
    rw [if_neg fun h => listening (silent.mp h)]

/-- A pointer frame is one movement of the instance for each report. -/
theorem pointerFrame_toCopresenceInstance (now : Int) (seen : BrowserReading)
    (reading : SocketReading) (page : BrowserPage) (active : page.pointerCaptureActive = true) :
    (page.pointerFrame arithmetic now seen reading).toCopresenceInstance =
      run CopresenceInstance.step page.toCopresenceInstance
        ((page.pointerCapture.frame arithmetic).2.map fun point =>
          InstanceEvent.pointer now (place arithmetic seen point).1 (place arithmetic seen point).2
            reading).toList := by
  rw [pointerFrame]
  split
  · next fired =>
      rw [fired]
      rfl
  · next pointerCapture point fired =>
      rw [fired]
      show _ = page.toCopresenceInstance.step (.pointer now (place arithmetic seen point).1
        (place arithmetic seen point).2 reading)
      rw [CopresenceInstance.step, if_pos active]

/-- A scroll frame is one scroll of the instance for each report. -/
theorem scrollFrame_toCopresenceInstance (now : Int) (seen : BrowserReading)
    (reading : SocketReading) (page : BrowserPage) (listening : page.listening = true) :
    (page.scrollFrame now seen reading).toCopresenceInstance =
      run CopresenceInstance.step page.toCopresenceInstance
        (page.scrollCapture.fire.2.map fun _ =>
          InstanceEvent.scroll now (readScrollOffset seen).1 (readScrollOffset seen).2
            reading).toList := by
  rw [scrollFrame]
  split
  · next fired =>
      rw [fired]
      rfl
  · next fired =>
      rw [fired]
      show _ = page.toCopresenceInstance.step (.scroll now (readScrollOffset seen).1
        (readScrollOffset seen).2 reading)
      rw [CopresenceInstance.step, if_pos listening]

/-- What the browser calls is what the instance takes for an event. -/
theorem step_toCopresenceInstance (arithmetic : PointerArithmetic) (holds : page.Holds)
    (event : BrowserEvent) :
    (page.step arithmetic event).toCopresenceInstance =
      run CopresenceInstance.step page.toCopresenceInstance
        (page.event? arithmetic event).toList := by
  cases event with
  | connect now eventId state => exact connect_toCopresenceInstance now eventId state page
  | disconnect now reading => exact disconnect_toCopresenceInstance now reading page
  | opened socket now viewport state greeting reading => exact inner_toCopresenceInstance _ page
  | closed socket => exact inner_toCopresenceInstance _ page
  | errored socket => exact inner_toCopresenceInstance _ page
  | timer handle => exact inner_toCopresenceInstance _ page
  | mousemove point =>
      rw [step, mousemove]
      split <;> rfl
  | scroll =>
      rw [step, scroll]
      split <;> rfl
  | visibilityChange now viewport state changeId sessionId reading =>
      exact visibilityChange_toCopresenceInstance holds now viewport state changeId sessionId
        reading
  | frame handle now seen reading =>
      rw [step, frame, event?]
      cases found : page.frames.callback? handle with
      | none => rfl
      | some callback =>
          have has := holds.frames.callback?_eq_some_iff.mp found
          cases callback with
          | render => rfl
          | pointer =>
              have active := holds.pointing (Option.isSome_of_eq_some has)
              exact pointerFrame_toCopresenceInstance now seen reading
                { page with frames := page.frames.cancel handle } active
          | scroll =>
              have listening := holds.scrolling (Option.isSome_of_eq_some has)
              exact scrollFrame_toCopresenceInstance now seen reading
                { page with frames := page.frames.cancel handle } listening
  | interval handle now reading =>
      rw [step, interval, event?]
      cases found : page.intervals.callback? handle with
      | none => rfl
      | some callback =>
          have has := holds.timed.held.callback?_eq_some_iff.mp found
          cases callback with
          | ping =>
              have pinging : page.pinging = true :=
                holds.timed.ping.symm.trans (Option.isSome_of_eq_some has)
              show _ = page.toCopresenceInstance.step (.ping now reading)
              rw [CopresenceInstance.step, if_pos pinging]
          | staleSweep => rfl
  | added index reading => exact inner_toCopresenceInstance _ page
  | addFailed index => exact inner_toCopresenceInstance _ page

/-- In every state a run reaches, what the browser has for the page is what the page
holds, and the page is where the events its instance was told of lead. -/
theorem held_always (arithmetic : PointerArithmetic) (wire : WireContext)
    (events : List BrowserEvent) :
    (run (step arithmetic) (initial wire) events).Holds ∧
      (run (step arithmetic) (initial wire) events).toCopresenceInstance =
        run CopresenceInstance.step (initial wire).toCopresenceInstance
          ((initial wire).instanceEvents arithmetic events) := by
  have holds := initial_holds wire
  generalize initial wire = start at holds
  induction events generalizing start with
  | nil => exact ⟨holds, rfl⟩
  | cons event events ih =>
      have stepped := step_toCopresenceInstance arithmetic holds event
      have later := ih _ (holds.step arithmetic event)
      refine ⟨later.1, later.2.trans ?_⟩
      rw [instanceEvents, run_append, ← stepped]

end BrowserPage

end Copresence
