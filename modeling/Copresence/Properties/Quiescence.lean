import Copresence.Properties.Holding
import Copresence.Server.Run

/-! What a page still does once it was told to disconnect, whatever its connection
and its browser report after that. -/
namespace Copresence

open Transition

/-- Whatever socket still has the listeners was told to close. -/
def Transport.Told (wiring : Wiring) : Prop :=
  ∀ socket ∈ wiring.listening, socket ∈ wiring.closing

namespace Transport

variable {transport : Transport}

/-- After a disconnect every socket still listened to was told to close. -/
theorem disconnect_told (owned : Wiring.Owned transport.toWiring)
    (onStatusChange : StatusHandler) : Told (transport.disconnect onStatusChange).toWiring := by
  cases hLive : transport.currentStatus.live with
  | false =>
      rw [disconnect_of_settled hLive]
      intro socket listed
      rw [(owned.free hLive).2.1] at listed
      cases listed
  | true =>
      rw [disconnect_toWiring _ owned hLive]
      intro socket listed
      cases attached : transport.socket with
      | none =>
          rw [attached] at listed
          have before : socket ∈ transport.listening := listed
          rw [owned.attached, attached] at before
          cases before
      | some other =>
          rw [attached] at listed
          have before : socket ∈ transport.listening := listed
          rw [owned.attached, attached, Option.mem_toList] at before
          rw [← Option.some.inj before]
          exact List.mem_append_right _ List.mem_cons_self

/-- After a close, too, every socket still listened to was told to close. -/
theorem handleClose_told (owned : Wiring.Owned transport.toWiring) {socket : Nat}
    (attached : socket ∈ transport.listening) (onStatusChange : StatusHandler) :
    Told (transport.handleClose onStatusChange).toWiring := by
  rw [handleClose_toWiring _ owned attached]
  split <;> (intro other listed; cases listed)

/-- Nothing but a new connection gives a socket the listeners. -/
theorem step_told (halted : Halted transport.toWiring) (told : Told transport.toWiring)
    {event : TransportEvent} (notConnect : ∀ onStatusChange, event ≠ .connect onStatusChange) :
    Told (step transport event).toWiring := by
  cases event with
  | connect onStatusChange => exact absurd rfl (notConnect onStatusChange)
  | disconnect onStatusChange => exact disconnect_told halted.owned onStatusChange
  | send message reading =>
      show Told (transport.send message reading).toWiring
      rw [send_toWiring]
      exact told
  | opened socket onStatusChange reading =>
      rw [step]
      split
      · rw [handleOpen_toWiring]
        exact told
      · exact told
  | message socket => exact told
  | closed socket onStatusChange =>
      have reported : Wiring.Owned ({ transport with
          closing := transport.closing.filter (· ≠ socket) } : Transport).toWiring :=
        { halted.owned with }
      rw [step]
      split
      · next attached => exact handleClose_told reported attached onStatusChange
      · next detached =>
          intro other listed
          refine List.mem_filter.mpr ⟨told other listed, ?_⟩
          rw [decide_eq_true_eq]
          rintro rfl
          exact detached listed
  | errored socket onStatusChange =>
      rw [step]
      split
      · next attached => exact handleClose_told halted.owned attached onStatusChange
      · exact told
  | timer handle onStatusChange =>
      have nothing : transport.pending = [] := by
        rw [halted.owned.timed, halted.timer]
        rfl
      rw [step, if_neg (by rw [nothing]; simp)]
      exact told

end Transport

namespace CopresenceInstance

open Transport

variable {page : CopresenceInstance}

/-- An open event is ignored, or opens the socket it is of. -/
theorem opened_transport (page : CopresenceInstance) (socket : Nat) (now : Int)
    (viewport : ViewportInfo) (state : VisibilityState) (greeting reading : SocketReading) :
    page.opened socket now viewport state greeting reading = page ∨
      socket ∈ page.transport.listening ∧ ∃ onStatusChange,
        (page.opened socket now viewport state greeting reading).transport =
          page.transport.handleOpen onStatusChange reading := by
  rw [opened]
  split
  · next guard => exact Or.inr ⟨guard.1, _, rfl⟩
  · exact Or.inl rfl

/-- What an event does to the wiring is what an event of the connection does, a call
of `connect` or an opening only where the page itself is told of one. -/
theorem step_wiring (page : CopresenceInstance) (event : InstanceEvent) :
    ∃ before inner, before.toWiring = page.transport.toWiring ∧
      (page.step event).transport.toWiring = (Transport.step before inner).toWiring ∧
      ((∀ now eventId state, event ≠ .connect now eventId state) →
        ∀ onStatusChange, inner ≠ .connect onStatusChange) := by
  have idle : ∀ after : CopresenceInstance,
      after.transport.toWiring = page.transport.toWiring →
      ∃ before inner, before.toWiring = page.transport.toWiring ∧
        after.transport.toWiring = (Transport.step before inner).toWiring ∧
        ((∀ now eventId state, event ≠ .connect now eventId state) →
          ∀ onStatusChange, inner ≠ .connect onStatusChange) :=
    fun after same => ⟨page.transport, .message 0, rfl, same, by simp⟩
  cases event with
  | connect now eventId state =>
      exact ⟨page.transport, .connect fun _ => [], rfl, rfl, fun not => absurd rfl (not _ _ _)⟩
  | disconnect now reading =>
      refine ⟨(page.sendBuilt reading ((buildBye page.page.wire now).map id .bye)).transport,
        .disconnect fun _ => [], send_toWiring _ _ _, rfl, by simp⟩
  | opened socket now viewport state greeting reading =>
      rw [step]
      rcases opened_transport page socket now viewport state greeting reading with
        same | ⟨attached, onStatusChange, opens⟩
      · rw [same]
        exact idle _ rfl
      · refine ⟨page.transport, .opened socket onStatusChange reading, rfl, ?_, by simp⟩
        rw [Transport.step, if_pos attached, opens]
  | closed socket => exact ⟨page.transport, .closed socket fun _ => [], rfl, rfl, by simp⟩
  | errored socket => exact ⟨page.transport, .errored socket fun _ => [], rfl, rfl, by simp⟩
  | timer handle => exact ⟨page.transport, .timer handle fun _ => [], rfl, rfl, by simp⟩
  | pointer now x y reading =>
      apply idle
      rw [step]
      split
      · exact send_toWiring _ _ _
      · rfl
  | scroll now x y reading =>
      apply idle
      rw [step]
      split
      · exact send_toWiring _ _ _
      · rfl
  | ping now reading =>
      apply idle
      rw [step]
      split
      · exact send_toWiring _ _ _
      · rfl
  | visibilityChange now viewport state changeId sessionId reading =>
      apply idle
      rw [step]
      split
      · rw [visibilityChange]
        split
        · exact send_toWiring _ _ _
        · rfl
      · rfl
  | added index reading =>
      apply idle
      rw [step, added]
      split
      · rfl
      · split
        · exact send_toWiring _ _ _
        · rfl
  | addFailed index => exact idle _ rfl

/-- Every event leaves a page whose connection's parts belong together. -/
theorem step_owned (owned : Wiring.Owned page.transport.toWiring) (event : InstanceEvent) :
    Wiring.Owned (page.step event).transport.toWiring := by
  obtain ⟨before, inner, same, stepped, _⟩ := page.step_wiring event
  rw [stepped]
  exact Transport.step_owned (same ▸ owned) inner

/-- A page that has left: it captures, hears and pings nothing, and its connection has
no timer and no socket but one that was told to close. -/
structure Left (page : CopresenceInstance) : Prop where
  pointer : page.pointerCaptureActive = false
  listening : page.listening = false
  pinging : page.pinging = false
  halted : Halted page.transport.toWiring
  told : Told page.transport.toWiring

/-- A disconnect leaves a page that has left. -/
theorem disconnect_left (owned : Wiring.Owned page.transport.toWiring) (now : Int)
    (reading : SocketReading) : (page.disconnect now reading).Left := by
  have sent : Wiring.Owned
      (page.sendBuilt reading ((buildBye page.page.wire now).map id .bye)).transport.toWiring := by
    have same := send_toWiring (.bye (buildBye page.page.wire now).2) (page.observe reading)
      page.transport
    exact same ▸ owned
  exact ⟨rfl, rfl, rfl, (disconnect_halted _ sent).1, disconnect_told sent _⟩

/-- No call of the host page, and no socket that opens though it was told to close. -/
def LeavesAlone (page : CopresenceInstance) : InstanceEvent → Prop
  | .connect .. | .disconnect .. => False
  | .opened socket .. => socket ∉ page.transport.closing
  | _ => True

/-- A page that has left and is let alone builds nothing and creates nothing. -/
theorem Left.step (left : page.Left) {event : InstanceEvent} (alone : page.LeavesAlone event) :
    (page.step event).Left ∧ (page.step event).page = page.page ∧
      (page.step event).transport.creations = page.transport.creations := by
  have quiet : (page.step event).pointerCaptureActive = false ∧
      (page.step event).listening = false ∧ (page.step event).pinging = false ∧
      (page.step event).page = page.page := by
    have idle := And.intro left.pointer (And.intro left.listening (And.intro left.pinging
      (Eq.refl page.page)))
    cases event with
    | connect now eventId state => exact absurd alone id
    | disconnect now reading => exact absurd alone id
    | opened socket now viewport state greeting reading =>
        rw [CopresenceInstance.step]
        rcases opened_transport page socket now viewport state greeting reading with
          same | ⟨attached, _⟩
        · rw [same]
          exact idle
        · exact absurd (left.told socket attached) alone
    | closed socket =>
        refine ⟨left.pointer, left.listening, ?_, rfl⟩
        show (if _ then false else page.pinging) = false
        rw [left.pinging, ite_self]
    | errored socket =>
        refine ⟨left.pointer, left.listening, ?_, rfl⟩
        show (if _ then false else page.pinging) = false
        rw [left.pinging, ite_self]
    | timer handle => exact idle
    | pointer now x y reading =>
        rw [CopresenceInstance.step, if_neg (by simp [left.pointer])]
        exact idle
    | scroll now x y reading =>
        rw [CopresenceInstance.step, if_neg (by simp [left.listening])]
        exact idle
    | ping now reading =>
        rw [CopresenceInstance.step, if_neg (by simp [left.pinging])]
        exact idle
    | visibilityChange now viewport state changeId sessionId reading =>
        rw [CopresenceInstance.step, if_neg (by simp [left.listening])]
        exact idle
    | added index reading =>
        rw [CopresenceInstance.step, added]
        split <;> exact idle
    | addFailed index => exact idle
  obtain ⟨before, inner, same, stepped, plain⟩ := page.step_wiring event
  have notConnect : ∀ onStatusChange, inner ≠ .connect onStatusChange := by
    apply plain
    rintro now eventId state rfl
    exact alone
  have halted : Halted before.toWiring := same ▸ left.halted
  have after := step_halted halted notConnect
  have told := step_told halted (same ▸ left.told) notConnect
  have creations : (page.step event).transport.creations = before.creations :=
    (congrArg Wiring.creations stepped).trans after.2
  refine ⟨⟨quiet.1, quiet.2.1, quiet.2.2.1, ?_, ?_⟩, quiet.2.2.2, ?_⟩
  · rw [stepped]
    exact after.1
  · rw [stepped]
    exact told
  · rw [creations]
    exact congrArg Wiring.creations same

end CopresenceInstance

namespace BrowserPage

variable {arithmetic : PointerArithmetic} {page : BrowserPage}

/-- The host page calls nothing, and no socket opens that was told to close. -/
def LeftAlone (page : BrowserPage) : BrowserEvent → Prop
  | .connect .. | .disconnect .. => False
  | .opened socket .. => socket ∉ page.transport.closing
  | _ => True

/-- A page that has left has nothing in its browser. -/
theorem Holds.nothing (holds : page.Holds) (left : page.Left) :
    page.listeners = [] ∧ page.frames.armed = [] ∧ page.intervals.armed = [] := by
  refine ⟨?_, ?_, ?_⟩
  · rw [List.eq_nil_iff_forall_not_mem]
    intro listener listed
    have wanted := (holds.listens listener).mp listed
    cases listener <;> simp [wants, left.pointer, left.listening] at wanted
  · apply holds.frames.armed_eq_nil
    intro callback
    have drawn := holds.drawn
    have pointing := holds.pointing
    have scrolling := holds.scrolling
    rw [left.listening] at drawn scrolling
    rw [left.pointer] at pointing
    cases callback with
    | render => simpa [frameHandle] using drawn
    | pointer => simpa [frameHandle] using pointing
    | scroll => simpa [frameHandle] using scrolling
  · apply holds.timed.held.armed_eq_nil
    have ping := holds.timed.ping
    have sweep := holds.timed.sweep
    rw [left.pinging] at ping sweep
    intro callback
    cases callback with
    | ping => simpa [intervalHandle] using ping
    | staleSweep => simpa [intervalHandle] using sweep

/-- An event of the browser that lets a page alone is one of the page that does. -/
theorem leavesAlone_of_event? {event : BrowserEvent} (alone : page.LeftAlone event)
    {told : InstanceEvent} (isTold : page.event? arithmetic event = some told) :
    page.LeavesAlone told := by
  cases event with
  | connect now eventId state => exact absurd alone id
  | disconnect now reading => exact absurd alone id
  | opened socket now viewport state greeting reading =>
      rw [← Option.some.inj isTold]
      exact alone
  | mousemove point | scroll => cases isTold
  | frame handle now seen reading =>
      rw [event?] at isTold
      split at isTold
      · obtain ⟨point, _, rfl⟩ := Option.map_eq_some_iff.mp isTold
        trivial
      · obtain ⟨_, _, rfl⟩ := Option.map_eq_some_iff.mp isTold
        trivial
      · cases isTold
      · cases isTold
  | interval handle now reading =>
      rw [event?] at isTold
      split at isTold
      · rw [← Option.some.inj isTold]
        trivial
      · cases isTold
      · cases isTold
  | closed _ | errored _ | timer _ | visibilityChange _ _ _ _ _ _ | added _ _ | addFailed _ =>
      rw [← Option.some.inj isTold]
      trivial

/-- One more event that leaves the page alone. -/
theorem left_step (arithmetic : PointerArithmetic) (holds : page.Holds) (left : page.Left)
    {event : BrowserEvent} (alone : page.LeftAlone event) :
    (page.step arithmetic event).Left ∧ (page.step arithmetic event).page = page.page ∧
      (page.step arithmetic event).transport.creations = page.transport.creations := by
  have stepped := step_toCopresenceInstance arithmetic holds event
  cases told : page.event? arithmetic event with
  | none =>
      rw [told] at stepped
      rw [stepped]
      exact ⟨left, rfl, rfl⟩
  | some inner =>
      rw [told] at stepped
      rw [stepped]
      exact left.step (leavesAlone_of_event? alone told)

/-- From a disconnect on, until the host page calls again, the page has no listener, no
frame and no timer in its browser, sets none, creates no socket and builds no message,
whatever else happens; unless a socket opens that was told to close. -/
theorem quiet_after_disconnect (arithmetic : PointerArithmetic) (wire : WireContext)
    (events later : List BrowserEvent) (now : Int) (reading : SocketReading)
    (alone : Along (step arithmetic) LeftAlone
      (run (step arithmetic) (initial wire) (events ++ [.disconnect now reading])) later) :
    let gone := run (step arithmetic) (initial wire) (events ++ [.disconnect now reading])
    let page := run (step arithmetic) gone later
    (page.listeners = [] ∧ page.frames.armed = [] ∧ page.intervals.armed = []) ∧
      page.transport.pending = [] ∧ page.transport.creations = gone.transport.creations ∧
      page.page = gone.page := by
  intro gone page
  have before := held_always arithmetic wire events
  have owned : Wiring.Owned (run (step arithmetic) (initial wire) events).transport.toWiring := by
    rw [before.2]
    exact invariant_run (P := fun page : CopresenceInstance => Wiring.Owned page.transport.toWiring)
      (fun _ event owned => CopresenceInstance.step_owned owned event) Transport.owned_initial _
  have left : gone.Left := by
    show (run (step arithmetic) (initial wire) (events ++ [.disconnect now reading])).Left
    rw [run_concat, step, disconnect_toCopresenceInstance]
    exact CopresenceInstance.disconnect_left owned now reading
  have holds : gone.Holds := (held_always arithmetic wire _).1
  have after : page.Holds ∧ page.Left ∧ page.page = gone.page ∧
      page.transport.creations = gone.transport.creations := by
    refine invariant_run_along (P := fun page : BrowserPage => page.Holds ∧ page.Left ∧
      page.page = gone.page ∧ page.transport.creations = gone.transport.creations)
      ?_ ⟨holds, left, rfl, rfl⟩ alone
    rintro page event alone ⟨holds, left, built, created⟩
    obtain ⟨still, same, creations⟩ := left_step arithmetic holds left alone
    exact ⟨holds.step arithmetic event, still, same.trans built, creations.trans created⟩
  have pending : page.transport.pending = [] := by
    rw [after.2.1.halted.owned.timed, after.2.1.halted.timer]
    rfl
  exact ⟨after.1.nothing after.2.1, pending, after.2.2.2, after.2.2.1⟩

open Scenario

/-- Exact for whole pixels along one axis. -/
def axisArithmetic : PointerArithmetic where
  add
    | .finite first, .finite second => .finite (first + second)
    | _, _ => .nan
  div
    | .finite first, .finite second => if second = 0 then .nan else .finite (first / second)
    | _, _ => .nan
  sub
    | .finite first, .finite second => .finite (first - second)
    | _, _ => .nan
  hypot
    | .finite first, .finite second => .finite (|first| + |second|)
    | _, _ => .nan

/-- The pointer moves while a socket is open, and a frame is asked for. -/
def visited : List BrowserEvent :=
  [.connect 0 (freshId 1) .visible,
    .opened 0 2 ⟨800, 600, 1⟩ .visible ⟨true, fun _ => 0⟩ ⟨true, fun _ => 0⟩,
    .mousemove ⟨.finite 40, .finite 30⟩]

/-- What was asked for comes all the same, then the socket's close. -/
def aftermath : List BrowserEvent :=
  [.frame 1 21 ⟨800, 600, 1, 0, 0, .visible⟩ ⟨false, fun _ => 0⟩,
    .frame 2 21 ⟨800, 600, 1, 0, 0, .visible⟩ ⟨false, fun _ => 0⟩,
    .mousemove ⟨.finite 90, .finite 30⟩, .interval 1 22 ⟨false, fun _ => 0⟩, .closed 0]

theorem quiet_after_disconnect_visited :
    let gone := run (step axisArithmetic) (initial (createWireContext session alice))
      (visited ++ [.disconnect 20 ⟨true, fun _ => 0⟩])
    let page := run (step axisArithmetic) gone aftermath
    Along (step axisArithmetic) LeftAlone gone aftermath ∧
      (page.listeners = [] ∧ page.frames.armed = [] ∧ page.intervals.armed = []) ∧
      page.transport.pending = [] ∧ page.transport.creations = gone.transport.creations ∧
      page.page = gone.page := by
  intro gone page
  have alone : Along (step axisArithmetic) LeftAlone gone aftermath :=
    ⟨trivial, trivial, trivial, trivial, trivial, trivial⟩
  exact ⟨alone, quiet_after_disconnect axisArithmetic (createWireContext session alice) visited
    aftermath 20 ⟨true, fun _ => 0⟩ alone⟩

end BrowserPage

end Copresence
