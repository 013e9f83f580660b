import Copresence.Client.Capture
import Copresence.Protocol.Schemas
import Copresence.Server.Run

/-! Whether the server accepts what the client builds: the client has the
message types of the schemas, but not their checks. -/
namespace Copresence

/-- A moment as `Date.now()` tells it: milliseconds within the range of a time
value. -/
structure Clock where
  ms : Nat
  bounded : ms ≤ 8640000000000000

/-- What a browser can supply. -/
structure SuppliedReading extends BrowserReading where
  ratio_pos : 0 < devicePixelRatio

/-- A page's counter after so many draws. -/
def WireContext.drawn (sid : SessionId) (pid : ParticipantId) : Nat → WireContext
  | 0 => createWireContext sid pid
  | draws + 1 => (drawn sid pid draws).nextSeq.1

/-- After so many draws the next number is one more. -/
theorem WireContext.drawn_eq (sid : SessionId) (pid : ParticipantId) (draws : Nat) :
    drawn sid pid draws = { sid, pid, seq := draws } := by
  induction draws with
  | zero => rfl
  | succ draws ih =>
      rw [drawn, ih]
      rfl

/-- What a page builds messages from. -/
structure BuildInput where
  now : Clock
  reading : SuppliedReading
  clientX : ℚ
  clientY : ℚ
  documentWidth : ℚ
  eventId : EventId
  reason : EndReason

namespace BuildInput

variable (arithmetic : JsArithmetic) (ctx : WireContext) (input : BuildInput)

def point : ℚ × ℚ :=
  toDocumentSpace arithmetic (.finite input.clientX) (.finite input.clientY)
    (.finite input.documentWidth) (.finite input.reading.scrollY)

/-- One message of each kind that the client builds. -/
def built : List InboundMessage :=
  [.hello (buildHello ctx input.now.ms (readViewportMetadata input.reading.toBrowserReading)
      input.reading.visibilityState).2,
    .cursor (buildCursor ctx input.now.ms (input.point arithmetic).1 (input.point arithmetic).2).2,
    .scroll (buildScroll ctx input.now.ms (readScrollOffset input.reading.toBrowserReading).1
      (readScrollOffset input.reading.toBrowserReading).2).2,
    .ping (buildPing ctx input.now.ms).2,
    .bye (buildBye ctx input.now.ms).2,
    .audit (buildSessionStart ctx input.now.ms input.eventId).2,
    .audit (buildSessionEnd ctx input.now.ms input.eventId input.reason).2,
    .audit (buildVisibilityChange ctx input.now.ms input.eventId input.reading.visibilityState).2]

/-- The document has an extent, the window is not scrolled past its start, and
the counter is within the safe integers. -/
structure Acceptable : Prop where
  width : 0 < input.reading.scrollWidth
  height : 0 < input.reading.scrollHeight
  scrollX : 0 ≤ input.reading.scrollX
  scrollY : 0 ≤ input.reading.scrollY
  seq : ctx.seq + 1 ≤ maxSafeInteger

variable {arithmetic ctx input}

/-- The next number is in range as long as it is a safe integer. -/
theorem drawn_countable {sid : SessionId} {pid : ParticipantId} {draws : Nat} :
    Countable ((WireContext.drawn sid pid draws).seq + 1) ↔
      (WireContext.drawn sid pid draws).seq + 1 ≤ maxSafeInteger := by
  rw [WireContext.drawn_eq, Countable]
  dsimp only
  omega

theorem clock_countable (now : Clock) : Countable now.ms := by
  have bounded := now.bounded
  rw [Countable, maxSafeInteger]
  omega

/-- The client's version is in range. -/
theorem protocolVersion_safe : 0 < protocolVersion ∧ (protocolVersion : Int) ≤ maxSafeInteger := by
  decide

/-- The envelope of a message is in range when the counter is. -/
theorem envelope_inRange_iff {sid : SessionId} {pid : ParticipantId} {draws : Nat} (now : Clock) :
    ((WireContext.drawn sid pid draws).envelope now.ms).2.InRange ↔
      (WireContext.drawn sid pid draws).seq + 1 ≤ maxSafeInteger := by
  constructor
  · exact fun range => drawn_countable.mp range.seq
  · exact fun safe => ⟨protocolVersion_safe, drawn_countable.mpr safe, clock_countable now⟩

/-- Everything the client builds has the client's version. -/
theorem built_version {msg : InboundMessage} (hm : msg ∈ input.built arithmetic ctx) :
    msg.envelope.v = protocolVersion := by
  simp only [built, List.mem_cons, List.not_mem_nil, or_false] at hm
  rcases hm with rfl | rfl | rfl | rfl | rfl | rfl | rfl | rfl <;> rfl

/-- Everything a page builds is accepted exactly when its document has an
extent, it is not scrolled past its start, and its counter is safe. -/
theorem built_accepted_iff (arithmetic : JsArithmetic) (message : IssueCode → String)
    (sid : SessionId) (pid : ParticipantId) (draws : Nat) (input : BuildInput) :
    (∀ msg ∈ input.built arithmetic (WireContext.drawn sid pid draws),
        decodeInbound (.ofJson message msg.toJson) = .ok msg) ↔
      input.Acceptable (WireContext.drawn sid pid draws) := by
  have decoded : (∀ msg ∈ input.built arithmetic (WireContext.drawn sid pid draws),
      decodeInbound (.ofJson message msg.toJson) = .ok msg) ↔
      ∀ msg ∈ input.built arithmetic (WireContext.drawn sid pid draws), msg.InRange :=
    forall₂_congr fun msg hm => decodeInbound_toJson_iff (built_version hm) message
  have place := toDocumentSpace_range arithmetic (.finite input.clientX) (.finite input.clientY)
    (.finite input.documentWidth) (.finite input.reading.scrollY)
  have safe : ((WireContext.drawn sid pid draws).envelope input.now.ms).2.InRange ↔
      (WireContext.drawn sid pid draws).seq + 1 ≤ maxSafeInteger := envelope_inRange_iff input.now
  rw [decoded]
  constructor
  · intro ranges
    simp only [built, List.forall_mem_cons] at ranges
    obtain ⟨hello, _, scroll, _⟩ := ranges
    obtain ⟨width, height, _⟩ := hello.2
    exact ⟨Nat.cast_pos.mp width, Nat.cast_pos.mp height, scroll.2.1, scroll.2.2,
      safe.mp hello.1⟩
  · intro acceptable
    have envelope := safe.mpr acceptable.seq
    have width : (0 : ℚ) < input.reading.scrollWidth := Nat.cast_pos.mpr acceptable.width
    have height : (0 : ℚ) < input.reading.scrollHeight := Nat.cast_pos.mpr acceptable.height
    have ratio : (0 : ℚ) < (readViewportMetadata input.reading.toBrowserReading).dpr := by
      rw [readViewportMetadata]
      dsimp only
      rw [if_neg (ne_of_gt input.reading.ratio_pos)]
      exact input.reading.ratio_pos
    simp only [built, List.forall_mem_cons]
    exact ⟨⟨envelope, width, height, ratio⟩, ⟨envelope, place.1, place.2⟩,
      ⟨envelope, acceptable.scrollX, acceptable.scrollY⟩, ⟨envelope, trivial⟩, ⟨envelope, trivial⟩,
      ⟨envelope, trivial⟩, ⟨envelope, trivial⟩, ⟨envelope, trivial⟩, nofun⟩

end BuildInput

open Scenario

/-- A page pulled past its top. -/
def overscrolled : BuildInput where
  now := ⟨0, by decide⟩
  reading :=
    { scrollWidth := 800, scrollHeight := 600, devicePixelRatio := 1, scrollX := 0, scrollY := -30
      visibilityState := .visible, ratio_pos := by decide }
  clientX := 0
  clientY := 0
  documentWidth := 800
  eventId := freshId 1
  reason := .navigate

/-- Arithmetic on finite numbers that need no rounding. -/
def exactArithmetic : JsArithmetic where
  add
    | .finite first, .finite second => .finite (first + second)
    | _, _ => .nan
  div
    | .finite first, .finite second => if second = 0 then .nan else .finite (first / second)
    | _, _ => .nan

/-- The wording of the one issue it is turned down with. -/
def tooSmallText : IssueCode → String := fun _ => "Too small: expected number to be >=0"

/-- Its scroll message is turned down. -/
theorem overscrolled_refused :
    decodeInbound (.ofJson tooSmallText (InboundMessage.toJson (.scroll
        (buildScroll (createWireContext session alice) overscrolled.now.ms 0 (-30)).2))) =
          .error (.validationFailed ["scrollY: Too small: expected number to be >=0"]) ∧
      ¬ ∀ msg ∈ overscrolled.built exactArithmetic (createWireContext session alice),
        decodeInbound (.ofJson tooSmallText msg.toJson) = .ok msg := by
  have refused : decodeInbound (.ofJson tooSmallText (InboundMessage.toJson (.scroll
      (buildScroll (createWireContext session alice) overscrolled.now.ms 0 (-30)).2))) =
        .error (.validationFailed ["scrollY: Too small: expected number to be >=0"]) := by
    rfl
  refine ⟨refused, ?_⟩
  intro accepted
  have scroll := accepted (.scroll
    (buildScroll (createWireContext session alice) overscrolled.now.ms 0 (-30)).2) (by
      simp [BuildInput.built, readScrollOffset, overscrolled])
  rw [refused] at scroll
  cases scroll

end Copresence
