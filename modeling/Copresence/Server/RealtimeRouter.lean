import Copresence.Services.Sweeps

/-! The realtime router: the checks every frame passes, in the source's order,
and the dispatch to the controllers. -/
namespace Copresence

def DecodeError.code : DecodeError → ErrorCode
  | malformedJson _ => .malformedJson
  | validationFailed _ => .validationFailed
  | versionMismatch _ _ => .versionMismatch

def DecodeError.detail : DecodeError → String
  | malformedJson detail => detail
  | validationFailed issues => "; ".intercalate issues
  | versionMismatch received expected => s!"expected v{expected}, received v{received}"

/-- Written straight to the socket, past the hub, if it is still open. -/
def sendError (now : Int) (ctx : ConnectionContext) (code : ErrorCode) (detail : String)
    (server : Server) : Server :=
  if server.isOpen ctx.socket then
    server.emit
      [{ recipient := none, socket := ctx.socket
         message := .error { sid := ctx.sid, seq := 0, ts := now, code, detail } }]
  else server

/-- One line a case; `ack` is accepted and discarded. -/
def dispatch (now : Int) (ctx : ConnectionContext) (server : Server) : InboundMessage → Server
  | .audit msg => handleAuditMessage now ctx msg server
  | .hello msg => handleHello now ctx msg server
  | .bye msg => handleBye now ctx msg server
  | .ping msg => handlePing now ctx msg server
  | .cursor msg => handleCursor ctx msg server
  | .scroll msg => handleScroll ctx msg server
  | .ack _ => server

/-- What the router decides about a frame before any controller runs. -/
inductive Verdict where
  | refused (code : ErrorCode) (detail : String)
  | unordered
  | accepted (msg : InboundMessage)
deriving DecidableEq

/-- The checks in order: decoding, handshake, identity, sequence. -/
def judge (ctx : ConnectionContext) (frame : RawFrame) : Verdict :=
  match decodeInbound frame with
  | .error error => .refused error.code error.detail
  | .ok msg =>
    if ctx.pid = none ∧ msg.isHello = false then
      .refused .unauthorized "hello must be the first message on a connection"
    else if ctx.pid ≠ none ∧ ctx.pid ≠ some msg.pid then
      .refused .unauthorized "pid does not match this connection"
    else if (ctx.sequenceGuard.accept msg.seq).2 then .accepted msg
    else .unordered

/-- The guard is consulted, and so updated, only by frames that decode and
carry this connection's identity. -/
def afterGuard (ctx : ConnectionContext) (frame : RawFrame) : ConnectionContext :=
  match decodeInbound frame with
  | .error _ => ctx
  | .ok msg =>
    if ctx.pid = none ∧ msg.isHello = false then ctx
    else if ctx.pid ≠ none ∧ ctx.pid ≠ some msg.pid then ctx
    else { ctx with sequenceGuard := (ctx.sequenceGuard.accept msg.seq).1 }

/-- Handles one raw frame from one connection. -/
def handleRealtimeMessage (now : Int) (ctx : ConnectionContext) (frame : RawFrame)
    (server : Server) : Server :=
  let guarded := afterGuard ctx frame
  match judge ctx frame with
  | .refused code detail => sendError now ctx code detail server
  | .unordered => server.setContext guarded
  | .accepted msg => dispatch now guarded (server.setContext guarded) msg

/-- The frame gets as far as the guard: it decodes and fits the connection's
identity. -/
structure Fits (ctx : ConnectionContext) (frame : RawFrame) (msg : InboundMessage) : Prop where
  decoded : decodeInbound frame = .ok msg
  introduced : ctx.pid = none → msg.isHello = true
  own : ∀ pid, ctx.pid = some pid → msg.pid = pid

section Route

variable {ctx : ConnectionContext} {frame : RawFrame} {msg : InboundMessage}

/-- A frame that fits its connection is accepted unless its number is old. -/
theorem Fits.route (fits : Fits ctx frame msg) :
    judge ctx frame =
        (if (ctx.sequenceGuard.accept msg.seq).2 then .accepted msg else .unordered) ∧
      afterGuard ctx frame =
        { ctx with sequenceGuard := (ctx.sequenceGuard.accept msg.seq).1 } := by
  have introduced : ¬(ctx.pid = none ∧ msg.isHello = false) := by
    intro ⟨unknown, other⟩
    rw [fits.introduced unknown] at other
    cases other
  have own : ¬(ctx.pid ≠ none ∧ ctx.pid ≠ some msg.pid) := by
    intro ⟨known, other⟩
    obtain ⟨pid, hp⟩ := Option.ne_none_iff_exists'.mp known
    exact other (by rw [hp, fits.own pid hp])
  rw [judge, afterGuard, fits.decoded]
  dsimp only
  rw [if_neg introduced, if_neg own, if_neg introduced, if_neg own]
  exact ⟨rfl, rfl⟩

/-- Any other frame is refused with an error and does not reach the guard. -/
theorem route_of_misfit (misfit : ∀ msg, ¬Fits ctx frame msg) :
    (∃ code detail, judge ctx frame = .refused code detail) ∧ afterGuard ctx frame = ctx := by
  rw [judge, afterGuard]
  cases hd : decodeInbound frame with
  | error error => exact ⟨⟨_, _, rfl⟩, rfl⟩
  | ok msg =>
      dsimp only
      by_cases early : ctx.pid = none ∧ msg.isHello = false
      · rw [if_pos early, if_pos early]
        exact ⟨⟨_, _, rfl⟩, rfl⟩
      · rw [if_neg early, if_neg early]
        by_cases stranger : ctx.pid ≠ none ∧ ctx.pid ≠ some msg.pid
        · rw [if_pos stranger, if_pos stranger]
          exact ⟨⟨_, _, rfl⟩, rfl⟩
        · refine absurd ⟨hd, ?_, ?_⟩ (misfit msg)
          · intro unknown
            simpa [unknown] using early
          · intro pid known
            simpa [known, eq_comm] using stranger

/-- A frame is refused as it is, or fits and moves the guard. -/
theorem judge_cases (ctx : ConnectionContext) (frame : RawFrame) :
    (∃ code detail, judge ctx frame = .refused code detail ∧ afterGuard ctx frame = ctx) ∨
      ∃ msg, Fits ctx frame msg ∧
        judge ctx frame =
          (if (ctx.sequenceGuard.accept msg.seq).2 then .accepted msg else .unordered) ∧
        afterGuard ctx frame =
          { ctx with sequenceGuard := (ctx.sequenceGuard.accept msg.seq).1 } := by
  by_cases fits : ∃ msg, Fits ctx frame msg
  · obtain ⟨msg, fits⟩ := fits
    exact Or.inr ⟨msg, fits, fits.route⟩
  · obtain ⟨⟨code, detail, refused⟩, kept⟩ := route_of_misfit (not_exists.mp fits)
    exact Or.inl ⟨code, detail, refused, kept⟩

/-- An accepted frame fits and is newer than everything the connection's guard
has seen. -/
theorem judge_accepted (h : judge ctx frame = .accepted msg) :
    decodeInbound frame = .ok msg ∧ (ctx.pid = none → msg.isHello = true) ∧
      (∀ pid, ctx.pid = some pid → msg.pid = pid) ∧ ctx.sequenceGuard.Newer msg.seq := by
  rcases judge_cases ctx frame with ⟨code, detail, refused, _⟩ | ⟨other, fits, judged, _⟩
  · rw [h] at refused
    cases refused
  · rw [h] at judged
    split at judged
    · next newer =>
        obtain rfl := Verdict.accepted.inj judged
        exact ⟨fits.decoded, fits.introduced, fits.own,
          (ctx.sequenceGuard.accept_snd msg.seq).mp newer⟩
    · cases judged

/-- Judging a frame moves nothing of its context but the guard. -/
theorem afterGuard_cases (ctx : ConnectionContext) (frame : RawFrame) :
    ∃ sequenceGuard, afterGuard ctx frame = { ctx with sequenceGuard := sequenceGuard } := by
  rcases judge_cases ctx frame with ⟨_, _, _, kept⟩ | ⟨_, _, _, guarded⟩
  · exact ⟨ctx.sequenceGuard, kept⟩
  · exact ⟨_, guarded⟩

end Route

end Copresence
