import Copresence.Protocol.Messages

/-! Message construction on the client: one counter a page, drawn from when a
message is built, never reset. -/
namespace Copresence

/-- `seq` is the last number drawn. -/
structure WireContext where
  sid : SessionId
  pid : ParticipantId
  seq : Int := 0
deriving DecidableEq, Repr

def createWireContext (sid : SessionId) (pid : ParticipantId) : WireContext := { sid, pid }

namespace WireContext

def nextSeq (ctx : WireContext) : WireContext × Int :=
  ({ ctx with seq := ctx.seq + 1 }, ctx.seq + 1)

/-- What every builder starts from; `now` is the clock at that moment. -/
def envelope (ctx : WireContext) (now : Int) : WireContext × Envelope :=
  let (next, seq) := ctx.nextSeq
  (next, { v := protocolVersion, sid := ctx.sid, pid := ctx.pid, seq, ts := now })

end WireContext

structure ViewportInfo where
  docWidth : ℚ
  docHeight : ℚ
  dpr : ℚ
deriving DecidableEq, Repr

section Builders

variable (ctx : WireContext) (now : Int)

def buildHello (viewport : ViewportInfo) (visibilityState : VisibilityState) :
    WireContext × HelloMessage :=
  let (ctx, envelope) := ctx.envelope now
  (ctx,
    { envelope with
      docWidth := viewport.docWidth, docHeight := viewport.docHeight, dpr := viewport.dpr
      visibilityState })

def buildCursor (x y : ℚ) : WireContext × CursorMessage :=
  let (ctx, envelope) := ctx.envelope now
  (ctx, { envelope with x, y })

def buildScroll (scrollX scrollY : ℚ) : WireContext × ScrollMessage :=
  let (ctx, envelope) := ctx.envelope now
  (ctx, { envelope with scrollX, scrollY })

def buildPing : WireContext × PingMessage :=
  let (ctx, envelope) := ctx.envelope now
  (ctx, { envelope with })

def buildBye : WireContext × ByeMessage :=
  let (ctx, envelope) := ctx.envelope now
  (ctx, { envelope with })

/-- What the three audit builders of the source share. -/
def buildAudit (eventId : EventId) (body : AuditBody) : WireContext × AuditMessage :=
  let (ctx, envelope) := ctx.envelope now
  (ctx, { envelope with eventId, body })

def buildSessionStart (eventId : EventId) : WireContext × AuditMessage :=
  buildAudit ctx now eventId .sessionStart

def buildSessionEnd (eventId : EventId) (reason : EndReason) : WireContext × AuditMessage :=
  buildAudit ctx now eventId (.sessionEnd reason)

def buildVisibilityChange (eventId : EventId) (visibilityState : VisibilityState) :
    WireContext × AuditMessage :=
  buildAudit ctx now eventId (.visibilityChange visibilityState)

end Builders

end Copresence
