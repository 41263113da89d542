import LoraNetworking.RxPacketHandler

/-! Where a DATA packet without a session of its own goes: to the command callback, unless its
ack id is the zero that the context holds while no session is open. -/

namespace LoraNetworking

open Transducer

/-- What every run of the handler keeps: it stays configured, and holds the id that
`rx_handler_reset` leaves while no session is open. -/
structure Between (ctx : RxHandlerCtx) : Prop where
  configured : ctx.configured = true
  idle : ctx.capture = false → ctx.captureAckId = 0

structure SameSession (ctx ctx' : RxHandlerCtx) : Prop where
  capture : ctx'.capture = ctx.capture
  captureAckId : ctx'.captureAckId = ctx.captureAckId
  capturedN : ctx'.capturedN = ctx.capturedN
  capturedPacketArr : ctx'.capturedPacketArr = ctx.capturedPacketArr

def CommandRouted (ctx : RxHandlerCtx) (p : Packet) : Prop :=
  ctx.capture = false ∨ p.ackId ≠ ctx.captureAckId →
    (rxPacketHandler ctx (some p)).1 = ⟨.commandPacket, [.commandPacketHandler p]⟩ ∧
      SameSession ctx (rxPacketHandler ctx (some p)).2

section Calls

variable {ctx : RxHandlerCtx} {p : Packet}

lemma Between.call (h : Between ctx) (rxP : Option Packet) : Between (rxPacketHandler ctx rxP).2 := by
  have hstep := rxPacketHandler_step ctx rxP
  revert hstep
  generalize (rxPacketHandler ctx rxP).1 = outcome
  generalize (rxPacketHandler ctx rxP).2 = ctx'
  intro hstep
  cases hstep with
  | ignored => exact h
  | redundant => exact h
  | begin => exact ⟨h.configured, fun hoff => absurd hoff (by simp [RxHandlerCtx.openSession])⟩
  | refused => exact ⟨h.configured, h.idle⟩
  | captured => exact ⟨h.configured, h.idle⟩
  | command => exact ⟨h.configured, h.idle⟩
  | finish => exact ⟨h.configured, fun _ => rfl⟩

lemma between_run (hostAddr remoteSrcAddr : UInt16) (ops : List HandlerOp) :
    Between (run handlerStep (rxHandlerInit hostAddr remoteSrcAddr) ops) := by
  have hstep : ∀ (_ : List (Entry RxHandlerCtx HandlerOp (Option RxOutcome))) ctx op, Between ctx →
      Between (handlerStep ctx op).2 := by
    intro _ ctx op h
    cases op with
    | packetHandler rxP => exact h.call rxP
    | reset => exact ⟨h.configured, fun _ => rfl⟩
    | setRemoteAddr a => exact ⟨h.configured, h.idle⟩
  exact history_invariant handlerStep hstep ⟨rfl, fun _ => rfl⟩ ops

lemma repeats_redundant (ha : Admits ctx p)
    (hret : (rxPacketHandler ctx (some p)).1.ret ≠ .packetRedundant) : ¬ Repeats ctx p := by
  intro hr
  rw [rxPacketHandler_redundant ha hr] at hret
  exact hret rfl

lemma switch_data_idle (ht : checkPacketType p = .packetData) (hc : ctx.capture = false)
    (hack : p.ackId = ctx.captureAckId) : rxPacketSwitch ctx p = (⟨.packetRejected, []⟩, ctx) := by
  simp [rxPacketSwitch, ht, hc, hack]

lemma commandRouted_iff (h : Between ctx) (ha : Admits ctx p) (hr : ¬ Repeats ctx p)
    (ht : checkPacketType p = .packetData) :
    CommandRouted ctx p ↔ ctx.capture = true ∨ p.ackId ≠ 0 := by
  have hcall := rxPacketHandler_fresh ha hr
  constructor
  · intro hrouted
    by_contra hnone
    obtain ⟨hoff, hzero⟩ : ctx.capture = false ∧ p.ackId = 0 := by simpa using hnone
    have hack : p.ackId = ctx.captureAckId := hzero.trans (h.idle hoff).symm
    obtain ⟨hout, -⟩ := hrouted (Or.inl hoff)
    rw [hcall, switch_data_idle ht (by exact hoff) (by exact hack)] at hout
    exact absurd (congrArg RxOutcome.ret hout) (by simp)
  · intro hsome hout
    have hack : p.ackId ≠ ctx.captureAckId := by
      intro heq
      cases hc : ctx.capture with
      | false =>
        rw [h.idle hc] at heq
        simp [hc, heq] at hsome
      | true => simp [hc, heq] at hout
    rw [hcall, switch_data_command ht (by exact hack)]
    exact ⟨rfl, ⟨rfl, rfl, rfl, rfl⟩⟩

end Calls

theorem command_routed_iff (hostAddr remoteSrcAddr : UInt16) (ops : List HandlerOp) (p : Packet)
    (hdata : p.payloadLength ≠ 0) :
    let ctx := run handlerStep (rxHandlerInit hostAddr remoteSrcAddr) ops
    p.destAddress = ctx.hostAddr → p.srcAddress = ctx.remoteSrcAddr →
      (rxPacketHandler ctx (some p)).1.ret ≠ .packetRedundant →
      (CommandRouted ctx p ↔ ctx.capture = true ∨ p.ackId ≠ 0) := by
  intro ctx hdest hsrc hret
  have hbetween : Between ctx := between_run hostAddr remoteSrcAddr ops
  have hadmits : Admits ctx p := ⟨hbetween.configured, hdest, hsrc⟩
  exact commandRouted_iff hbetween hadmits (repeats_redundant hadmits hret)
    ((checkPacketType_data p).mpr hdata)

theorem command_routed_iff_idle :
    CommandRouted (rxHandlerInit 1 2) ⟨1, 2, 1, 0, 1, [65], rfl⟩ :=
  (command_routed_iff 1 2 [] ⟨1, 2, 1, 0, 1, [65], rfl⟩ (by decide) rfl rfl (by decide)).mpr (by decide)

theorem not_commandRouted_zero :
    let p : Packet := ⟨1, 2, 0, 1, 1, [65], rfl⟩
    (rxPacketHandler (rxHandlerInit 1 2) (some p)).1.ret = .packetRejected ∧
      ¬ CommandRouted (rxHandlerInit 1 2) p := by
  intro p
  refine ⟨by decide, fun hrouted => ?_⟩
  obtain ⟨hout, -⟩ := hrouted (Or.inl rfl)
  exact absurd (congrArg RxOutcome.ret hout) (by decide)

end LoraNetworking
