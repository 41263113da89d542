import LoraNetworking.CaptureSession

/-! The duplicate filter remembers the `(ack_id, sequence_number)` of the last packet that
passed the address filter, whatever became of it. -/

namespace LoraNetworking

open Transducer

def Consumed (e : HandlerEntry) : Prop :=
  Returned e .captureBegin ∨ Returned e .dataPacketCaptured ∨ Returned e .commandPacket ∨
    Returned e .captureEnd

def DropsOnlyConsumed (hostAddr remoteSrcAddr : UInt16) (ops : List HandlerOp) (p : Packet) : Prop :=
  (rxPacketHandler (run handlerStep (rxHandlerInit hostAddr remoteSrcAddr) ops) (some p)).1.ret =
      .packetRedundant →
    ∃ e ∈ history handlerStep (rxHandlerInit hostAddr remoteSrcAddr) ops, ∃ q,
      e.input = .packetHandler (some q) ∧ q.srcAddress = p.srcAddress ∧
      checkPacketType q = checkPacketType p ∧ q.ackId = p.ackId ∧
      q.sequenceNumber = p.sequenceNumber ∧ Consumed e

/-- A packet is dropped after a refused END with its pair, after a packet of another type and after
a packet of another source. -/
theorem not_dropsOnlyConsumed :
    ¬ DropsOnlyConsumed 1 2 [.packetHandler (some (emptyPacket 1 2 7 255))] (emptyPacket 1 2 7 255) ∧
      ¬ DropsOnlyConsumed 1 2 [.packetHandler (some (emptyPacket 1 2 7 0))] ⟨1, 2, 7, 0, 1, [65], rfl⟩ ∧
      ¬ DropsOnlyConsumed 1 2 [.packetHandler (some (emptyPacket 1 2 7 0)), .setRemoteAddr 3]
        (emptyPacket 1 3 7 0) := by
  refine ⟨fun h => ?_, fun h => ?_, fun h => ?_⟩
  · obtain ⟨e, he, -, -, -, -, -, -, hconsumed⟩ := h (by decide)
    obtain rfl := List.mem_singleton.mp he
    rcases hconsumed with hret | hret | hret | hret <;> exact absurd (returned_iff.mp hret) (by decide)
  · obtain ⟨e, he, q, hq, -, htype, -⟩ := h (by decide)
    obtain rfl := List.mem_singleton.mp he
    obtain rfl : emptyPacket 1 2 7 0 = q := by simpa using hq
    exact absurd htype (by decide)
  · obtain ⟨e, he, q, hq, hsrc, -⟩ := h (by decide)
    rcases List.mem_cons.mp he with rfl | he
    · obtain rfl : emptyPacket 1 2 7 0 = q := by simpa using hq
      exact absurd hsrc (by decide)
    · obtain rfl := List.mem_singleton.mp he
      simp at hq

def AdmittedAs (e : HandlerEntry) (q : Packet) : Prop :=
  e.input = .packetHandler (some q) ∧ Admits e.before q

def LastAdmitted (h : List HandlerEntry) (q : Packet) : Prop :=
  ∃ h₁ e h₂, h = h₁ ++ e :: h₂ ∧ AdmittedAs e q ∧ ∀ x ∈ h₂, ∀ r, ¬ AdmittedAs x r

def NoneAdmitted (h : List HandlerEntry) : Prop := ∀ x ∈ h, ∀ r, ¬ AdmittedAs x r

def Remembers (h : List HandlerEntry) (ctx : RxHandlerCtx) : Prop :=
  (∃ q, LastAdmitted h q ∧ Repeats ctx q) ∨
    (NoneAdmitted h ∧ ctx.lastReceivedAckId = 0 ∧ ctx.lastReceivedSeqNumber = 0)

lemma NoneAdmitted.append {h : List HandlerEntry} {e : HandlerEntry} (hn : NoneAdmitted h)
    (he : ∀ r, ¬ AdmittedAs e r) : NoneAdmitted (h ++ [e]) := by
  intro x hx
  cases List.mem_append.mp hx with
  | inl hx => exact hn x hx
  | inr hx =>
    rw [List.mem_singleton.mp hx]
    exact he

lemma LastAdmitted.append {h : List HandlerEntry} {e : HandlerEntry} {q : Packet}
    (hq : LastAdmitted h q) (he : ∀ r, ¬ AdmittedAs e r) : LastAdmitted (h ++ [e]) q := by
  obtain ⟨h₁, x, h₂, rfl, hx, hlast⟩ := hq
  exact ⟨h₁, x, h₂ ++ [e], by simp, hx, NoneAdmitted.append hlast he⟩

lemma lastAdmitted_self (h : List HandlerEntry) {e : HandlerEntry} {q : Packet}
    (he : AdmittedAs e q) : LastAdmitted (h ++ [e]) q :=
  ⟨h, e, [], rfl, he, by simp⟩

lemma Remembers.skip {h : List HandlerEntry} {ctx ctx' : RxHandlerCtx} {e : HandlerEntry}
    (hr : Remembers h ctx) (he : ∀ r, ¬ AdmittedAs e r)
    (hack : ctx'.lastReceivedAckId = ctx.lastReceivedAckId)
    (hseq : ctx'.lastReceivedSeqNumber = ctx.lastReceivedSeqNumber) : Remembers (h ++ [e]) ctx' := by
  cases hr with
  | inl hlast =>
    obtain ⟨q, hq, hrep⟩ := hlast
    exact Or.inl ⟨q, hq.append he, by rwa [Repeats, hack, hseq]⟩
  | inr hnone =>
    obtain ⟨hn, hz⟩ := hnone
    exact Or.inr ⟨hn.append he, by rwa [hack, hseq]⟩

lemma repeats_after_admitted {ctx : RxHandlerCtx} {p : Packet} (ha : Admits ctx p) :
    Repeats (rxPacketHandler ctx (some p)).2 p := by
  have hstep := rxPacketHandler_step ctx (some p)
  revert hstep
  generalize (rxPacketHandler ctx (some p)).1 = outcome
  generalize (rxPacketHandler ctx (some p)).2 = ctx'
  intro hstep
  cases hstep with
  | ignored _ hblocked => exact (hblocked p rfl ha).elim
  | redundant _ hr => exact hr
  | _ => exact ⟨rfl, rfl⟩

lemma remembers_step (h : List HandlerEntry) (ctx : RxHandlerCtx) (op : HandlerOp)
    (hr : Remembers h ctx) :
    Remembers (h ++ [⟨ctx, op, (handlerStep ctx op).1⟩]) (handlerStep ctx op).2 := by
  cases op with
  | packetHandler rxP =>
    by_cases ha : ∃ p, rxP = some p ∧ Admits ctx p
    · obtain ⟨p, rfl, ha⟩ := ha
      exact Or.inl ⟨p, lastAdmitted_self h ⟨rfl, ha⟩, repeats_after_admitted ha⟩
    · have hsame : (rxPacketHandler ctx rxP).2 = ctx := by
        cases rxP with
        | none => simp only [rxPacketHandler]; split_ifs <;> rfl
        | some p =>
          obtain ⟨ret, -, he⟩ := rxPacketHandler_blocked (fun hp => ha ⟨p, rfl, hp⟩)
          rw [he]
      refine hr.skip ?_ (congrArg _ hsame) (congrArg _ hsame)
      rintro r ⟨hin, hadm⟩
      exact ha ⟨r, by simpa using hin, hadm⟩
  | reset => exact hr.skip (by simp [AdmittedAs]) rfl rfl
  | setRemoteAddr a => exact hr.skip (by simp [AdmittedAs]) rfl rfl

lemma remembers_run (hostAddr remoteSrcAddr : UInt16) (ops : List HandlerOp) :
    Remembers (history handlerStep (rxHandlerInit hostAddr remoteSrcAddr) ops)
      (run handlerStep (rxHandlerInit hostAddr remoteSrcAddr) ops) := by
  apply history_invariant handlerStep remembers_step
  exact Or.inr ⟨by simp [NoneAdmitted], rfl, rfl⟩

lemma packetRedundant_iff (ctx : RxHandlerCtx) (p : Packet) :
    (rxPacketHandler ctx (some p)).1.ret = .packetRedundant ↔ Admits ctx p ∧ Repeats ctx p := by
  constructor
  · intro h
    have hstep := rxPacketHandler_step ctx (some p)
    revert hstep h
    generalize (rxPacketHandler ctx (some p)).1 = outcome
    generalize (rxPacketHandler ctx (some p)).2 = ctx'
    intro h hstep
    cases hstep with
    | redundant ha hr => exact ⟨ha, hr⟩
    | ignored hret => rcases hret with rfl | rfl | rfl <;> simp at h
    | refused _ _ hret _ => rcases hret with rfl | rfl | rfl | rfl | rfl <;> simp at h
    | _ => simp at h
  · rintro ⟨ha, hr⟩
    rw [rxPacketHandler_redundant ha hr]

theorem redundant_repeats_last (hostAddr remoteSrcAddr : UInt16) (ops : List HandlerOp) (p : Packet)
    (hpair : ¬ (NoneAdmitted (history handlerStep (rxHandlerInit hostAddr remoteSrcAddr) ops) ∧
      p.ackId = 0 ∧ p.sequenceNumber = 0)) :
    let ctx := run handlerStep (rxHandlerInit hostAddr remoteSrcAddr) ops
    let h := history handlerStep (rxHandlerInit hostAddr remoteSrcAddr) ops
    ((rxPacketHandler ctx (some p)).1.ret = .packetRedundant →
      ∃ q, LastAdmitted h q ∧ q.ackId = p.ackId ∧ q.sequenceNumber = p.sequenceNumber) ∧
    (NoneAdmitted h → (rxPacketHandler ctx (some p)).1.ret ≠ .packetRedundant) := by
  intro ctx h
  have hlast : (rxPacketHandler ctx (some p)).1.ret = .packetRedundant →
      ∃ q, LastAdmitted h q ∧ q.ackId = p.ackId ∧ q.sequenceNumber = p.sequenceNumber := by
    intro hret
    obtain ⟨-, hack, hseq⟩ := (packetRedundant_iff _ _).mp hret
    cases remembers_run hostAddr remoteSrcAddr ops with
    | inl hlast =>
      obtain ⟨q, hq, hqa, hqs⟩ := hlast
      exact ⟨q, hq, hqa.trans hack.symm, hqs.trans hseq.symm⟩
    | inr hnone =>
      obtain ⟨hn, hza, hzs⟩ := hnone
      exact absurd ⟨hn, hack.trans hza, hseq.trans hzs⟩ hpair
  refine ⟨hlast, fun hnone hret => ?_⟩
  obtain ⟨q, ⟨h₁, e, h₂, hh, he, -⟩, -⟩ := hlast hret
  exact hnone e (by simp [hh]) q he

theorem redundant_repeats_refused :
    (∃ q, LastAdmitted (history handlerStep (rxHandlerInit 1 2)
      [.packetHandler (some (emptyPacket 1 2 7 255))]) q ∧ q.ackId = 7 ∧ q.sequenceNumber = 255) ∧
    (rxPacketHandler (rxHandlerInit 1 2) (some (emptyPacket 1 2 7 0))).1.ret ≠ .packetRedundant :=
  ⟨(redundant_repeats_last 1 2 [.packetHandler (some (emptyPacket 1 2 7 255))] (emptyPacket 1 2 7 255)
      fun h => absurd h.2.1 (by decide)).1 (by decide),
    (redundant_repeats_last 1 2 [] (emptyPacket 1 2 7 0) fun h => absurd h.2.1 (by decide)).2
      (by simp [NoneAdmitted])⟩

end LoraNetworking
