import LoraNetworking.RxPacketHandler

/-! The capture session as seen from the history of a handler: the array handed to the
end callback is what was captured since the session was opened. -/

namespace LoraNetworking

open Transducer

def Returned (e : HandlerEntry) (ret : RxHandlerReturn) : Prop :=
  ∃ rxP outcome, e.input = .packetHandler rxP ∧ e.output = some outcome ∧ outcome.ret = ret

def capturedPacket (e : HandlerEntry) : Option Packet :=
  match e.input, e.output with
  | .packetHandler rxP, some ⟨.dataPacketCaptured, _⟩ => rxP
  | _, _ => none

def CapturedSince (h : List HandlerEntry) (pkts : List Packet) : Prop :=
  ∃ h₁ b h₂, h = h₁ ++ b :: h₂ ∧ Returned b .captureBegin ∧
    (∀ e ∈ h₂, ¬ Returned e .captureBegin ∧ e.input ≠ .reset) ∧ pkts = h₂.filterMap capturedPacket

structure Holds (ctx : RxHandlerCtx) (pkts : List Packet) : Prop where
  count : ctx.capturedN = pkts.length
  bound : pkts.length ≤ packetCaptureMaxCount
  entries : ctx.captured = pkts.map some
  numbered : ∀ i p, pkts[i]? = some p → p.sequenceNumber.toNat = i + 1 ∧
    p.ackId = ctx.captureAckId ∧ p.destAddress = ctx.hostAddr ∧ p.payloadLength ≠ 0

structure SessionHistory (h : List HandlerEntry) (ctx : RxHandlerCtx) : Prop where
  idle : ctx.capture = false → ctx.capturedN = 0
  session : ctx.capture = true → ∃ pkts, CapturedSince h pkts ∧ Holds ctx pkts

lemma Holds.remember {ctx : RxHandlerCtx} {pkts : List Packet} (h : Holds ctx pkts) (p : Packet) :
    Holds (ctx.remember p) pkts :=
  ⟨h.count, h.bound, h.entries, h.numbered⟩

lemma Holds.openSession (ctx : RxHandlerCtx) (ackId : UInt8) : Holds (ctx.openSession ackId) [] :=
  ⟨rfl, Nat.zero_le _, by simp [RxHandlerCtx.captured, delivered, RxHandlerCtx.openSession,
    rxHandlerReset], by simp⟩

lemma Holds.store {ctx : RxHandlerCtx} {pkts : List Packet} {p : Packet} (h : Holds ctx pkts)
    (ha : Admits ctx p) (ht : checkPacketType p = .packetData) (hack : p.ackId = ctx.captureAckId)
    (hn : ctx.capturedN < packetCaptureMaxCount)
    (hseq : p.sequenceNumber.toNat = ctx.capturedN + 1) : Holds (ctx.store p) (pkts ++ [p]) := by
  have hcount := h.count
  refine ⟨?_, ?_, ?_, ?_⟩
  · simp [RxHandlerCtx.store, hcount]
  · simp only [List.length_append, List.length_singleton]
    omega
  · rw [captured_store ctx p hn, h.entries]
    simp
  · intro i q hq
    rw [List.getElem?_append] at hq
    split_ifs at hq with hi
    · exact h.numbered i q hq
    · obtain ⟨hi', he⟩ := List.getElem?_eq_some_iff.mp hq
      simp only [List.length_singleton] at hi'
      obtain rfl : p = q := by simpa using he
      exact ⟨by omega, hack, ha.2.1, (checkPacketType_data p).mp ht⟩

lemma CapturedSince.append {h : List HandlerEntry} {pkts : List Packet} {e : HandlerEntry}
    (hs : CapturedSince h pkts) (hb : ¬ Returned e .captureBegin) (hr : e.input ≠ .reset) :
    CapturedSince (h ++ [e]) (pkts ++ (capturedPacket e).toList) := by
  obtain ⟨h₁, b, h₂, rfl, hbegin, hsince, rfl⟩ := hs
  refine ⟨h₁, b, h₂ ++ [e], by simp, hbegin, ?_, ?_⟩
  · intro x hx
    cases List.mem_append.mp hx with
    | inl hx => exact hsince x hx
    | inr hx =>
      rw [List.mem_singleton.mp hx]
      exact ⟨hb, hr⟩
  · cases hc : capturedPacket e <;> simp [hc]

lemma returned_iff {ctx : RxHandlerCtx} {rxP : Option Packet} {outcome : RxOutcome}
    {ret : RxHandlerReturn} :
    Returned ⟨ctx, .packetHandler rxP, some outcome⟩ ret ↔ outcome.ret = ret := by
  simp [Returned]

lemma CapturedSince.keep {h : List HandlerEntry} {pkts : List Packet} {ctx : RxHandlerCtx}
    {rxP : Option Packet} {outcome : RxOutcome} (hs : CapturedSince h pkts)
    (hb : outcome.ret ≠ .captureBegin) (hd : outcome.ret ≠ .dataPacketCaptured) :
    CapturedSince (h ++ [⟨ctx, .packetHandler rxP, some outcome⟩]) pkts := by
  have hnone : capturedPacket ⟨ctx, .packetHandler rxP, some outcome⟩ = none := by
    rcases outcome with ⟨ret, callbacks⟩
    cases ret <;> simp_all [capturedPacket]
  simpa [hnone] using
    hs.append (e := ⟨ctx, .packetHandler rxP, some outcome⟩) (by rwa [returned_iff]) (by simp)

lemma SessionHistory.keep {h : List HandlerEntry} {ctx before : RxHandlerCtx} {rxP : Option Packet}
    {outcome : RxOutcome} (hs : SessionHistory h ctx) (hb : outcome.ret ≠ .captureBegin)
    (hd : outcome.ret ≠ .dataPacketCaptured) :
    SessionHistory (h ++ [⟨before, .packetHandler rxP, some outcome⟩]) ctx := by
  refine ⟨hs.idle, fun hc => ?_⟩
  obtain ⟨pkts, hsince, hholds⟩ := hs.session hc
  exact ⟨pkts, hsince.keep hb hd, hholds⟩

lemma SessionHistory.remember {h : List HandlerEntry} {ctx : RxHandlerCtx}
    (hs : SessionHistory h ctx) (p : Packet) : SessionHistory h (ctx.remember p) := by
  refine ⟨hs.idle, fun hc => ?_⟩
  obtain ⟨pkts, hsince, hholds⟩ := hs.session hc
  exact ⟨pkts, hsince, hholds.remember p⟩

lemma sessionHistory_reset (h : List HandlerEntry) (ctx : RxHandlerCtx) :
    SessionHistory h (rxHandlerReset ctx) :=
  ⟨fun _ => rfl, fun hc => by simp [rxHandlerReset] at hc⟩

lemma sessionHistory_call {h : List HandlerEntry} {ctx : RxHandlerCtx} (rxP : Option Packet)
    (hs : SessionHistory h ctx) :
    SessionHistory (h ++ [⟨ctx, .packetHandler rxP, some (rxPacketHandler ctx rxP).1⟩])
      (rxPacketHandler ctx rxP).2 := by
  have hstep := rxPacketHandler_step ctx rxP
  revert hstep
  generalize (rxPacketHandler ctx rxP).1 = outcome
  generalize (rxPacketHandler ctx rxP).2 = ctx'
  intro hstep
  -- only BEGIN starts the captures over, and only an accepted DATA packet extends them
  cases hstep with
  | ignored hret _ =>
    refine hs.keep ?_ ?_ <;> rcases hret with rfl | rfl | rfl <;> simp
  | redundant => exact hs.keep (by simp) (by simp)
  | @begin p ha hr ht hc =>
    refine ⟨fun hoff => by simp [RxHandlerCtx.openSession] at hoff, fun _ => ⟨[], ?_, .openSession _ _⟩⟩
    exact ⟨h, _, [], rfl, returned_iff.mpr rfl, by simp, rfl⟩
  | @refused p ret ha hr hret _ =>
    refine (hs.remember p).keep ?_ ?_ <;> rcases hret with rfl | rfl | rfl | rfl | rfl <;> simp
  | @captured p ha hr ht hc hack hn hseq =>
    obtain ⟨pkts, hsince, hholds⟩ := hs.session hc
    refine ⟨fun hoff => ?_, fun _ => ⟨pkts ++ [p], ?_, ?_⟩⟩
    · have hon : ctx.capture = false := hoff
      rw [hc] at hon
      exact absurd hon (by simp)
    · exact hsince.append (e := ⟨ctx, .packetHandler (some p), some ⟨.dataPacketCaptured, []⟩⟩)
        (by rw [returned_iff]; simp) (by simp)
    · exact (hholds.remember p).store ha ht hack hn hseq
  | @command p ha hr ht hack => exact (hs.remember p).keep (by simp) (by simp)
  | finish => exact sessionHistory_reset _ _

lemma sessionHistory_step (h : List HandlerEntry) (ctx : RxHandlerCtx) (op : HandlerOp)
    (hs : SessionHistory h ctx) :
    SessionHistory (h ++ [⟨ctx, op, (handlerStep ctx op).1⟩]) (handlerStep ctx op).2 := by
  cases op with
  | packetHandler rxP => exact sessionHistory_call rxP hs
  | reset => exact sessionHistory_reset _ _
  | setRemoteAddr a =>
    refine ⟨hs.idle, fun hc => ?_⟩
    obtain ⟨pkts, hsince, hholds⟩ := hs.session hc
    refine ⟨pkts, ?_, hholds.count, hholds.bound, hholds.entries, hholds.numbered⟩
    have hnext := hsince.append (e := ⟨ctx, .setRemoteAddr a, none⟩) (by simp [Returned]) (by simp)
    simpa [capturedPacket, handlerStep] using hnext

lemma sessionHistory_run (hostAddr remoteSrcAddr : UInt16) (ops : List HandlerOp) :
    SessionHistory (history handlerStep (rxHandlerInit hostAddr remoteSrcAddr) ops)
      (run handlerStep (rxHandlerInit hostAddr remoteSrcAddr) ops) := by
  apply history_invariant handlerStep sessionHistory_step
  exact ⟨fun _ => rfl, fun hc => by simp [rxHandlerInit] at hc⟩

lemma captureEnd_callback {ctx : RxHandlerCtx} {rxP : Option Packet} {pArr : CapturedPacketArr}
    {n : ℕ} (h : .captureEndHandler pArr n ∈ (rxPacketHandler ctx rxP).1.callbacks) :
    ctx.capture = true ∧ pArr = ctx.capturedPacketArr ∧ n = ctx.capturedN := by
  have hstep := rxPacketHandler_step ctx rxP
  revert hstep h
  generalize (rxPacketHandler ctx rxP).1 = outcome
  generalize (rxPacketHandler ctx rxP).2 = ctx'
  intro h hstep
  cases hstep with
  | finish ha hr ht hc => exact ⟨hc, by simpa using h⟩
  | _ => simp at h

/-- `capture` off means no captures; `capture` on means the first `capturedN` entries are
the packets 1, 2, … of the session, for this host. -/
structure SessionInvariant (ctx : RxHandlerCtx) : Prop where
  bound : ctx.capturedN ≤ packetCaptureMaxCount
  idle : ctx.capture = false → ctx.capturedN = 0
  entries : ctx.capture = true → ∀ i < ctx.capturedN, ∃ p, ctx.capturedPacketArr[i]? = some (some p) ∧
    p.sequenceNumber.toNat = i + 1 ∧ p.ackId = ctx.captureAckId ∧ p.destAddress = ctx.hostAddr ∧
    p.payloadLength ≠ 0

lemma Holds.entry {ctx : RxHandlerCtx} {pkts : List Packet} (h : Holds ctx pkts) {i : ℕ}
    (hi : i < ctx.capturedN) : ∃ p, pkts[i]? = some p ∧ ctx.capturedPacketArr[i]? = some (some p) := by
  have hlt : i < pkts.length := by rw [← h.count]; exact hi
  refine ⟨pkts[i], List.getElem?_eq_getElem hlt, ?_⟩
  have hentry : ctx.captured[i]? = some (some pkts[i]) := by
    rw [h.entries]
    simp [hlt]
  simpa [RxHandlerCtx.captured, delivered, List.getElem?_take, hi] using hentry

lemma SessionHistory.invariant {h : List HandlerEntry} {ctx : RxHandlerCtx}
    (hs : SessionHistory h ctx) : SessionInvariant ctx := by
  refine ⟨?_, hs.idle, ?_⟩
  · cases hc : ctx.capture with
    | false => simp [hs.idle hc]
    | true =>
      obtain ⟨pkts, _, hholds⟩ := hs.session hc
      rw [hholds.count]
      exact hholds.bound
  · intro hc i hi
    obtain ⟨pkts, _, hholds⟩ := hs.session hc
    obtain ⟨p, hp, harr⟩ := hholds.entry hi
    exact ⟨p, harr, hholds.numbered i p hp⟩

lemma Holds.numbers {ctx : RxHandlerCtx} {pkts : List Packet} (h : Holds ctx pkts) :
    pkts.map (·.sequenceNumber.toNat) = List.range' 1 pkts.length := by
  apply List.ext_getElem
  · simp
  · intro i hi _
    simp only [List.length_map] at hi
    have hseq := (h.numbered i pkts[i] (List.getElem?_eq_getElem hi)).1
    simp [hseq, Nat.add_comm]

theorem capture_session (hostAddr remoteSrcAddr : UInt16) (ops : List HandlerOp) :
    SessionInvariant (run handlerStep (rxHandlerInit hostAddr remoteSrcAddr) ops) ∧
    ∀ h₁ e h₂ outcome pArr n,
      history handlerStep (rxHandlerInit hostAddr remoteSrcAddr) ops = h₁ ++ e :: h₂ →
      e.output = some outcome → .captureEndHandler pArr n ∈ outcome.callbacks →
      ∃ pkts, CapturedSince h₁ pkts ∧ delivered pArr n = pkts.map some ∧ n = pkts.length ∧
        pkts.map (·.sequenceNumber.toNat) = List.range' 1 n := by
  refine ⟨(sessionHistory_run hostAddr remoteSrcAddr ops).invariant, ?_⟩
  intro h₁ e h₂ outcome pArr n hsplit hout hmem
  obtain ⟨ops₁, op, ops₂, -, rfl, rfl⟩ := history_split handlerStep hsplit
  have hs := sessionHistory_run hostAddr remoteSrcAddr ops₁
  cases op with
  | packetHandler rxP =>
    obtain rfl := Option.some.inj hout
    obtain ⟨hc, rfl, rfl⟩ := captureEnd_callback hmem
    obtain ⟨pkts, hsince, hholds⟩ := hs.session hc
    refine ⟨pkts, hsince, hholds.entries, hholds.count, ?_⟩
    rw [hholds.count]
    exact hholds.numbers
  | reset => simp [handlerStep] at hout
  | setRemoteAddr a => simp [handlerStep] at hout

theorem capture_session_single :
    let ops : List HandlerOp := [.packetHandler (some (emptyPacket 1 2 7 0)),
      .packetHandler (some ⟨1, 2, 7, 1, 1, [65], rfl⟩)]
    let ctx := run handlerStep (rxHandlerInit 1 2) ops
    ∃ pkts, CapturedSince (history handlerStep (rxHandlerInit 1 2) ops) pkts ∧
      delivered ctx.capturedPacketArr ctx.capturedN = pkts.map some ∧
      ctx.capturedN = pkts.length ∧ pkts.map (·.sequenceNumber.toNat) = List.range' 1 ctx.capturedN := by
  intro ops ctx
  exact (capture_session 1 2 (ops ++ [.packetHandler (some (emptyPacket 1 2 7 255))])).2 _
    ⟨ctx, _, _⟩ [] _ _ _ rfl rfl (List.Mem.head _)

end LoraNetworking
