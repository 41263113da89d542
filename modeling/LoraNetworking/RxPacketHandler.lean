import LoraNetworking.Lib.Transducer
import LoraNetworking.Packet

/-! The receive handler (`rx_packet_handler.c`): one call, and what a call can do. -/

namespace LoraNetworking

inductive RxHandlerReturn
  | packetRejected
  | commandPacket
  | captureBegin
  | captureEnd
  | captureArrayFull
  | dataPacketCaptured
  | captureAlreadyOn
  | unknownPacket
  | nullPacket
  | captureNotOn
  | packetRedundant
  | handlerNotConfigured
  deriving DecidableEq, Repr

def packetCaptureMaxCount : ℕ := 255 - 1

abbrev CapturedPacketArr := Vector (Option Packet) packetCaptureMaxCount

inductive Callback
  | commandPacketHandler (p : Packet)
  | captureEndHandler (pArr : CapturedPacketArr) (n : ℕ)
  deriving DecidableEq

@[ext] structure RxHandlerCtx where
  hostAddr : UInt16
  remoteSrcAddr : UInt16
  configured : Bool
  capture : Bool
  captureAckId : UInt8
  capturedPacketArr : CapturedPacketArr
  capturedN : ℕ
  lastReceivedAckId : UInt8
  lastReceivedSeqNumber : UInt8
  deriving DecidableEq

@[ext] structure RxOutcome where
  ret : RxHandlerReturn
  callbacks : List Callback
  deriving DecidableEq

def rxHandlerInit (hostAddr remoteSrcAddr : UInt16) : RxHandlerCtx where
  hostAddr := hostAddr
  remoteSrcAddr := remoteSrcAddr
  configured := true
  capture := false
  captureAckId := 0
  capturedPacketArr := Vector.replicate _ none
  capturedN := 0
  lastReceivedAckId := 0
  lastReceivedSeqNumber := 0

def rxHandlerSetRemoteAddr (ctx : RxHandlerCtx) (remoteSrcAddr : UInt16) : RxHandlerCtx :=
  { ctx with remoteSrcAddr := remoteSrcAddr }

def rxHandlerReset (ctx : RxHandlerCtx) : RxHandlerCtx :=
  { ctx with capture := false, capturedN := 0, captureAckId := 0 }

def rxPacketSwitch (ctx : RxHandlerCtx) (rxP : Packet) : RxOutcome × RxHandlerCtx :=
  match checkPacketType rxP with
  | .packetBegin =>
    if ctx.capture = false then
      (⟨.captureBegin, []⟩, { rxHandlerReset ctx with capture := true, captureAckId := rxP.ackId })
    else (⟨.captureAlreadyOn, []⟩, ctx)
  | .packetData =>
    if ctx.capture = true ∧ rxP.ackId = ctx.captureAckId then
      if ctx.capturedN ≥ packetCaptureMaxCount then (⟨.captureArrayFull, []⟩, ctx)
      else if rxP.sequenceNumber.toNat ≠ ctx.capturedN + 1 then (⟨.packetRejected, []⟩, ctx)
      else
        (⟨.dataPacketCaptured, []⟩,
          { ctx with
            capturedPacketArr :=
              ctx.capturedPacketArr.setIfInBounds ctx.capturedN (some (copyPacket rxP))
            capturedN := ctx.capturedN + 1 })
    else if rxP.ackId ≠ ctx.captureAckId then
      (⟨.commandPacket, [.commandPacketHandler (copyPacket rxP)]⟩, ctx)
    else (⟨.packetRejected, []⟩, ctx)
  | .packetEnd =>
    if ctx.capture = false then (⟨.captureNotOn, []⟩, ctx)
    else
      (⟨.captureEnd, [.captureEndHandler ctx.capturedPacketArr ctx.capturedN]⟩, rxHandlerReset ctx)
  | .packetAck => (⟨.unknownPacket, []⟩, ctx)

def rxPacketHandler (ctx : RxHandlerCtx) (rxP : Option Packet) : RxOutcome × RxHandlerCtx :=
  if ctx.configured = false then (⟨.handlerNotConfigured, []⟩, ctx)
  else
    match rxP with
    | none => (⟨.nullPacket, []⟩, ctx)
    | some rxP =>
      if rxP.destAddress ≠ ctx.hostAddr then (⟨.packetRejected, []⟩, ctx)
      else if rxP.srcAddress ≠ ctx.remoteSrcAddr then (⟨.packetRejected, []⟩, ctx)
      else if rxP.ackId = ctx.lastReceivedAckId ∧
          rxP.sequenceNumber = ctx.lastReceivedSeqNumber then (⟨.packetRedundant, []⟩, ctx)
      else
        rxPacketSwitch
          { ctx with
            lastReceivedAckId := rxP.ackId
            lastReceivedSeqNumber := rxP.sequenceNumber } rxP

def Admits (ctx : RxHandlerCtx) (p : Packet) : Prop :=
  ctx.configured = true ∧ p.destAddress = ctx.hostAddr ∧ p.srcAddress = ctx.remoteSrcAddr

instance (ctx : RxHandlerCtx) (p : Packet) : Decidable (Admits ctx p) :=
  inferInstanceAs (Decidable (_ ∧ _ ∧ _))

def Repeats (ctx : RxHandlerCtx) (p : Packet) : Prop :=
  p.ackId = ctx.lastReceivedAckId ∧ p.sequenceNumber = ctx.lastReceivedSeqNumber

instance (ctx : RxHandlerCtx) (p : Packet) : Decidable (Repeats ctx p) :=
  inferInstanceAs (Decidable (_ ∧ _))

def RxHandlerCtx.remember (ctx : RxHandlerCtx) (p : Packet) : RxHandlerCtx :=
  { ctx with lastReceivedAckId := p.ackId, lastReceivedSeqNumber := p.sequenceNumber }

def RxHandlerCtx.openSession (ctx : RxHandlerCtx) (ackId : UInt8) : RxHandlerCtx :=
  { rxHandlerReset ctx with capture := true, captureAckId := ackId }

def RxHandlerCtx.store (ctx : RxHandlerCtx) (p : Packet) : RxHandlerCtx :=
  { ctx with
    capturedPacketArr := ctx.capturedPacketArr.setIfInBounds ctx.capturedN (some p)
    capturedN := ctx.capturedN + 1 }

def delivered (pArr : CapturedPacketArr) (n : ℕ) : List (Option Packet) := pArr.toList.take n

def RxHandlerCtx.captured (ctx : RxHandlerCtx) : List (Option Packet) :=
  delivered ctx.capturedPacketArr ctx.capturedN

lemma captured_length (ctx : RxHandlerCtx) (h : ctx.capturedN ≤ packetCaptureMaxCount) :
    ctx.captured.length = ctx.capturedN := by
  simp [RxHandlerCtx.captured, delivered, h]

lemma captured_store (ctx : RxHandlerCtx) (p : Packet) (h : ctx.capturedN < packetCaptureMaxCount) :
    (ctx.store p).captured = ctx.captured ++ [some p] := by
  have hlen : ctx.capturedN < ctx.capturedPacketArr.toList.length := by simpa using h
  simp only [RxHandlerCtx.captured, delivered, RxHandlerCtx.store, Vector.toList_setIfInBounds]
  rw [List.take_succ_eq_append_getElem (by simpa using h)]
  simp [List.take_set_of_le]

section Calls

variable {ctx : RxHandlerCtx} {p : Packet}

lemma rxPacketHandler_blocked (h : ¬ Admits ctx p) :
    ∃ ret, (ret = .handlerNotConfigured ∨ ret = .packetRejected) ∧
      rxPacketHandler ctx (some p) = (⟨ret, []⟩, ctx) := by
  simp only [rxPacketHandler]
  split_ifs with hc hd hs hr
  · exact ⟨_, Or.inl rfl, rfl⟩
  · exact ⟨_, Or.inr rfl, rfl⟩
  · exact ⟨_, Or.inr rfl, rfl⟩
  all_goals exact (h ⟨by simpa using hc, by simpa using hd, by simpa using hs⟩).elim

lemma rxPacketHandler_redundant (ha : Admits ctx p) (hr : Repeats ctx p) :
    rxPacketHandler ctx (some p) = (⟨.packetRedundant, []⟩, ctx) := by
  obtain ⟨hc, hd, hs⟩ := ha
  obtain ⟨hack, hseq⟩ := hr
  simp [rxPacketHandler, hc, hd, hs, hack, hseq]

lemma rxPacketHandler_fresh (ha : Admits ctx p) (hr : ¬ Repeats ctx p) :
    rxPacketHandler ctx (some p) = rxPacketSwitch (ctx.remember p) p := by
  obtain ⟨hc, hd, hs⟩ := ha
  rw [rxPacketHandler, if_neg (by simp [hc]), if_neg (not_not.mpr hd), if_neg (not_not.mpr hs)]
  exact if_neg hr

lemma switch_begin_off (ht : checkPacketType p = .packetBegin) (hc : ctx.capture = false) :
    rxPacketSwitch ctx p = (⟨.captureBegin, []⟩, ctx.openSession p.ackId) := by
  simp [rxPacketSwitch, ht, hc, RxHandlerCtx.openSession]

lemma switch_begin_on (ht : checkPacketType p = .packetBegin) (hc : ctx.capture = true) :
    rxPacketSwitch ctx p = (⟨.captureAlreadyOn, []⟩, ctx) := by
  simp [rxPacketSwitch, ht, hc]

lemma switch_data_captured (ht : checkPacketType p = .packetData) (hc : ctx.capture = true)
    (hack : p.ackId = ctx.captureAckId) (hn : ctx.capturedN < packetCaptureMaxCount)
    (hseq : p.sequenceNumber.toNat = ctx.capturedN + 1) :
    rxPacketSwitch ctx p = (⟨.dataPacketCaptured, []⟩, ctx.store p) := by
  have hn' : ¬ ctx.capturedN ≥ packetCaptureMaxCount := by omega
  simp [rxPacketSwitch, ht, hc, hack, hn', hseq, RxHandlerCtx.store]

lemma switch_data_refused (ht : checkPacketType p = .packetData) (hc : ctx.capture = true)
    (hack : p.ackId = ctx.captureAckId) (hseq : p.sequenceNumber.toNat ≠ ctx.capturedN + 1) :
    ∃ ret, (ret = .captureArrayFull ∨ ret = .packetRejected) ∧
      rxPacketSwitch ctx p = (⟨ret, []⟩, ctx) := by
  by_cases hn : ctx.capturedN ≥ packetCaptureMaxCount
  · exact ⟨_, Or.inl rfl, by simp [rxPacketSwitch, ht, hc, hack, hn]⟩
  · exact ⟨_, Or.inr rfl, by simp [rxPacketSwitch, ht, hc, hack, hn, hseq]⟩

lemma switch_data_command (ht : checkPacketType p = .packetData) (hack : p.ackId ≠ ctx.captureAckId) :
    rxPacketSwitch ctx p = (⟨.commandPacket, [.commandPacketHandler p]⟩, ctx) := by
  simp [rxPacketSwitch, ht, hack]

lemma switch_end_on (ht : checkPacketType p = .packetEnd) (hc : ctx.capture = true) :
    rxPacketSwitch ctx p =
      (⟨.captureEnd, [.captureEndHandler ctx.capturedPacketArr ctx.capturedN]⟩,
        rxHandlerReset ctx) := by
  simp [rxPacketSwitch, ht, hc]

end Calls

/-- Everything one call can do to the context, guards included. -/
inductive RxStep (ctx : RxHandlerCtx) : Option Packet → RxOutcome → RxHandlerCtx → Prop
  | ignored {rxP ret} (hret : ret = .handlerNotConfigured ∨ ret = .nullPacket ∨ ret = .packetRejected)
      (hblocked : ∀ p, rxP = some p → ¬ Admits ctx p) : RxStep ctx rxP ⟨ret, []⟩ ctx
  | redundant {p} (ha : Admits ctx p) (hr : Repeats ctx p) :
      RxStep ctx (some p) ⟨.packetRedundant, []⟩ ctx
  | begin {p} (ha : Admits ctx p) (hr : ¬ Repeats ctx p) (ht : checkPacketType p = .packetBegin)
      (hc : ctx.capture = false) :
      RxStep ctx (some p) ⟨.captureBegin, []⟩ ((ctx.remember p).openSession p.ackId)
  | refused {p ret} (ha : Admits ctx p) (hr : ¬ Repeats ctx p)
      (hret : ret = .captureAlreadyOn ∨ ret = .captureArrayFull ∨ ret = .packetRejected ∨
        ret = .captureNotOn ∨ ret = .unknownPacket)
      (hbegin : checkPacketType p = .packetBegin → ctx.capture = true) :
      RxStep ctx (some p) ⟨ret, []⟩ (ctx.remember p)
  | captured {p} (ha : Admits ctx p) (hr : ¬ Repeats ctx p) (ht : checkPacketType p = .packetData)
      (hc : ctx.capture = true) (hack : p.ackId = ctx.captureAckId)
      (hn : ctx.capturedN < packetCaptureMaxCount)
      (hseq : p.sequenceNumber.toNat = ctx.capturedN + 1) :
      RxStep ctx (some p) ⟨.dataPacketCaptured, []⟩ ((ctx.remember p).store p)
  | command {p} (ha : Admits ctx p) (hr : ¬ Repeats ctx p) (ht : checkPacketType p = .packetData)
      (hack : p.ackId ≠ ctx.captureAckId) :
      RxStep ctx (some p) ⟨.commandPacket, [.commandPacketHandler p]⟩ (ctx.remember p)
  | finish {p} (ha : Admits ctx p) (hr : ¬ Repeats ctx p) (ht : checkPacketType p = .packetEnd)
      (hc : ctx.capture = true) :
      RxStep ctx (some p) ⟨.captureEnd, [.captureEndHandler ctx.capturedPacketArr ctx.capturedN]⟩
        (rxHandlerReset (ctx.remember p))

theorem rxPacketHandler_step (ctx : RxHandlerCtx) (rxP : Option Packet) :
    RxStep ctx rxP (rxPacketHandler ctx rxP).1 (rxPacketHandler ctx rxP).2 := by
  cases rxP with
  | none =>
    cases hc : ctx.configured with
    | false =>
      simp only [rxPacketHandler, hc, if_true]
      exact .ignored (Or.inl rfl) (by simp)
    | true =>
      simp only [rxPacketHandler, hc, Bool.true_eq_false, if_false]
      exact .ignored (Or.inr (Or.inl rfl)) (by simp)
  | some p =>
    by_cases ha : Admits ctx p
    swap
    · obtain ⟨ret, hret, he⟩ := rxPacketHandler_blocked ha
      rw [he]
      exact .ignored (hret.imp_right Or.inr) (by rintro q ⟨⟩; exact ha)
    by_cases hr : Repeats ctx p
    · rw [rxPacketHandler_redundant ha hr]
      exact .redundant ha hr
    rw [rxPacketHandler_fresh ha hr]
    cases ht : checkPacketType p with
    | packetBegin =>
      cases hc : ctx.capture with
      | false =>
        rw [switch_begin_off ht (by exact hc)]
        exact .begin ha hr ht hc
      | true =>
        rw [switch_begin_on ht (by exact hc)]
        exact .refused ha hr (Or.inl rfl) fun _ => hc
    | packetData =>
      by_cases hack : p.ackId = ctx.captureAckId
      swap
      · rw [switch_data_command ht (by exact hack)]
        exact .command ha hr ht hack
      cases hc : ctx.capture with
      | false =>
        have he : rxPacketSwitch (ctx.remember p) p = (⟨.packetRejected, []⟩, ctx.remember p) := by
          simp [rxPacketSwitch, ht, RxHandlerCtx.remember, hack, hc]
        rw [he]
        exact .refused ha hr (by simp) (by simp [ht])
      | true =>
        by_cases hn : ctx.capturedN < packetCaptureMaxCount ∧ p.sequenceNumber.toNat = ctx.capturedN + 1
        · rw [switch_data_captured ht (by exact hc) (by exact hack) (by exact hn.1) (by exact hn.2)]
          exact .captured ha hr ht hc hack hn.1 hn.2
        · have he : ∃ ret, (ret = .captureArrayFull ∨ ret = .packetRejected) ∧
              rxPacketSwitch (ctx.remember p) p = (⟨ret, []⟩, ctx.remember p) := by
            by_cases hseq : p.sequenceNumber.toNat = ctx.capturedN + 1
            · have hfull : ctx.capturedN ≥ packetCaptureMaxCount := by
                by_contra hlt
                exact hn ⟨by omega, hseq⟩
              exact ⟨_, Or.inl rfl, by
                simp [rxPacketSwitch, ht, RxHandlerCtx.remember, hack, hc, hfull]⟩
            · exact switch_data_refused ht (by exact hc) (by exact hack) (by exact hseq)
          obtain ⟨ret, hret, he⟩ := he
          rw [he]
          refine .refused ha hr ?_ (by simp [ht])
          cases hret with
          | inl hfull => simp [hfull]
          | inr hrejected => simp [hrejected]
    | packetEnd =>
      cases hc : ctx.capture with
      | false =>
        have he : rxPacketSwitch (ctx.remember p) p = (⟨.captureNotOn, []⟩, ctx.remember p) := by
          simp [rxPacketSwitch, ht, RxHandlerCtx.remember, hc]
        rw [he]
        exact .refused ha hr (by simp) (by simp [ht])
      | true =>
        rw [switch_end_on ht (by exact hc)]
        exact .finish ha hr ht hc
    | packetAck =>
      have he : rxPacketSwitch (ctx.remember p) p = (⟨.unknownPacket, []⟩, ctx.remember p) := by
        simp [rxPacketSwitch, ht]
      rw [he]
      exact .refused ha hr (by simp) (by simp [ht])

/-! ## Runs of the handler -/

inductive HandlerOp
  | packetHandler (rxP : Option Packet)
  | reset
  | setRemoteAddr (remoteSrcAddr : UInt16)
  deriving DecidableEq

def handlerStep (ctx : RxHandlerCtx) : HandlerOp → Option RxOutcome × RxHandlerCtx
  | .packetHandler rxP => (some (rxPacketHandler ctx rxP).1, (rxPacketHandler ctx rxP).2)
  | .reset => (none, rxHandlerReset ctx)
  | .setRemoteAddr remoteSrcAddr => (none, rxHandlerSetRemoteAddr ctx remoteSrcAddr)

abbrev HandlerEntry := Transducer.Entry RxHandlerCtx HandlerOp (Option RxOutcome)

end LoraNetworking
