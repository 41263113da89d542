import LoraNetworking.Lib.Lockstep
import LoraNetworking.Sx127xRxUtils

/-! The driver over two platforms that answer alike. No function of the driver can tell them apart,
and so no application can. -/

namespace LoraNetworking

open StateProg

structure Platform (ω : Type) where
  spiPort : SpiPort ω
  timerCtx : Sx127xTimerCtx ω

variable {ω ω' : Type}

/-- Two platforms that answer alike in related states. Bit 7 of a register's address is
clear, and no write is empty. -/
structure Alike (R : ω → ω' → Prop) (f : Platform ω) (f' : Platform ω') : Prop where
  initialized : f.spiPort.initialized = f'.spiPort.initialized
  writes : ∀ w w' reg data, R w w' → reg &&& 0x80 = 0 → data ≠ [] →
    (f.spiPort.writer reg data w).1 = (f'.spiPort.writer reg data w').1 ∧
      R (f.spiPort.writer reg data w).2 (f'.spiPort.writer reg data w').2
  reads : ∀ w w' reg len, R w w' → reg &&& 0x80 = 0 →
    (f.spiPort.reader reg len w).1 = (f'.spiPort.reader reg len w').1 ∧
      R (f.spiPort.reader reg len w).2 (f'.spiPort.reader reg len w').2
  times : ∀ w w', R w w' → (f.timerCtx.timer w).1 = (f'.timerCtx.timer w').1 ∧
    R (f.timerCtx.timer w).2 (f'.timerCtx.timer w').2
  delays : ∀ w w' ms, R w w' → R (f.timerCtx.delayer ms w) (f'.timerCtx.delayer ms w')

structure SameDriver (R : ω → ω' → Prop) (f : Platform ω) (f' : Platform ω') (m : Machine ω) (m' : Machine ω') :
    Prop where
  spiPort : m.sx127xSpiPort = f.spiPort
  spiPort' : m'.sx127xSpiPort = f'.spiPort
  timerCtx : m.sx127xTimerCtx = f.timerCtx
  timerCtx' : m'.sx127xTimerCtx = f'.timerCtx
  bandwidth : m.loraBandwidthHz = m'.loraBandwidthHz
  factor : m.spreadingFactor = m'.spreadingFactor
  world : R m.world m'.world

section Configuration

variable {R : ω → ω' → Prop} {f : Platform ω} {f' : Platform ω'} {reg : UInt8} {data : List UInt8}

lemma agree_write (h : Alike R f f') (hreg : reg &&& 0x80 = 0) (hdata : data ≠ []) :
    Agree (SameDriver R f f') (spiBurstWriteReg reg data) (spiBurstWriteReg reg data) := by
  apply Agree.step
  intro m m' hm
  rw [hm.spiPort, hm.spiPort', h.initialized]
  split_ifs
  · exact ⟨rfl, hm⟩
  · obtain ⟨hret, hworld⟩ := h.writes _ _ reg data hm.world hreg hdata
    exact ⟨hret, rfl, rfl, hm.timerCtx, hm.timerCtx', hm.bandwidth, hm.factor, hworld⟩

lemma agree_writeByte (h : Alike R f f') (hreg : reg &&& 0x80 = 0) (b : UInt8) :
    Agree (SameDriver R f f') (spiBurstWriteReg reg [b]) (spiBurstWriteReg reg [b]) :=
  agree_write h hreg (List.cons_ne_nil _ _)

lemma agree_read (h : Alike R f f') (hreg : reg &&& 0x80 = 0) (len : ℕ) :
    Agree (SameDriver R f f') (spiBurstReadReg reg len) (spiBurstReadReg reg len) := by
  apply Agree.step
  intro m m' hm
  rw [hm.spiPort, hm.spiPort', h.initialized]
  split_ifs
  · exact ⟨rfl, hm⟩
  · obtain ⟨hout, hworld⟩ := h.reads _ _ reg len hm.world hreg
    refine ⟨?_, rfl, rfl, hm.timerCtx, hm.timerCtx', hm.bandwidth, hm.factor, hworld⟩
    dsimp only
    rw [hout]

lemma agree_readByte (h : Alike R f f') (hreg : reg &&& 0x80 = 0) (b : UInt8) :
    Agree (SameDriver R f f') (spiReadByte reg b) (spiReadByte reg b) :=
  (agree_read h hreg 1).bind fun _ => .pure _

lemma agree_time (h : Alike R f f') : Agree (SameDriver R f f') sx127xTimerGetTimeUs sx127xTimerGetTimeUs := by
  apply Agree.step
  intro m m' hm
  rw [hm.timerCtx, hm.timerCtx']
  obtain ⟨hus, hworld⟩ := h.times _ _ hm.world
  exact ⟨hus, hm.spiPort, hm.spiPort', rfl, rfl, hm.bandwidth, hm.factor, hworld⟩

lemma agree_delay (h : Alike R f f') (ms : ℕ) :
    Agree (SameDriver R f f') (sx127xTaskDelayMs ms) (sx127xTaskDelayMs ms) := by
  apply Agree.update
  intro m m' hm
  rw [hm.timerCtx, hm.timerCtx']
  exact ⟨hm.spiPort, hm.spiPort', rfl, rfl, hm.bandwidth, hm.factor, h.delays _ _ ms hm.world⟩

lemma agree_switchMode (h : Alike R f f') (mode : UInt8) :
    Agree (SameDriver R f f') (sx1278SwitchMode mode) (sx1278SwitchMode mode) :=
  agree_writeByte h rfl _

lemma agree_clearIrq (h : Alike R f f') : Agree (SameDriver R f f') sx1278ClearIrq sx1278ClearIrq :=
  agree_writeByte h rfl _

lemma agree_checked {x rest : Radio ω Sx127xErr} {x' rest' : Radio ω' Sx127xErr}
    (hx : Agree (SameDriver R f f') x x') (hrest : Agree (SameDriver R f f') rest rest') :
    Agree (SameDriver R f f') (x >>= fun ret => if ret ≠ .sxOk then pure ret else rest)
      (x' >>= fun ret => if ret ≠ .sxOk then pure ret else rest') :=
  hx.bind fun _ => .ite (fun _ => .pure _) fun _ => hrest

lemma agree_set {rest : Radio ω Sx127xErr} {rest' : Radio ω' Sx127xErr} (h : Alike R f f')
    (hreg : reg &&& 0x80 = 0) (b : UInt8) (hrest : Agree (SameDriver R f f') rest rest') :
    Agree (SameDriver R f f') (spiBurstWriteReg reg [b] >>= fun ret => if ret ≠ .sxOk then pure ret else rest)
      (spiBurstWriteReg reg [b] >>= fun ret => if ret ≠ .sxOk then pure ret else rest') :=
  agree_checked (agree_writeByte h hreg b) hrest

lemma agree_channel (h : Alike R f f') (n : ℕ) :
    Agree (SameDriver R f f') (sx1278SwitchToNthChannel n) (sx1278SwitchToNthChannel n) := by
  unfold sx1278SwitchToNthChannel
  apply Agree.read
  intro m m' hm
  rw [hm.bandwidth]
  apply Agree.ite
  · exact fun _ => .pure _
  · exact fun _ => agree_set h rfl _ (agree_set h rfl _ (agree_writeByte h rfl _))

lemma agree_spreadingFactor (h : Alike R f f') (sf : UInt8) :
    Agree (SameDriver R f f') (sx1278SetSpreadingFactor sf) (sx1278SetSpreadingFactor sf) := by
  unfold sx1278SetSpreadingFactor
  apply agree_set h rfl
  apply Agree.ite
  · exact fun _ => .pure _
  · intro _
    apply (agree_writeByte h rfl _).bind
    intro ret
    apply Agree.ite
    · intro _
      apply Agree.bind
      · apply Agree.update
        intro m m' hm
        exact ⟨hm.spiPort, hm.spiPort', hm.timerCtx, hm.timerCtx', hm.bandwidth, rfl, hm.world⟩
      · exact fun _ => agree_switchMode h _
    · exact fun _ => agree_switchMode h _

lemma agree_bandwidth (h : Alike R f f') (bw : Bandwidths) (cr : CodingRate) (explicit : Bool) :
    Agree (SameDriver R f f') (sx1278SetBandwidth bw cr explicit) (sx1278SetBandwidth bw cr explicit) := by
  unfold sx1278SetBandwidth
  apply agree_set h rfl
  apply (agree_writeByte h rfl _).bind
  intro ret
  apply Agree.ite
  · intro _
    apply Agree.bind
    · apply Agree.update
      intro m m' hm
      exact ⟨hm.spiPort, hm.spiPort', hm.timerCtx, hm.timerCtx', rfl, hm.factor, hm.world⟩
    · intro _
      exact agree_checked (agree_channel h 0) (agree_switchMode h _)
  · exact fun _ => agree_switchMode h _

lemma initialize_agree (h : Alike R f f') : Agree (SameDriver R f f') (initializeSx1278 f.spiPort f.timerCtx)
    (initializeSx1278 f'.spiPort f'.timerCtx) := by
  unfold initializeSx1278
  apply Agree.bind (.update fun m m' hm => ⟨rfl, rfl, rfl, rfl, hm.bandwidth, hm.factor, hm.world⟩)
  intro _
  apply Agree.bind (agree_readByte h rfl 0)
  rintro ⟨ret, data⟩
  apply Agree.ite (fun _ => .pure _)
  intro _
  apply Agree.ite (fun _ => .pure _)
  intro _
  apply agree_set h rfl
  apply agree_set h rfl
  apply agree_set h rfl
  apply agree_set h rfl
  apply agree_set h rfl
  apply agree_checked (agree_channel h 0)
  apply agree_set h rfl
  apply agree_set h rfl
  apply agree_set h rfl
  apply agree_set h rfl
  apply Agree.read
  intro m m' hm
  rw [hm.factor]
  apply agree_checked (agree_spreadingFactor h _)
  apply agree_set h rfl
  apply agree_set h rfl
  apply agree_set h rfl
  exact agree_writeByte h rfl _

end Configuration

section Payloads

variable {R : ω → ω' → Prop} {f : Platform ω} {f' : Platform ω'}

lemma agree_dropped {α : Type} (h : Alike R f f') (a : α) : Agree (SameDriver R f f')
    (sx1278ClearIrq >>= fun _ => pure a) (sx1278ClearIrq >>= fun _ => pure a) :=
  (agree_clearIrq h).bind fun _ => .pure a

lemma agree_readLastPayload (h : Alike R f f') :
    Agree (SameDriver R f f') sx1278ReadLastPayload sx1278ReadLastPayload := by
  unfold sx1278ReadLastPayload
  apply Agree.bind (agree_switchMode h _)
  intro ret
  apply Agree.ite (fun _ => .pure _)
  intro _
  apply Agree.bind (agree_readByte h rfl 0)
  rintro ⟨ret, irq⟩
  apply Agree.ite (fun _ => .pure _)
  intro _
  apply Agree.ite (fun _ => agree_dropped h _)
  intro _
  apply Agree.ite (fun _ => agree_dropped h _)
  intro _
  apply Agree.bind (agree_readByte h rfl 0)
  rintro ⟨_, nPacketBytes⟩
  apply Agree.bind (agree_readByte h rfl 0)
  rintro ⟨ret, currentFifoAddr⟩
  apply Agree.ite (fun _ => agree_dropped h _)
  intro _
  apply Agree.bind (agree_writeByte h rfl _)
  intro ret
  apply Agree.ite (fun _ => agree_dropped h _)
  intro _
  apply Agree.bind (agree_read h rfl _)
  rintro ⟨ret, stored⟩
  apply Agree.ite (fun _ => agree_dropped h _)
  exact fun _ => agree_dropped h _

lemma agree_irqCleanup (h : Alike R f f') (cleanup : Bool) :
    Agree (SameDriver R f f') (irqCleanup cleanup) (irqCleanup cleanup) :=
  .ite (fun _ => (agree_writeByte h rfl _).bind fun _ => .pure _) fun _ => .pure _

lemma agree_polled (h : Alike R f f') (cleanup : Bool) (ret : Sx127xErr) : Agree (SameDriver R f f')
    (irqCleanup cleanup >>= fun _ => pure ret) (irqCleanup cleanup >>= fun _ => pure ret) :=
  (agree_irqCleanup h cleanup).bind fun _ => .pure ret

lemma agree_pollLoop (h : Alike R f f') (start timeoutUs : ℤ) (pollIntervalMs : ℕ) (irqAndMask : UInt8) (cleanup : Bool)
    (fuel : ℕ) (irq : UInt8) : Agree (SameDriver R f f')
      (pollForIrqFlagLoop start timeoutUs pollIntervalMs irqAndMask cleanup fuel irq)
      (pollForIrqFlagLoop start timeoutUs pollIntervalMs irqAndMask cleanup fuel irq) := by
  induction fuel generalizing irq with
  | zero => exact .stop _
  | succ fuel ih =>
    unfold pollForIrqFlagLoop
    apply Agree.bind (agree_readByte h rfl irq)
    rintro ⟨ret, irq⟩
    apply Agree.ite (fun _ => agree_polled h _ _)
    intro _
    apply Agree.ite (fun _ => agree_polled h _ _)
    intro _
    apply Agree.bind (agree_time h)
    intro now
    apply Agree.ite (fun _ => agree_polled h _ _)
    exact fun _ => (agree_delay h _).bind fun _ => ih irq

lemma agree_poll (h : Alike R f f') (fuel timeoutMs pollIntervalMs : ℕ) (irqAndMask : UInt8) (cleanup : Bool) :
    Agree (SameDriver R f f') (pollForIrqFlag fuel timeoutMs pollIntervalMs irqAndMask cleanup)
      (pollForIrqFlag fuel timeoutMs pollIntervalMs irqAndMask cleanup) :=
  (agree_time h).bind fun _ => agree_pollLoop h _ _ _ _ _ _ _

lemma agree_pollNoTimeout (h : Alike R f f') (pollIntervalMs : ℕ) (irqAndMask : UInt8) (cleanup : Bool) (fuel : ℕ)
    (irq : UInt8) : Agree (SameDriver R f f')
      (pollForIrqFlagNoTimeout pollIntervalMs irqAndMask cleanup fuel irq)
      (pollForIrqFlagNoTimeout pollIntervalMs irqAndMask cleanup fuel irq) := by
  induction fuel generalizing irq with
  | zero => exact .stop _
  | succ fuel ih =>
    unfold pollForIrqFlagNoTimeout
    apply Agree.bind (agree_readByte h rfl irq)
    rintro ⟨ret, irq⟩
    apply Agree.ite (fun _ => agree_polled h _ _)
    intro _
    apply Agree.ite (fun _ => agree_polled h _ _)
    exact fun _ => (agree_delay h _).bind fun _ => ih irq

lemma agree_sendPayload (h : Alike R f f') (fuel : ℕ) {buf : List UInt8} {len : UInt8} (hsome : buf.take len.toNat ≠ [])
    (switchToRxAfterTx : Bool) : Agree (SameDriver R f f') (sx1278SendPayload fuel buf len switchToRxAfterTx)
      (sx1278SendPayload fuel buf len switchToRxAfterTx) := by
  unfold sx1278SendPayload
  apply agree_set h rfl
  apply Agree.bind (agree_readByte h rfl 0)
  rintro ⟨ret, base⟩
  apply Agree.ite (fun _ => .pure _)
  intro _
  apply agree_set h rfl
  apply agree_set h rfl
  apply agree_checked (agree_write h rfl hsome)
  apply agree_set h rfl
  apply agree_set h rfl
  apply agree_checked (agree_poll h fuel 3000 3 _ true)
  apply agree_set h rfl
  apply agree_set h rfl
  exact .pure _

lemma agree_scan (h : Alike R f f') :
    Agree (SameDriver R f f') sx1278GetChannelRssis sx1278GetChannelRssis := by
  have hmeasure : ∀ i arr, Agree (SameDriver R f f') (measureChannel i arr) (measureChannel i arr) := by
    intro i arr
    unfold measureChannel
    apply Agree.bind (agree_channel h i)
    intro ret
    apply Agree.ite (fun _ => .pure _)
    intro _
    apply Agree.bind (agree_delay h _)
    intro _
    apply Agree.bind (agree_readByte h rfl 0)
    rintro ⟨ret, rssi⟩
    exact .ite (fun _ => .pure _) fun _ => .pure _
  have hfsk : Agree (SameDriver R f f') switchToFsk switchToFsk := by
    unfold switchToFsk
    apply agree_set h rfl
    apply agree_set h rfl
    apply Agree.bind (agree_readByte h rfl 0)
    rintro ⟨ret, mode⟩
    apply Agree.ite (fun _ => .pure _)
    exact fun _ => .ite (fun _ => .pure _) fun _ => .pure _
  unfold sx1278GetChannelRssis
  apply Agree.bind hfsk
  intro ret
  apply Agree.ite (fun _ => .pure _)
  intro _
  apply Agree.bind (agree_switchMode h _)
  intro ret
  apply Agree.ite (fun _ => .pure _)
  intro _
  apply Agree.read
  intro m m' hm
  rw [hm.bandwidth]
  apply Agree.bind (.forLoop hmeasure _ 0 _)
  exact fun _ => (agree_switchMode h _).bind fun _ => .pure _

end Payloads

section Packets

variable {σ τ : Type}

structure DriversAlike (R : σ → τ → Prop) (d : Driver σ) (d' : Driver τ) : Prop where
  switchMode : ∀ mode, Agree R (d.switchMode mode) (d'.switchMode mode)
  clearIrq : Agree R d.clearIrq d'.clearIrq
  poll : ∀ timeoutMs pollIntervalMs mask cleanup,
    Agree R (d.pollForIrqFlag timeoutMs pollIntervalMs mask cleanup)
      (d'.pollForIrqFlag timeoutMs pollIntervalMs mask cleanup)
  pollNoTimeout : ∀ pollIntervalMs mask cleanup,
    Agree R (d.pollForIrqFlagNoTimeout pollIntervalMs mask cleanup)
      (d'.pollForIrqFlagNoTimeout pollIntervalMs mask cleanup)
  readLastPayload : Agree R d.readLastPayload d'.readLastPayload
  sendPayload : ∀ buf len switchToRx, buf.take (UInt8.toNat len) ≠ [] →
    Agree R (d.sendPayload buf len switchToRx) (d'.sendPayload buf len switchToRx)
  behind : ∀ s t, R s t → d.behindRxBuffer s = d'.behindRxBuffer t

def SameNode (R : σ → τ → Prop) (n : Node σ) (n' : Node τ) : Prop :=
  R n.radio n'.radio ∧ n.rxBuffer = n'.rxBuffer

variable {R : σ → τ → Prop} {d : Driver σ} {d' : Driver τ} {α : Type}

lemma agree_onRadio {x : Prog σ α} {y : Prog τ α} (h : Agree R x y) : Agree (SameNode R) (onRadio x) (onRadio y) :=
  .zoom (fun _ _ hn => hn.1) (fun _ _ _ _ hn hR => ⟨hR, hn.2⟩) h

lemma agree_readLastPacket (h : DriversAlike R d d') :
    Agree (SameNode R) (readLastPacket d) (readLastPacket d') := by
  unfold readLastPacket
  apply Agree.bind (agree_onRadio h.readLastPayload)
  intro payload
  apply Agree.bind
  · apply Agree.update
    intro n n' hn
    exact ⟨hn.1, congrArg (·.overwrite payload.stored) hn.2⟩
  intro _
  apply Agree.read
  intro n n' hn
  rw [hn.2, h.behind _ _ hn.1]
  apply Agree.bind (.update fun n n' hn => ⟨hn.1, rfl⟩)
  exact fun _ => (agree_onRadio h.clearIrq).bind fun _ => .pure _

lemma agree_pollAndRead (h : DriversAlike R d d') (rxP : Packet) (timeout : ℕ) :
    Agree (SameNode R) (sx1278PollAndReadPacket d rxP timeout) (sx1278PollAndReadPacket d' rxP timeout) := by
  have hbody : Agree (SameNode R) (pollAndReadBody d rxP timeout) (pollAndReadBody d' rxP timeout) := by
    unfold pollAndReadBody
    apply Agree.bind (agree_onRadio (h.switchMode _))
    intro ret
    apply Agree.ite (fun _ => .pure _)
    intro _
    apply Agree.bind (agree_onRadio (h.poll _ _ _ _))
    intro ret
    apply Agree.ite (fun _ => .pure _)
    intro _
    apply Agree.bind (agree_onRadio (h.switchMode _))
    intro ret
    apply Agree.ite (fun _ => .pure _)
    intro _
    apply Agree.bind (agree_readLastPacket h)
    rintro ⟨ret, p⟩
    exact .ite (fun _ => .pure _) fun _ => .pure _
  apply Agree.bind hbody
  intro out
  apply Agree.bind (agree_onRadio h.clearIrq)
  exact fun _ => (agree_onRadio (h.switchMode _)).bind fun _ => .pure _

lemma agree_sendPacket (h : DriversAlike R d d') (p : Packet) (switchToRxAfterTx : Bool) :
    Agree (SameNode R) (sx1278SendPacket d p switchToRxAfterTx) (sx1278SendPacket d' p switchToRxAfterTx) := by
  by_cases hmax : p.payloadLength.toNat ≤ payloadLengthMax
  · rw [sx1278SendPacket_eq hmax, sx1278SendPacket_eq hmax]
    apply agree_onRadio (h.sendPayload _ _ _ _)
    rw [txBuffer_take hmax, ← List.length_pos_iff, encode_length, overhead]
    exact Nat.add_pos_left (by decide) _
  · rw [sx1278SendPacket, sx1278SendPacket, packetDescription_long p hmax]
    exact fun _ _ _ => .stopped _

lemma agree_sendAttempts (h : DriversAlike R d d') (p : Packet) (ackType : PacketTypes) (n : ℕ) (rxP : Packet) :
    Agree (SameNode R) (sendAttempts d p ackType n rxP) (sendAttempts d' p ackType n rxP) := by
  induction n generalizing rxP with
  | zero => exact .pure _
  | succ n ih =>
    unfold sendAttempts
    apply Agree.bind (agree_sendPacket h p true)
    intro ret
    apply Agree.ite (fun _ => .pure _)
    intro _
    apply Agree.bind (agree_pollAndRead h rxP _)
    rintro ⟨ret, rxP⟩
    apply Agree.ite (fun _ => ih rxP)
    intro _
    apply Agree.ite (fun _ => (Agree.ofExcept _).bind fun _ => ih rxP)
    exact fun _ => .pure _

lemma agree_ensureAck (h : DriversAlike R d d') (p : Packet) (timeout : ℤ) (ackType : PacketTypes) :
    Agree (SameNode R) (sendPacketEnsureAck d p timeout ackType) (sendPacketEnsureAck d' p timeout ackType) := by
  apply Agree.bind (agree_sendAttempts h p ackType _ _)
  intro ret
  apply Agree.bind (agree_onRadio h.clearIrq)
  exact fun _ => (agree_onRadio (h.switchMode _)).bind fun _ => .pure _

lemma agree_sendBurst (h : DriversAlike R d d') (pBuf : List (Option Packet)) :
    Agree (SameNode R) (sendBurst d pBuf) (sendBurst d' pBuf) := by
  have hfrom : ∀ len i, Agree (SameNode R) (sendBurstFrom d len i pBuf) (sendBurstFrom d' len i pBuf) := by
    intro len i
    induction pBuf generalizing i with
    | nil => exact .pure _
    | cons p rest ih =>
      cases p with
      | none => exact .stop _
      | some p =>
        apply Agree.bind (agree_ensureAck h p _ _)
        intro ret
        exact .ite (fun _ => .pure _) fun _ => ih (i + 1)
  exact hfrom _ 0

lemma agree_rxLoop (h : DriversAlike R d d') (rounds : ℕ) (handler : RxHandlerCtx) :
    Agree (SameNode R) (startRxLoop d rounds handler) (startRxLoop d' rounds handler) := by
  have hround : ∀ handler, Agree (SameNode R) (rxRound d handler) (rxRound d' handler) := by
    intro handler
    unfold rxRound
    apply Agree.bind (agree_onRadio h.clearIrq)
    intro ret
    apply Agree.ite (fun _ => .pure _)
    intro _
    apply Agree.bind (agree_onRadio (h.switchMode _))
    intro ret
    apply Agree.ite (fun _ => .pure _)
    intro _
    apply Agree.bind (agree_onRadio (h.pollNoTimeout _ _ _))
    intro ret
    apply Agree.ite (fun _ => .pure _)
    intro _
    apply Agree.bind (agree_readLastPacket h)
    rintro ⟨ret, p⟩
    apply Agree.ite (fun _ => .pure _)
    intro _
    cases ackPacket p.srcAddress p.destAddress p.ackId p.sequenceNumber with
    | none => exact .stop _
    | some ack =>
      apply Agree.bind (agree_sendPacket h ack false)
      exact fun _ => .ite (fun _ => .pure _) fun _ => .pure _
  have hrounds : ∀ handler, Agree (SameNode R) (rxRounds d rounds handler) (rxRounds d' rounds handler) := by
    induction rounds with
    | zero => exact fun _ => .pure _
    | succ rounds ih =>
      intro handler
      apply Agree.bind (hround handler)
      rintro ⟨round, handler⟩
      cases round with
      | leave ret => exact .pure _
      | skip ret => exact (ih handler).bind fun _ => .pure _
      | handled p outcome => exact (ih handler).bind fun _ => .pure _
  apply Agree.bind (agree_onRadio (h.switchMode _))
  intro ret
  exact .ite (fun _ => .pure _) fun _ => hrounds handler

end Packets

inductive ApiCall
  | init
  | setBandwidth (bw : Bandwidths) (cr : CodingRate) (enableExplicitHeaders : Bool)
  | setSpreadingFactor (sf : UInt8)
  | switchToNthChannel (n : ℕ)
  | switchMode (modeRegister : UInt8)
  | clearIrq
  | readIrq
  | getOpMode
  | getChannelRssis
  | pollForIrqFlag (timeoutMs pollIntervalMs : ℕ) (irqAndMask : UInt8) (cleanup : Bool)
  | pollForIrqFlagNoTimeout (pollIntervalMs : ℕ) (irqAndMask : UInt8) (cleanup : Bool)
  | readLastPayload
  | sendPayload (buf : List UInt8) (len : UInt8) (some : buf.take len.toNat ≠ []) (switchToRxAfterTx : Bool)
  | readLastPacket
  | pollAndReadPacket (rxP : Packet) (timeout : ℕ)
  | sendPacket (p : Packet) (switchToRxAfterTx : Bool)
  | sendPacketEnsureAck (p : Packet) (timeout : ℤ) (ackType : PacketTypes)
  | sendBurst (pBuf : List (Option Packet))
  | startRxLoop (rounds : ℕ) (handler : RxHandlerCtx)

namespace ApiCall

def Result : ApiCall → Type
  | readIrq => Sx127xErr × UInt8
  | getOpMode => Sx127xErr × UInt8
  | getChannelRssis => ChannelRssis
  | readLastPayload => PayloadRead
  | readLastPacket => Sx127xErr × Packet
  | pollAndReadPacket _ _ => Sx127xErr × Packet
  | startRxLoop _ _ => List RxRound × RxHandlerCtx
  | _ => Sx127xErr

def perform (fuel : ℕ) (behind : ℕ → UInt8) (f : Platform ω) : (c : ApiCall) → Prog (Node (Machine ω)) c.Result
  | init => onRadio (initializeSx1278 f.spiPort f.timerCtx)
  | setBandwidth bw cr enableExplicitHeaders => onRadio (sx1278SetBandwidth bw cr enableExplicitHeaders)
  | setSpreadingFactor sf => onRadio (sx1278SetSpreadingFactor sf)
  | switchToNthChannel n => onRadio (sx1278SwitchToNthChannel n)
  | switchMode modeRegister => onRadio (sx1278SwitchMode modeRegister)
  | clearIrq => onRadio sx1278ClearIrq
  | readIrq => onRadio (sx1278ReadIrq 0)
  | getOpMode => onRadio (sx1278GetOpMode 0)
  | getChannelRssis => onRadio sx1278GetChannelRssis
  | pollForIrqFlag timeoutMs pollIntervalMs irqAndMask cleanup =>
    onRadio (LoraNetworking.pollForIrqFlag fuel timeoutMs pollIntervalMs irqAndMask cleanup)
  | pollForIrqFlagNoTimeout pollIntervalMs irqAndMask cleanup =>
    onRadio (LoraNetworking.pollForIrqFlagNoTimeout pollIntervalMs irqAndMask cleanup fuel 0)
  | readLastPayload => onRadio sx1278ReadLastPayload
  | sendPayload buf len _ switchToRxAfterTx => onRadio (sx1278SendPayload fuel buf len switchToRxAfterTx)
  | readLastPacket => LoraNetworking.readLastPacket (sx127xDriver fuel fun _ => behind)
  | pollAndReadPacket rxP timeout => sx1278PollAndReadPacket (sx127xDriver fuel fun _ => behind) rxP timeout
  | sendPacket p switchToRxAfterTx => sx1278SendPacket (sx127xDriver fuel fun _ => behind) p switchToRxAfterTx
  | sendPacketEnsureAck p timeout ackType =>
    LoraNetworking.sendPacketEnsureAck (sx127xDriver fuel fun _ => behind) p timeout ackType
  | sendBurst pBuf => LoraNetworking.sendBurst (sx127xDriver fuel fun _ => behind) pBuf
  | startRxLoop rounds handler => LoraNetworking.startRxLoop (sx127xDriver fuel fun _ => behind) rounds handler

end ApiCall

/-- An application: which call it makes next may depend on what the calls before returned. -/
inductive App (α : Type)
  | done (a : α)
  | call (c : ApiCall) (next : c.Result → App α)

def App.run {α : Type} (fuel : ℕ) (behind : ℕ → UInt8) (f : Platform ω) : App α → Prog (Node (Machine ω)) α
  | done a => pure a
  | call c next => c.perform fuel behind f >>= fun result => (next result).run fuel behind f

section Applications

variable {R : ω → ω' → Prop} {f : Platform ω} {f' : Platform ω'}

lemma sx127xDriver_alike (h : Alike R f f') (fuel : ℕ) (behind : ℕ → UInt8) : DriversAlike (SameDriver R f f')
    (sx127xDriver fuel fun _ => behind) (sx127xDriver fuel fun _ => behind) where
  switchMode := agree_switchMode h
  clearIrq := agree_clearIrq h
  poll := agree_poll h fuel
  pollNoTimeout pollIntervalMs mask cleanup := agree_pollNoTimeout h pollIntervalMs mask cleanup fuel 0
  readLastPayload := agree_readLastPayload h
  sendPayload _ _ _ hsome := agree_sendPayload h fuel hsome _
  behind _ _ _ := rfl

lemma agree_perform (h : Alike R f f') (fuel : ℕ) (behind : ℕ → UInt8) (c : ApiCall) :
    Agree (SameNode (SameDriver R f f')) (c.perform fuel behind f) (c.perform fuel behind f') := by
  have hd := sx127xDriver_alike h fuel behind
  cases c with
  | init => exact agree_onRadio (initialize_agree h)
  | setBandwidth bw cr explicit => exact agree_onRadio (agree_bandwidth h bw cr explicit)
  | setSpreadingFactor sf => exact agree_onRadio (agree_spreadingFactor h sf)
  | switchToNthChannel n => exact agree_onRadio (agree_channel h n)
  | switchMode mode => exact agree_onRadio (agree_switchMode h mode)
  | clearIrq => exact agree_onRadio (agree_clearIrq h)
  | readIrq => exact agree_onRadio (agree_readByte h rfl 0)
  | getOpMode => exact agree_onRadio (agree_readByte h rfl 0)
  | getChannelRssis => exact agree_onRadio (agree_scan h)
  | pollForIrqFlag timeoutMs pollIntervalMs mask cleanup => exact agree_onRadio (agree_poll h fuel _ _ _ _)
  | pollForIrqFlagNoTimeout pollIntervalMs mask cleanup => exact agree_onRadio (agree_pollNoTimeout h _ _ _ fuel 0)
  | readLastPayload => exact agree_onRadio (agree_readLastPayload h)
  | sendPayload buf len hsome switchToRx => exact agree_onRadio (agree_sendPayload h fuel hsome switchToRx)
  | readLastPacket => exact agree_readLastPacket hd
  | pollAndReadPacket rxP timeout => exact agree_pollAndRead hd rxP timeout
  | sendPacket p switchToRx => exact agree_sendPacket hd p switchToRx
  | sendPacketEnsureAck p timeout ackType => exact agree_ensureAck hd p timeout ackType
  | sendBurst pBuf => exact agree_sendBurst hd pBuf
  | startRxLoop rounds handler => exact agree_rxLoop hd rounds handler

lemma agree_app {α : Type} (h : Alike R f f') (fuel : ℕ) (behind : ℕ → UInt8) (app : App α) :
    Agree (SameNode (SameDriver R f f')) (app.run fuel behind f) (app.run fuel behind f') := by
  induction app with
  | done a => exact .pure a
  | call c next ih => exact (agree_perform h fuel behind c).bind ih

end Applications

end LoraNetworking
