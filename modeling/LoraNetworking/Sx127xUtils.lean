import LoraNetworking.Lib.Binary32
import LoraNetworking.Packet
import LoraNetworking.Sx127xDriver

/-! Packets over the radio (`sx127x_utils.c`, and `read_last_packet` of `sx127x_rx_utils.c`).
The code is written over the driver functions it calls, so that it runs on the driver of
`sx127x_driver.c` as well as on a channel that only says which frames get through. -/

namespace LoraNetworking

open StateProg

def phyTimeoutMsec : ℕ := 3000

structure Driver (σ : Type) where
  switchMode : UInt8 → Prog σ Sx127xErr
  clearIrq : Prog σ Sx127xErr
  pollForIrqFlag : ℕ → ℕ → UInt8 → Bool → Prog σ Sx127xErr
  pollForIrqFlagNoTimeout : ℕ → UInt8 → Bool → Prog σ Sx127xErr
  readLastPayload : Prog σ PayloadRead
  sendPayload : List UInt8 → UInt8 → Bool → Prog σ Sx127xErr
  behindRxBuffer : σ → ℕ → UInt8

def sx127xDriver {ω : Type} (fuel : ℕ) (behindRxBuffer : Machine ω → ℕ → UInt8) :
    Driver (Machine ω) where
  switchMode := sx1278SwitchMode
  clearIrq := sx1278ClearIrq
  pollForIrqFlag := pollForIrqFlag fuel
  pollForIrqFlagNoTimeout pollIntervalMs irqAndMask cleanup :=
    LoraNetworking.pollForIrqFlagNoTimeout pollIntervalMs irqAndMask cleanup fuel 0
  readLastPayload := sx1278ReadLastPayload
  sendPayload := sx1278SendPayload fuel
  behindRxBuffer := behindRxBuffer

abbrev RxBuffer := Vector UInt8 255

structure Node (σ : Type) where
  radio : σ
  rxBuffer : RxBuffer

def zeroBuffer : RxBuffer := Vector.replicate 255 0

variable {σ α : Type}

def onRadio (x : Prog σ α) : Prog (Node σ) α :=
  x.zoom Node.radio fun radio n => { n with radio := radio }

def RxBuffer.overwrite (buf : RxBuffer) (stored : List (Option UInt8)) : RxBuffer :=
  Vector.ofFn fun i => ((stored[i]?).join).getD buf[i]

def rxMemory (buf : RxBuffer) (behind : ℕ → UInt8) : ℕ → UInt8 := fun i =>
  if h : i < 255 then buf[i] else behind (i - 255)

variable (d : Driver σ)

def readLastPacket : Prog (Node σ) (Sx127xErr × Packet) := do
  -- the result and the length are not used: `ret` is assigned again below
  let payload ← onRadio d.readLastPayload
  Prog.update fun n => { n with rxBuffer := n.rxBuffer.overwrite payload.stored }
  let n ← Prog.read
  let (packetSize, p) := parsePacket (rxMemory n.rxBuffer (d.behindRxBuffer n.radio))
  let ret : Sx127xErr := if packetSize = -1 then .sxInvalidState else .sxOk
  Prog.update fun n => { n with rxBuffer := zeroBuffer }
  let _ ← onRadio d.clearIrq
  return (ret, p)

/-- `sx1278_poll_and_read_packet` up to its `cleanup` label. The packet behind the pointer
is passed in and out. -/
def pollAndReadBody (rxP : Packet) (timeout : ℕ) : Prog (Node σ) (Sx127xErr × Packet) := do
  let ret ← onRadio (d.switchMode (modeLora ||| modeRxSingle))
  if ret ≠ .sxOk then return (ret, rxP)
  let ret ← onRadio (d.pollForIrqFlag timeout 1 ((1 : UInt8) <<< 6) false)
  if ret ≠ .sxOk then return (ret, rxP)
  let ret ← onRadio (d.switchMode (modeLora ||| modeStdby))
  if ret ≠ .sxOk then return (ret, rxP)
  let (ret, rxP) ← readLastPacket d
  if ret ≠ .sxOk then return (ret, rxP)
  return (.sxOk, rxP)

def sx1278PollAndReadPacket (rxP : Packet) (timeout : ℕ) : Prog (Node σ) (Sx127xErr × Packet) := do
  let out ← pollAndReadBody d rxP timeout
  let _ ← onRadio d.clearIrq
  let _ ← onRadio (d.switchMode (modeLora ||| modeStdby))
  return out

def sx1278SendPacket (p : Packet) (switchToRxAfterTx : Bool) : Prog (Node σ) Sx127xErr := do
  let _ ← Prog.ofExcept (packetDescription p)
  -- only the bytes written here are sent, so it does not matter what the static buffer held
  let (packetSize, txBuffer) := packetToBytestream (List.replicate 255 0) 255 p
  if packetSize = -1 then return .sxInvalidState
  onRadio (d.sendPayload txBuffer (UInt8.ofNat packetSize.toNat) switchToRxAfterTx)

def timeoutN (timeout : ℤ) : ℤ :=
  -- `(int)ceilf((float)timeout / PHY_TIMEOUT_MSEC)`
  ⌈Binary32.round (Binary32.round timeout / phyTimeoutMsec)⌉

def sendAttempts (p : Packet) (ackType : PacketTypes) : ℕ → Packet → Prog (Node σ) Sx127xErr
  | 0, _ => return .sxTimeout
  | n + 1, rxP => do
    let ret ← sx1278SendPacket d p true
    if ret ≠ .sxOk then return ret
    let (ret, rxP) ← sx1278PollAndReadPacket d rxP phyTimeoutMsec
    if ret ≠ .sxOk then sendAttempts p ackType n rxP
    else if checkPacketFeatures rxP p.destAddress p.srcAddress p.ackId p.sequenceNumber ackType =
        false then do
      let _ ← Prog.ofExcept (packetDescription rxP)
      sendAttempts p ackType n rxP
    else return .sxOk

/-- A packet as `malloc` leaves it: its fields are written before they are read. -/
def mallocPacket : Packet := emptyPacket 0 0 0 0

def sendPacketEnsureAck (p : Packet) (timeout : ℤ) (ackType : PacketTypes) :
    Prog (Node σ) Sx127xErr := do
  let ret ← sendAttempts d p ackType (timeoutN timeout).toNat mallocPacket
  let _ ← onRadio d.clearIrq
  let _ ← onRadio (d.switchMode (modeLora ||| modeSleep))
  return ret

def burstAckType (len i : ℕ) : PacketTypes :=
  if i = 0 then .packetBegin
  else if i = len - 1 then .packetEnd
  else .packetAck

def sendBurstFrom (len : ℕ) : ℕ → List (Option Packet) → Prog (Node σ) Sx127xErr
  | _, [] => return .sxOk
  | _, none :: _ => Prog.stop .undefined
  | i, some currPacket :: rest => do
    let ret ← sendPacketEnsureAck d currPacket (4 * phyTimeoutMsec) (burstAckType len i)
    if ret ≠ .sxOk then return ret
    sendBurstFrom len (i + 1) rest

def sendBurst (pBuf : List (Option Packet)) : Prog (Node σ) Sx127xErr :=
  sendBurstFrom d pBuf.length 0 pBuf

section Rssi

variable {ω : Type}

def rssiReadDelayMs : ℕ := 20

def switchToFsk : Radio ω Sx127xErr := do
  let ret ← sx1278SwitchMode (modeLora ||| modeSleep)
  if ret ≠ .sxOk then return ret
  let ret ← sx1278SwitchMode modeSleep
  if ret ≠ .sxOk then return ret
  let (ret, data) ← sx1278GetOpMode 0
  if ret ≠ .sxOk then return ret
  -- the radio is stuck in LoRa mode, and `ret` is the result of the read that says so
  if data >>> 7 ≠ 0 then return ret
  return ret

/-- What a scan leaves behind its two pointers: an entry that no measurement was stored in has the
indeterminate value that `malloc` gave it, and on an early return `*len` is not written. -/
structure ChannelRssis where
  ret : Sx127xErr
  rssiData : List (Option ℚ)
  len : Option ℕ
  deriving DecidableEq

/-- The body of the loop; `continue` leaves the entry as it is. -/
def measureChannel (i : ℕ) (tempRssiArr : List (Option ℚ)) : Radio ω (List (Option ℚ)) := do
  let ret ← sx1278SwitchToNthChannel i
  if ret ≠ .sxOk then return tempRssiArr
  sx127xTaskDelayMs rssiReadDelayMs
  let (ret, retData) ← spiReadByte 0x11 0
  if ret ≠ .sxOk then return tempRssiArr
  return tempRssiArr.set i (some (-(retData.toNat : ℚ) / 2))

/-- `sx_1278_get_channel_rssis` from the allocation of the array on. -/
def scanChannels (channelN : ℕ) : Radio ω ChannelRssis := do
  let tempRssiArr ← Prog.forLoop measureChannel channelN 0 (List.replicate channelN none)
  let ret ← sx1278SwitchMode (modeSleep ||| modeLora)
  return ⟨ret, tempRssiArr, some channelN⟩

def sx1278GetChannelRssis : Radio ω ChannelRssis := do
  let ret ← switchToFsk
  if ret ≠ .sxOk then return ⟨ret, [], none⟩
  let ret ← sx1278SwitchMode modeFskReceiver
  if ret ≠ .sxOk then return ⟨ret, [], none⟩
  let m ← Prog.read
  scanChannels (calculateChannelNum m.loraBandwidthHz)

end Rssi

lemma onRadio_of_ok {x : Prog σ α} {n : Node σ} {a : α} {radio : σ} (h : x n.radio = .ok (a, radio)) :
    onRadio x n = .ok (a, ⟨radio, n.rxBuffer⟩) := by
  simp [onRadio, Prog.zoom, h]

lemma onRadio_ok {x : Prog σ α} {n n' : Node σ} {a : α} :
    onRadio x n = .ok (a, n') ↔ x n.radio = .ok (a, n'.radio) ∧ n'.rxBuffer = n.rxBuffer := by
  rw [onRadio, Prog.zoom_ok]
  constructor
  · rintro ⟨r, hr, rfl⟩
    exact ⟨hr, rfl⟩
  · rintro ⟨hr, hb⟩
    obtain ⟨radio, rxBuffer⟩ := n'
    exact ⟨radio, hr, by rw [← hb]⟩

variable {d}

lemma readLastPacket_ok {n n' : Node σ} {ret : Sx127xErr} {p : Packet} :
    readLastPacket d n = .ok ((ret, p), n') ↔
      ∃ payload radio e, d.readLastPayload n.radio = .ok (payload, radio) ∧
        d.clearIrq radio = .ok (e, n'.radio) ∧ n'.rxBuffer = zeroBuffer ∧ ret = .sxOk ∧
        p = (parsePacket (rxMemory (n.rxBuffer.overwrite payload.stored)
          (d.behindRxBuffer radio))).2 := by
  have hsize : ∀ mem, (parsePacket mem).1 ≠ -1 := fun mem => by
    rw [parsePacket_size]
    omega
  simp only [readLastPacket, Prog.bind_ok, onRadio_ok, Prog.update_apply, Prog.read_apply,
    Prog.pure_apply, Except.ok.injEq, Prod.mk.injEq, if_neg (hsize _)]
  constructor
  · rintro ⟨payload, n₁, ⟨hread, hbuf⟩, -, n₂, ⟨-, rfl⟩, n₃, n₄, ⟨rfl, rfl⟩, -, n₅, ⟨-, rfl⟩, e, n₆,
      ⟨hclear, hzero⟩, ⟨rfl, rfl⟩, rfl⟩
    exact ⟨payload, n₁.radio, e, hread, hclear, hzero, rfl, by rw [hbuf]⟩
  · rintro ⟨payload, radio, e, hread, hclear, hzero, rfl, rfl⟩
    exact ⟨payload, ⟨radio, n.rxBuffer⟩, ⟨hread, rfl⟩, (), _, ⟨trivial, rfl⟩, _, _, ⟨rfl, rfl⟩, (), _,
      ⟨trivial, rfl⟩, e, n', ⟨hclear, hzero⟩, ⟨rfl, rfl⟩, rfl⟩

lemma rxMemory_overwrite (buf : RxBuffer) (behind : ℕ → UInt8) {frame : List UInt8}
    (hmax : frame.length ≤ 255) {i : ℕ} (hi : i < frame.length) :
    rxMemory (buf.overwrite (frame.map some)) behind i = frame[i] := by
  have hlt : i < 255 := by omega
  simp [rxMemory, RxBuffer.overwrite, hlt, hi]

lemma readLastPacket_frame {n : Node σ} {p : Packet} {radio radio' : σ} {ret e : Sx127xErr}
    {len : Option ℕ} (hmax : p.payloadLength.toNat ≤ payloadLengthMax)
    (hread : d.readLastPayload n.radio = .ok (⟨ret, (encode p).map some, len⟩, radio))
    (hclear : d.clearIrq radio = .ok (e, radio')) :
    readLastPacket d n = .ok ((.sxOk, p), ⟨radio', zeroBuffer⟩) := by
  have hlen : (encode p).length ≤ 255 := by
    simp only [encode_length, overhead, addrLength, payloadLengthMax] at hmax ⊢
    omega
  rw [readLastPacket_ok]
  refine ⟨_, radio, e, hread, hclear, rfl, rfl, ?_⟩
  rw [parsePacket_encode p fun i hi => rxMemory_overwrite _ _ hlen hi]

def txBuffer (p : Packet) : List UInt8 := encode p ++ List.replicate (255 - (encode p).length) 0

lemma txBuffer_take {p : Packet} (h : p.payloadLength.toNat ≤ payloadLengthMax) :
    (txBuffer p).take (UInt8.ofNat (encode p).length).toNat = encode p := by
  have hlen : (UInt8.ofNat (encode p).length).toNat = (encode p).length := by
    rw [UInt8.toNat_ofNat', encode_length]
    simp only [payloadLengthMax, overhead, addrLength] at h ⊢
    omega
  rw [hlen, txBuffer, List.take_left]

lemma sx1278SendPacket_eq {p : Packet} (h : p.payloadLength.toNat ≤ payloadLengthMax)
    (switchToRxAfterTx : Bool) :
    sx1278SendPacket d p switchToRxAfterTx =
      onRadio (d.sendPayload (txBuffer p) (UInt8.ofNat (encode p).length) switchToRxAfterTx) := by
  have hfit : overhead + p.payloadLength.toNat ≤ 255 := by
    simp only [payloadLengthMax, overhead, addrLength] at h ⊢
    omega
  have hbytes := packetToBytestream_ok (List.replicate 255 0) 255 p hfit
  rw [sx1278SendPacket, packetDescription_ok p h, hbytes]
  funext n
  rw [Prog.bind_of_ok (Prog.ofExcept_ok _ n)]
  dsimp only
  rw [if_neg (by omega), Int.toNat_natCast, ← encode_length, List.drop_replicate]
  rfl

lemma sx1278SendPacket_of_ok {p : Packet} {switchToRxAfterTx : Bool} {n : Node σ} {ret : Sx127xErr}
    {radio : σ} (h : p.payloadLength.toNat ≤ payloadLengthMax)
    (hsend : d.sendPayload (txBuffer p) (UInt8.ofNat (encode p).length) switchToRxAfterTx n.radio =
      .ok (ret, radio)) :
    sx1278SendPacket d p switchToRxAfterTx n = .ok (ret, ⟨radio, n.rxBuffer⟩) := by
  rw [sx1278SendPacket_eq h, onRadio_of_ok hsend]

lemma sx1278SendPacket_bounded {p : Packet} {switchToRxAfterTx : Bool} {n n' : Node σ} {ret : Sx127xErr}
    (h : sx1278SendPacket d p switchToRxAfterTx n = .ok (ret, n')) :
    p.payloadLength.toNat ≤ payloadLengthMax := by
  by_contra hlong
  rw [sx1278SendPacket, packetDescription_long p hlong, Prog.bind_apply, Prog.ofExcept_error] at h
  exact absurd h (by simp only [reduceCtorEq, not_false_eq_true])

lemma timeoutN_burst : timeoutN (4 * phyTimeoutMsec) = 4 := by
  have hin : Binary32.round 12000 = 12000 := by
    simpa using Binary32.round_representable 12000 0 (by norm_num)
  have hout : Binary32.round 4 = 4 := by
    simpa using Binary32.round_representable 4 0 (by norm_num)
  have hmsec : (((4 * phyTimeoutMsec : ℕ) : ℤ) : ℚ) = 12000 := by norm_num [phyTimeoutMsec]
  have hquot : (12000 : ℚ) / phyTimeoutMsec = 4 := by norm_num [phyTimeoutMsec]
  rw [timeoutN]
  push_cast at hmsec ⊢
  rw [hmsec, hin, hquot, hout]
  rfl

end LoraNetworking
