import LoraNetworking.Sx127xConfig

/-! Sending and reading payloads, and polling the interrupt flags (`sx127x_driver.c`). -/

namespace LoraNetworking

open StateProg

variable {ω : Type}

/-- What a call leaves in the caller's buffer (byte by byte, where it stored one) and in
`*len`, besides the return code. -/
structure PayloadRead where
  ret : Sx127xErr
  stored : List (Option UInt8)
  len : Option ℕ
  deriving DecidableEq

def sx1278ReadLastPayload : Radio ω PayloadRead := do
  let ret ← sx1278SwitchMode (modeLora ||| modeStdby)
  if ret ≠ .sxOk then return ⟨ret, [], none⟩
  let (ret, data) ← sx1278ReadIrq 0
  if ret ≠ .sxOk then return ⟨ret, [], none⟩
  let rxDoneMask : UInt8 := 0b01000000
  if data &&& rxDoneMask = 0 then
    let _ ← sx1278ClearIrq
    return ⟨.sxInvalidState, [], none⟩
  let rxCrcMask := rxDoneMask >>> 1
  if data &&& rxCrcMask ≠ 0 then
    let _ ← sx1278ClearIrq
    return ⟨.sxInvalidCrc, [], none⟩
  -- the next read overwrites the result of this one before anyone looks at it
  let (_, nPacketBytes) ← spiReadByte 0x13 0
  let (ret, currentFifoAddr) ← spiReadByte 0x10 0
  if ret ≠ .sxOk then
    let _ ← sx1278ClearIrq
    return ⟨ret, [], none⟩
  let ret ← spiBurstWriteReg 0x0D [currentFifoAddr]
  if ret ≠ .sxOk then
    let _ ← sx1278ClearIrq
    return ⟨ret, [], none⟩
  let (ret, stored) ← spiBurstReadReg 0x00 nPacketBytes.toNat
  if ret ≠ .sxOk then
    let _ ← sx1278ClearIrq
    return ⟨ret, stored, none⟩
  let _ ← sx1278ClearIrq
  return ⟨.sxOk, stored, some nPacketBytes.toNat⟩

def irqCleanup (cleanup : Bool) : Radio ω Unit := do
  if cleanup then
    let _ ← spiBurstWriteReg 0x12 [0xFF]

def pollForIrqFlagLoop (start timeoutUs : ℤ) (pollIntervalMs : ℕ) (irqAndMask : UInt8)
    (cleanup : Bool) : ℕ → UInt8 → Radio ω Sx127xErr
  -- `while (1)`, cut off after as many rounds as there is fuel
  | 0, _ => Prog.stop .running
  | fuel + 1, irq => do
    let (ret, irq) ← spiReadByte 0x12 irq
    if ret ≠ .sxOk then
      irqCleanup cleanup
      return ret
    if irq &&& irqAndMask ≠ 0 then
      irqCleanup cleanup
      return .sxOk
    let now ← sx127xTimerGetTimeUs
    if now - start > timeoutUs then
      irqCleanup cleanup
      return .sxTimeout
    sx127xTaskDelayMs pollIntervalMs
    pollForIrqFlagLoop start timeoutUs pollIntervalMs irqAndMask cleanup fuel irq

def pollForIrqFlag (fuel timeoutMs pollIntervalMs : ℕ) (irqAndMask : UInt8) (cleanup : Bool) :
    Radio ω Sx127xErr := do
  let timeoutMs := if timeoutMs = 0 then 3000 else timeoutMs
  let pollIntervalMs := if pollIntervalMs = 0 then 2 else pollIntervalMs
  let start ← sx127xTimerGetTimeUs
  let timeoutUs : ℤ := timeoutMs * 1000
  pollForIrqFlagLoop start timeoutUs pollIntervalMs irqAndMask cleanup fuel 0

def pollForIrqFlagNoTimeout (pollIntervalMs : ℕ) (irqAndMask : UInt8) (cleanup : Bool) :
    ℕ → UInt8 → Radio ω Sx127xErr
  | 0, _ => Prog.stop .running
  | fuel + 1, irq => do
    let (ret, irq) ← sx1278ReadIrq irq
    if ret ≠ .sxOk then
      irqCleanup cleanup
      return ret
    if irq &&& irqAndMask ≠ 0 then
      irqCleanup cleanup
      return .sxOk
    sx127xTaskDelayMs pollIntervalMs
    pollForIrqFlagNoTimeout pollIntervalMs irqAndMask cleanup fuel irq

def sx1278SendPayload (fuel : ℕ) (buf : List UInt8) (len : UInt8) (switchToRxAfterTx : Bool) :
    Radio ω Sx127xErr := do
  let ret ← sx1278SwitchMode (modeLora ||| modeStdby)
  if ret ≠ .sxOk then return ret
  let (ret, data) ← spiReadByte 0x0E 0
  if ret ≠ .sxOk then return ret
  let ret ← spiBurstWriteReg 0x0D [data]
  if ret ≠ .sxOk then return ret
  let ret ← spiBurstWriteReg 0x22 [len]
  if ret ≠ .sxOk then return ret
  let ret ← spiBurstWriteReg 0x00 (buf.take len.toNat)
  if ret ≠ .sxOk then return ret
  let ret ← sx1278ClearIrq
  if ret ≠ .sxOk then return ret
  let ret ← sx1278SwitchMode (modeLora ||| modeTx)
  if ret ≠ .sxOk then return ret
  let ret ← pollForIrqFlag fuel 3000 3 ((1 : UInt8) <<< 3) true
  if ret ≠ .sxOk then return ret
  let ret ← sx1278ClearIrq
  if ret ≠ .sxOk then return ret
  let ret ← sx1278SwitchMode (modeLora ||| (if switchToRxAfterTx then modeRxContinuous else modeSleep))
  if ret ≠ .sxOk then return ret
  return .sxOk

end LoraNetworking
