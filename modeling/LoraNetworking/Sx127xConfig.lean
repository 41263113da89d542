import LoraNetworking.SpiPort

/-! Configuration of the radio (`sx127x_config.c`). -/

namespace LoraNetworking

open StateProg

def fxosc : ℕ := 32000000

def loraFrequencyLf : ℕ := 863000000
def loraFrequencyHf : ℕ := 865000000

def modeLora : UInt8 := (1 : UInt8) <<< 7
def modeSleep : UInt8 := 0b000
def modeStdby : UInt8 := 0b001
def modeTx : UInt8 := 0b011
def modeRxSingle : UInt8 := 0b110
def modeRxContinuous : UInt8 := 0b101
def modeFskReceiver : UInt8 := 0b101 &&& 0xFF

inductive Bandwidths
  | b62k5
  | b125k
  | b250k
  | b500k
  deriving DecidableEq, Repr

def Bandwidths.code : Bandwidths → UInt8
  | .b62k5 => (0b11 : UInt8) <<< 1
  | .b125k => 0b111
  | .b250k => (0b1 : UInt8) <<< 3
  | .b500k => 0b1001

inductive CodingRate
  | cr4d5
  | cr4d6
  | cr4d7
  | cr4d8
  deriving DecidableEq, Repr

def CodingRate.code : CodingRate → UInt8
  | .cr4d5 => 0b1
  | .cr4d6 => 0b10
  | .cr4d7 => 0b11
  | .cr4d8 => (0b1 : UInt8) <<< 2

def getBwValue : Bandwidths → UInt32
  | .b62k5 => 62500
  | .b125k => 125000
  | .b250k => 250000
  | .b500k => 500000

variable {ω : Type}

def sx1278ReadIrq (data : UInt8) : Radio ω (Sx127xErr × UInt8) := spiReadByte 0x12 data

def sx1278ClearIrq : Radio ω Sx127xErr := spiBurstWriteReg 0x12 [0xFF]

def calculateChannelNum (loraBandwidthHz : UInt32) : ℕ :=
  -- the bounds are `int`, so the whole quotient is computed in `uint32_t`
  ((UInt32.ofNat loraFrequencyHf - UInt32.ofNat loraFrequencyLf - 2 * loraBandwidthHz) /
    loraBandwidthHz).toNat

def sx1278SwitchMode (modeRegister : UInt8) : Radio ω Sx127xErr := spiBurstWriteReg 0x01 [modeRegister]

def sx1278GetOpMode (data : UInt8) : Radio ω (Sx127xErr × UInt8) := spiReadByte 0x01 data

def channelFrf (loraBandwidthHz : UInt32) (n : ℕ) : ℕ :=
  -- `size_t` has 64 bits
  let rawFreq :=
    (loraFrequencyLf + n * loraBandwidthHz.toNat + loraBandwidthHz.toNat / 2) % 2 ^ 64
  (rawFreq <<< 19) % 2 ^ 64 / fxosc % 2 ^ 32

def sx1278SwitchToNthChannel (n : ℕ) : Radio ω Sx127xErr := do
  let m ← Prog.read
  if n ≥ calculateChannelNum m.loraBandwidthHz then return .sxInvalidArgument
  let frf := channelFrf m.loraBandwidthHz n
  let ret ← spiBurstWriteReg 0x06 [UInt8.ofNat (frf >>> 16)]
  if ret ≠ .sxOk then return ret
  let ret ← spiBurstWriteReg 0x07 [UInt8.ofNat (frf >>> 8)]
  if ret ≠ .sxOk then return ret
  spiBurstWriteReg 0x08 [UInt8.ofNat frf]

def sx1278SetSpreadingFactor (sf : UInt8) : Radio ω Sx127xErr := do
  let ret ← sx1278SwitchMode (modeLora ||| modeStdby)
  if ret ≠ .sxOk then return ret
  if sf < 6 ∨ sf > 12 then return .sxInvalidArgument
  let ret ← spiBurstWriteReg 0x1E [(0b00000100 : UInt8) ||| sf <<< 4]
  if ret = .sxOk then
    Prog.update fun m => { m with spreadingFactor := sf }
  sx1278SwitchMode (modeLora ||| modeSleep)

def modemConfig (bw : Bandwidths) (cr : CodingRate) (enableExplicitHeaders : Bool) : UInt8 :=
  let data := bw.code <<< 4 ||| cr.code <<< 1
  if enableExplicitHeaders = false then data ||| 0x01 else data &&& ~~~0x01

def sx1278SetBandwidth (bw : Bandwidths) (cr : CodingRate) (enableExplicitHeaders : Bool) :
    Radio ω Sx127xErr := do
  let ret ← sx1278SwitchMode (modeLora ||| modeStdby)
  if ret ≠ .sxOk then return ret
  let ret ← spiBurstWriteReg 0x1D [modemConfig bw cr enableExplicitHeaders]
  if ret = .sxOk then
    Prog.update fun m => { m with loraBandwidthHz := getBwValue bw }
    let ret ← sx1278SwitchToNthChannel 0
    if ret ≠ .sxOk then return ret
  sx1278SwitchMode (modeLora ||| modeSleep)

def initializeSx1278 (spi : SpiPort ω) (timer : Sx127xTimerCtx ω) : Radio ω Sx127xErr := do
  Prog.update fun m => { m with sx127xSpiPort := spi, sx127xTimerCtx := timer }
  let (ret, data) ← spiReadByte 0x42 0
  if ret ≠ .sxOk then return ret
  if data ≠ 0x12 then return .sxInvalidResponse
  let ret ← sx1278SwitchMode (modeLora ||| modeSleep)
  if ret ≠ .sxOk then return ret
  let ret ← spiBurstWriteReg 0x0D [0x00]
  if ret ≠ .sxOk then return ret
  let ret ← spiBurstWriteReg 0x0F [0x00]
  if ret ≠ .sxOk then return ret
  let ret ← spiBurstWriteReg 0x0E [0x00]
  if ret ≠ .sxOk then return ret
  let ret ← sx1278SwitchMode (modeLora ||| modeStdby)
  if ret ≠ .sxOk then return ret
  let ret ← sx1278SwitchToNthChannel 0
  if ret ≠ .sxOk then return ret
  let ret ← spiBurstWriteReg 0x09 [0b11111100]
  if ret ≠ .sxOk then return ret
  let ret ← spiBurstWriteReg 0x2B [0b00101011]
  if ret ≠ .sxOk then return ret
  let ret ← spiBurstWriteReg 0x4D [0x84]
  if ret ≠ .sxOk then return ret
  let ret ← spiBurstWriteReg 0x1D [0b01110010]
  if ret ≠ .sxOk then return ret
  let m ← Prog.read
  let ret ← sx1278SetSpreadingFactor m.spreadingFactor
  if ret ≠ .sxOk then return ret
  let ret ← spiBurstWriteReg 0x1F [0xFF]
  if ret ≠ .sxOk then return ret
  let ret ← spiBurstWriteReg 0x20 [0x00]
  if ret ≠ .sxOk then return ret
  let ret ← spiBurstWriteReg 0x21 [0x18]
  if ret ≠ .sxOk then return ret
  spiBurstWriteReg 0x39 [0b11010011]

end LoraNetworking
