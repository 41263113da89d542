import LoraNetworking.Lib.Prog

/-! The platform under the driver (`spi_port.c`, `sx127x_timer.c`) and the globals of the
driver. The hardware is an arbitrary state `ω` behind the platform callbacks. -/

namespace LoraNetworking

open StateProg

inductive Sx127xErr
  | sxOk
  | sxTimeout
  | sxInvalidState
  | sxInvalidArgument
  | sxInvalidCrc
  | sxUnitUnitialized
  | sxInvalidResponse
  | sxNoMem
  deriving DecidableEq, Repr

/-- A reader answers with the bytes it put into the destination, position by position; a
failed or short transfer may leave any of them out. -/
structure SpiPort (ω : Type) where
  writer : UInt8 → List UInt8 → ω → Sx127xErr × ω
  reader : UInt8 → ℕ → ω → (Sx127xErr × List (Option UInt8)) × ω
  initialized : Bool

structure Sx127xTimerCtx (ω : Type) where
  -- microseconds are `int64_t` in the source, where an overflow is undefined
  timer : ω → ℤ × ω
  delayer : ℕ → ω → ω

/-- The globals `sx127x_spi_port` and `sx127x_timer_ctx`, the two shadows of the
configuration, and the hardware. -/
structure Machine (ω : Type) where
  world : ω
  sx127xSpiPort : SpiPort ω
  sx127xTimerCtx : Sx127xTimerCtx ω
  loraBandwidthHz : UInt32
  spreadingFactor : UInt8

abbrev Radio (ω α : Type) := Prog (Machine ω) α

variable {ω : Type}

def spiBurstWriteReg (reg : UInt8) (data : List UInt8) : Radio ω Sx127xErr :=
  Prog.step fun m =>
    if m.sx127xSpiPort.initialized = false then (.sxUnitUnitialized, m)
    else
      let out := m.sx127xSpiPort.writer reg data m.world
      (out.1, { m with world := out.2 })

def spiBurstReadReg (reg : UInt8) (len : ℕ) : Radio ω (Sx127xErr × List (Option UInt8)) :=
  Prog.step fun m =>
    if m.sx127xSpiPort.initialized = false then ((.sxUnitUnitialized, []), m)
    else
      let out := m.sx127xSpiPort.reader reg len m.world
      ((out.1.1, out.1.2.take len), { m with world := out.2 })

def spiReadByte (reg data : UInt8) : Radio ω (Sx127xErr × UInt8) := do
  let (ret, stored) ← spiBurstReadReg reg 1
  return (ret, (stored.head?.join).getD data)

def sx127xTimerGetTimeUs : Radio ω ℤ :=
  Prog.step fun m =>
    let out := m.sx127xTimerCtx.timer m.world
    (out.1, { m with world := out.2 })

def sx127xTaskDelayMs (delayMs : ℕ) : Radio ω Unit :=
  Prog.update fun m => { m with world := m.sx127xTimerCtx.delayer delayMs m.world }

end LoraNetworking
