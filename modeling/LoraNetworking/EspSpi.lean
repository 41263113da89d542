import LoraNetworking.Agreement

/-! The platform callbacks of the examples (`examples/esp32c3_6/*/main/main.c`): register accesses as
transactions of the SPI master of ESP-IDF. -/

namespace LoraNetworking.Esp32

inductive EspErr
  | espOk
  | espErrNoMem
  | other (code : ℤ)
  deriving DecidableEq

/-- The fields of `spi_transaction_t` that the callbacks set. The length is in bits. -/
structure SpiTransaction where
  length : ℕ
  txBuffer : List UInt8
  receives : Bool
  csKeepActive : Bool
  deriving DecidableEq

/-- What the callbacks use of ESP-IDF. A block is known by its address. -/
structure EspIdf (ε : Type) where
  spiDeviceAcquireBus : StateM ε EspErr
  spiDeviceReleaseBus : StateM ε Unit
  spiDeviceTransmit : SpiTransaction → StateM ε (EspErr × List UInt8)
  heapCapsMalloc : ℕ → StateM ε (Option ℕ)
  free : ℕ → StateM ε Unit
  espTimerGetTime : StateM ε ℤ
  vTaskDelay : ℕ → StateM ε Unit
  pdMsToTicks : ℕ → ℕ

variable {ε : Type} (idf : EspIdf ε)

def cleanup (blocks : List (Option ℕ)) : StateM ε Unit := do
  match blocks with
  | [] => idf.spiDeviceReleaseBus
  | none :: blocks => cleanup blocks
  | some block :: blocks =>
    idf.free block
    cleanup blocks

def writeTransactions (addr : UInt8) (data : List UInt8) : StateM ε EspErr := do
  let (ret, _) ← idf.spiDeviceTransmit ⟨8, [addr ||| 0b10000000], false, true⟩
  if ret ≠ .espOk then return ret
  let (ret, _) ← idf.spiDeviceTransmit ⟨data.length * 8, data, false, false⟩
  return ret

def espSpiWrite (addr : UInt8) (data : List UInt8) : StateM ε EspErr := do
  let ret ← idf.spiDeviceAcquireBus
  if ret ≠ .espOk then return ret
  let dataDma ← idf.heapCapsMalloc data.length
  if dataDma = none then
    cleanup idf [none, dataDma]
    return .espErrNoMem
  -- the bus and the block are kept
  if data.length ≤ 0 then return .espOk
  let cmd ← idf.heapCapsMalloc 1
  if cmd = none then
    cleanup idf [cmd, dataDma]
    return .espErrNoMem
  let ret ← writeTransactions idf addr data
  cleanup idf [cmd, dataDma]
  return ret

/-- The two transactions of `esp_spi_read`, with what is stored in `data` and the block of `ret_data_dma`. -/
def readTransactions (addr : UInt8) (len : ℕ) : StateM ε (EspErr × List UInt8 × Option ℕ) := do
  let (ret, _) ← idf.spiDeviceTransmit ⟨8, [addr &&& 0b01111111], false, true⟩
  if ret ≠ .espOk then return (ret, [], none)
  let retDataDma ← idf.heapCapsMalloc len
  if retDataDma = none then return (.espErrNoMem, [], retDataDma)
  let (ret, received) ← idf.spiDeviceTransmit ⟨len * 8, List.replicate len 0, true, false⟩
  if ret ≠ .espOk then return (ret, [], retDataDma)
  return (ret, received.take len, retDataDma)

def espSpiRead (addr : UInt8) (len : ℕ) : StateM ε (EspErr × List UInt8) := do
  if len ≤ 0 then return (.espOk, [])
  let dummy ← idf.heapCapsMalloc len
  if dummy = none then
    cleanup idf [none, dummy, none]
    return (.espErrNoMem, [])
  let cmd ← idf.heapCapsMalloc 1
  if cmd = none then
    cleanup idf [none, dummy, cmd]
    return (.espErrNoMem, [])
  -- the result is not looked at
  let _ ← idf.spiDeviceAcquireBus
  let (ret, data, retDataDma) ← readTransactions idf addr len
  cleanup idf [retDataDma, dummy, cmd]
  return (ret, data)

def loraSpiWrite (reg : UInt8) (data : List UInt8) : StateM ε Sx127xErr := do
  let ret ← espSpiWrite idf reg data
  return if ret = .espOk then .sxOk else .sxInvalidState

def loraSpiRead (reg : UInt8) (len : ℕ) : StateM ε (Sx127xErr × List (Option UInt8)) := do
  let (ret, data) ← espSpiRead idf reg len
  return (if ret = .espOk then .sxOk else .sxInvalidState, data.map some)

def getTimeUs : StateM ε ℤ := idf.espTimerGetTime

def delayMs (ms : ℕ) : StateM ε Unit := idf.vTaskDelay (idf.pdMsToTicks ms)

def platform : Platform ε where
  spiPort := ⟨fun reg data => (loraSpiWrite idf reg data).run, fun reg len => (loraSpiRead idf reg len).run, true⟩
  timerCtx := ⟨(getTimeUs idf).run, fun ms e => ((delayMs idf ms).run e).2⟩

section Log

inductive EspCall
  | acquireBus (ret : EspErr)
  | releaseBus
  | transmit (t : SpiTransaction) (ret : EspErr)
  | malloc (size : ℕ) (block : Option ℕ)
  | free (block : ℕ)
  | getTime
  | delay (ticks : ℕ)
  deriving DecidableEq

variable {α : Type}

def noted (x : StateM ε α) (entry : α → EspCall) : StateM (ε × List EspCall) α := fun w =>
  (((x.run w.1).1, ((x.run w.1).2, w.2 ++ [entry (x.run w.1).1])) : α × (ε × List EspCall))

def EspIdf.logged : EspIdf (ε × List EspCall) where
  spiDeviceAcquireBus := noted idf.spiDeviceAcquireBus .acquireBus
  spiDeviceReleaseBus := noted idf.spiDeviceReleaseBus fun _ => .releaseBus
  spiDeviceTransmit t := noted (idf.spiDeviceTransmit t) fun out => .transmit t out.1
  heapCapsMalloc size := noted (idf.heapCapsMalloc size) (.malloc size)
  free block := noted (idf.free block) fun _ => .free block
  espTimerGetTime := noted idf.espTimerGetTime fun _ => .getTime
  vTaskDelay ticks := noted (idf.vTaskDelay ticks) fun _ => .delay ticks
  pdMsToTicks := idf.pdMsToTicks

structure Holding where
  bus : Bool
  blocks : List ℕ
  deriving DecidableEq

def idle : Holding := ⟨false, []⟩

/-- How calls may follow each other: transactions need the bus, only what is held is given back, and nobody
sleeps on the bus. -/
def EspCall.follow (s : Holding) : EspCall → Option Holding
  | acquireBus ret => if s.bus then none else some ⟨ret = .espOk, s.blocks⟩
  | releaseBus => if s.bus then some ⟨false, s.blocks⟩ else none
  | transmit _ _ => if s.bus then some s else none
  | malloc _ block => some ⟨s.bus, block.toList ++ s.blocks⟩
  | free block => if block ∈ s.blocks then some ⟨s.bus, s.blocks.erase block⟩ else none
  | getTime => some s
  | delay _ => if s.bus then none else some s

def follow (s : Holding) (calls : List EspCall) : Option Holding := calls.foldlM EspCall.follow s

end Log

end LoraNetworking.Esp32
