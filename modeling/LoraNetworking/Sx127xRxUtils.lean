import LoraNetworking.RxPacketHandler
import LoraNetworking.Sx127xUtils

/-! The receive loop (`start_rx_loop`, `sx127x_rx_utils.c`). -/

namespace LoraNetworking

open StateProg

/-- How one round of the loop ended: at the `cleanup` label, with `continue`, or with the
packet in the hands of the handler. -/
inductive RxRound
  | leave (ret : Sx127xErr)
  | skip (ret : Sx127xErr)
  | handled (rxP : Packet) (outcome : RxOutcome)
  deriving DecidableEq

variable {σ : Type} (d : Driver σ)

def rxRound (handler : RxHandlerCtx) : Prog (Node σ) (RxRound × RxHandlerCtx) := do
  let ret ← onRadio d.clearIrq
  if ret ≠ .sxOk then return (.leave ret, handler)
  let ret ← onRadio (d.switchMode (modeLora ||| modeRxContinuous))
  if ret ≠ .sxOk then return (.leave ret, handler)
  let ret ← onRadio (d.pollForIrqFlagNoTimeout 1 ((1 : UInt8) <<< 6) false)
  if ret ≠ .sxOk then return (.skip ret, handler)
  let (ret, rxP) ← readLastPacket d
  if ret ≠ .sxOk then return (.skip ret, handler)
  match ackPacket rxP.srcAddress rxP.destAddress rxP.ackId rxP.sequenceNumber with
  | none => Prog.stop .undefined
  | some ack =>
    let ret ← sx1278SendPacket d ack false
    if ret ≠ .sxOk then return (.leave ret, handler)
    let (outcome, handler) := rxPacketHandler handler (some rxP)
    return (.handled rxP outcome, handler)

def rxRounds : ℕ → RxHandlerCtx → Prog (Node σ) (List RxRound × RxHandlerCtx)
  | 0, handler => return ([], handler)
  | rounds + 1, handler => do
    let (round, handler) ← rxRound d handler
    match round with
    | .leave ret => return ([.leave ret], handler)
    | round =>
      let (rest, handler) ← rxRounds rounds handler
      return (round :: rest, handler)

def startRxLoop (rounds : ℕ) (handler : RxHandlerCtx) : Prog (Node σ) (List RxRound × RxHandlerCtx) := do
  let ret ← onRadio (d.switchMode (modeLora ||| modeRxContinuous))
  if ret ≠ .sxOk then return ([.leave ret], handler)
  rxRounds d rounds handler

end LoraNetworking
