import LoraNetworking.NetworkDataOperations
import LoraNetworking.Sx127xRxUtils

/-! The burst example (`examples/esp32c3_6/burst/main/main.c`). -/

namespace LoraNetworking.BurstExample

open StateProg

def senderAddr : UInt16 := 0x0001

def receiverAddr : UInt16 := 0x0002

def ackId : UInt8 := 0x01

inductive SenderReport
  | outOfMemory
  | buildFailed
  | sendFailed
  | burstSent
  deriving DecidableEq

variable {σ : Type}

def senderTask (d : Driver σ) (pBufOk mallocOk reallocOk : Bool) (burstData : List UInt8) :
    Prog (Node σ) SenderReport := do
  if pBufOk = false then return .outOfMemory
  let (ret, pBuf) := dataToPacketArray mallocOk reallocOk burstData receiverAddr senderAddr ackId true
  if ret ≠ 0 then return .buildFailed
  let ret ← sendBurst d pBuf
  if ret ≠ .sxOk then return .sendFailed
  return .burstSent

section Receiver

variable (d : Driver σ)

/-- A round of the loop once the radio listens: `continue` after a failure, or a packet in the hands of the handler.
Nobody looks at the result of the ack. -/
def rxTaskBody (handler : RxHandlerCtx) : Prog (Node σ) (RxRound × RxHandlerCtx) := do
  let ret ← onRadio (d.pollForIrqFlagNoTimeout 1 ((1 : UInt8) <<< 6) false)
  if ret ≠ .sxOk then return (.skip ret, handler)
  let (ret, rxP) ← readLastPacket d
  if ret ≠ .sxOk then return (.skip ret, handler)
  match ackPacket rxP.srcAddress rxP.destAddress rxP.ackId rxP.sequenceNumber with
  | none => Prog.stop .undefined
  | some ack =>
    let _ ← sx1278SendPacket d ack false
    let (outcome, handler) := rxPacketHandler handler (some rxP)
    return (.handled rxP outcome, handler)

def rxTaskRound (handler : RxHandlerCtx) : Prog (Node σ) (RxRound × RxHandlerCtx) := do
  let _ ← onRadio d.clearIrq
  let _ ← onRadio (d.switchMode (modeLora ||| modeRxContinuous))
  rxTaskBody d handler

def Final : RxRound → Prop
  | .handled _ outcome => outcome.ret = .captureEnd
  | _ => False

instance : DecidablePred Final
  | .leave _ => .isFalse id
  | .skip _ => .isFalse id
  | .handled _ outcome => inferInstanceAs (Decidable (outcome.ret = .captureEnd))

def rxTaskRounds : ℕ → RxHandlerCtx → Prog (Node σ) (List RxRound × RxHandlerCtx)
  | 0, handler => return ([], handler)
  | rounds + 1, handler => do
    let (round, handler) ← rxTaskRound d handler
    if Final round then return ([round], handler)
    let (rest, handler) ← rxTaskRounds rounds handler
    return (round :: rest, handler)

/-- The loop is cut off after `rounds` rounds. -/
def rxTask (rounds : ℕ) (handler : RxHandlerCtx) : Prog (Node σ) (List RxRound × RxHandlerCtx) := do
  let _ ← onRadio (d.switchMode (modeLora ||| modeRxContinuous))
  rxTaskRounds d rounds handler

def totalLen : List (Option Packet) → Except Stop ℕ
  | [] => .ok 0
  | none :: _ => .error .undefined
  | some p :: pArr => do
    let rest ← totalLen pArr
    return p.payloadLength.toNat + rest

def onBurstComplete (mallocOk : Bool) (pArr : List (Option Packet)) : Except Stop (Option (List UInt8)) := do
  let totalLen ← totalLen pArr
  if mallocOk = false then return none
  let data ← packetArrayToData pArr
  -- `%s` ends at the first zero
  return some ((data.take totalLen ++ [0]).takeWhile (· ≠ 0))

end Receiver

lemma totalLen_map (ps : List Packet) : totalLen (ps.map some) = .ok (ps.flatMap Packet.payload).length := by
  induction ps with
  | nil => rfl
  | cons p ps ih =>
    rw [List.map_cons, totalLen, ih, List.flatMap_cons, List.length_append, p.payload_length_eq]
    rfl

lemma onBurstComplete_dataPackets {text : List UInt8} (hstring : 0 ∉ text) (mallocOk : Bool) (destAddr srcAddr : UInt16)
    (ackId : UInt8) (seqOffset : ℕ) :
    onBurstComplete mallocOk ((dataPackets text destAddr srcAddr ackId seqOffset).map some) =
      .ok (if mallocOk then some text else none) := by
  have hdata := packetArrayToData_dataPackets text destAddr srcAddr ackId seqOffset
  have hpayload := hdata
  rw [packetArrayToData_map _ fun p hp => dataPackets_mem hp] at hpayload
  rw [onBurstComplete, totalLen_map, Except.ok.inj hpayload, hdata]
  cases mallocOk with
  | false => rfl
  | true =>
    have htext : (text ++ [0]).takeWhile (· ≠ 0) = text := by
      rw [List.takeWhile_append_of_pos]
      · simp
      · intro c hc
        simpa using fun hzero : c = 0 => hstring (hzero ▸ hc)
    change Except.ok (some ((text.take text.length ++ [0]).takeWhile (· ≠ 0))) = _
    rw [List.take_length, htext]
    rfl

end LoraNetworking.BurstExample
