import LoraNetworking.Sx127xUtils

/-! The ping pong example (`examples/esp32c3_6/pingpong/main/main.c`). -/

namespace LoraNetworking.PingPong

open StateProg

def pingStr : List UInt8 := [112, 105, 110, 103]

def pongStr : List UInt8 := [112, 111, 110, 103]

inductive Failure
  | rxMode
  | sending
  | timedOut
  | reading
  | unexpectedPayload
  deriving DecidableEq

abbrev Buf := Vector UInt8 64

variable {ω : Type} (fuel : ℕ)

def holds (text : List UInt8) (buf : Buf) (len : Option ℕ) : Prop :=
  len = some text.length ∧ buf.toList.take text.length = text

instance (text : List UInt8) (buf : Buf) (len : Option ℕ) : Decidable (holds text buf len) :=
  inferInstanceAs (Decidable (_ ∧ _))

def await (timeoutMs : ℕ) (text : List UInt8) (buf : Buf) : Radio ω (Option Failure × Buf) := do
  let ret ← pollForIrqFlag fuel timeoutMs 3 ((1 : UInt8) <<< 6) false
  if ret ≠ .sxOk then return (some .timedOut, buf)
  let payload ← sx1278ReadLastPayload
  -- the read does not know how long `buf` is
  if 64 < payload.stored.length then Prog.stop .undefined
  else
    let buf : Buf := Vector.ofFn fun i => ((payload.stored[i]?).join).getD buf[i]
    if payload.ret ≠ .sxOk then return (some .reading, buf)
    if ¬ holds text buf payload.len then return (some .unexpectedPayload, buf)
    return (none, buf)

/-- The loop of `run_sender`. Without a failure it goes on to print "test passed". -/
def senderRounds : ℕ → Buf → Radio ω (Option Failure)
  | 0, _ => return none
  | rounds + 1, buf => do
    let ret ← sx1278SendPayload fuel pingStr (UInt8.ofNat pingStr.length) true
    if ret ≠ .sxOk then return some .sending
    let (failure, buf) ← await fuel phyTimeoutMsec pongStr buf
    if failure ≠ none then return failure
    senderRounds rounds buf

def receiverRounds : ℕ → Buf → Radio ω (Option Failure)
  | 0, _ => return none
  | rounds + 1, buf => do
    let (failure, buf) ← await fuel (phyTimeoutMsec * 10) pingStr buf
    if failure ≠ none then return failure
    let ret ← sx1278SendPayload fuel pongStr (UInt8.ofNat pongStr.length) true
    if ret ≠ .sxOk then return some .sending
    receiverRounds rounds buf

def runReceiver (rounds : ℕ) (buf : Buf) : Radio ω (Option Failure) := do
  let ret ← sx1278SwitchMode (modeLora ||| modeRxContinuous)
  if ret ≠ .sxOk then return some .rxMode
  receiverRounds fuel rounds buf

end LoraNetworking.PingPong
