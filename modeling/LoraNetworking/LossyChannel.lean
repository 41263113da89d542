import LoraNetworking.BurstCapacity
import LoraNetworking.Lib.StopAndWait
import LoraNetworking.Receiver

/-! A sender and one receiver over a lossy link: whatever the link does, the receiver hears
the packets of a burst in order, each again and again until the sender goes on or gives up. -/

namespace LoraNetworking

open StateProg StopAndWait Transducer

/-- What the link does to one transmission: whether the frame gets through, whether its ack
does, and the frame of somebody else that may reach the sender in place of the ack. -/
structure Attempt where
  frameReceived : Bool
  ackReceived : Bool
  other : Option (List UInt8)

def Attempt.through (a : Attempt) : Bool := a.frameReceived && a.ackReceived

/-- The link as the sender sees it. `pending` is what its radio has received since the last
transmission, `memory` what lies behind its receive buffer. -/
structure Channel where
  attempts : ℕ → Attempt
  tick : ℕ
  receiver : Receiver
  pending : Option (List UInt8)
  memory : ℕ → UInt8

def deliver (frame : List UInt8) (frameReceived : Bool) : Prog Channel (List (List UInt8)) :=
  if frameReceived then
    (hear frame).zoom Channel.receiver fun receiver c => { c with receiver := receiver }
  else pure []

def transmit (frame : List UInt8) : Prog Channel Unit := do
  let c ← Prog.read
  let attempt := c.attempts c.tick
  let acks ← deliver frame attempt.frameReceived
  -- what strays to the sender in place of the ack is not the ack of this frame
  let pending :=
    if attempt.ackReceived ∧ acks ≠ [] then acks.head?
    else attempt.other.filter fun f =>
      decodeFrame c.memory f ≠ ackFor (decodeFrame c.memory frame)
  Prog.update fun c => { c with tick := c.tick + 1, pending := pending }

def channel : Medium Channel where
  transmit := transmit
  listen := id
  received := Channel.pending
  take c := { c with pending := none }
  memory := Channel.memory

def Channel.sent (c : Channel) (p : Packet) (r : Receiver) : Channel where
  attempts := c.attempts
  tick := c.tick + 1
  receiver := r
  pending :=
    if (c.attempts c.tick).through then some (encode (ackFor p))
    else (c.attempts c.tick).other.filter fun f => decodeFrame c.memory f ≠ ackFor p
  memory := c.memory

lemma deliver_encode {p : Packet} (hmax : p.payloadLength.toNat ≤ payloadLengthMax) (c : Channel)
    (frameReceived : Bool) :
    ∃ r, Heard (List.replicate frameReceived.toNat p) c.receiver r ∧
      deliver (encode p) frameReceived c =
        .ok (List.replicate frameReceived.toNat (encode (ackFor p)), { c with receiver := r }) := by
  cases frameReceived with
  | false => exact ⟨c.receiver, .refl _, rfl⟩
  | true =>
    obtain ⟨r, hr, hheard⟩ := hear_encode hmax c.receiver
    refine ⟨r, hheard, ?_⟩
    rw [deliver, if_pos rfl, Prog.zoom_ok]
    exact ⟨r, hr, rfl⟩

lemma transmit_encode {p : Packet} (hmax : p.payloadLength.toNat ≤ payloadLengthMax) (c : Channel) :
    ∃ r, Heard (List.replicate (c.attempts c.tick).frameReceived.toNat p) c.receiver r ∧
      transmit (encode p) c = .ok ((), c.sent p r) := by
  obtain ⟨r, hheard, hr⟩ := deliver_encode hmax c (c.attempts c.tick).frameReceived
  refine ⟨r, hheard, ?_⟩
  simp only [transmit, Prog.bind_apply, Prog.read_apply, hr, Prog.update_apply,
    decodeFrame_encode hmax, Channel.sent]
  cases hf : (c.attempts c.tick).frameReceived with
  | false => simp [Attempt.through, hf]
  | true => simp [Attempt.through, hf]

lemma attempted_channel {p : Packet} {c c' : Channel} {frame : Option (List UInt8)}
    (hmax : p.payloadLength.toNat ≤ payloadLengthMax) (h : channel.Attempted p c frame c') :
    ∃ k, Heard (List.replicate k p) c.receiver c'.receiver ∧
      ∀ f, frame = some f → decodeFrame (channel.memory c') f = ackFor p → 1 ≤ k := by
  obtain ⟨s, hs, rfl, rfl⟩ := h
  obtain ⟨r, hheard, hr⟩ := transmit_encode hmax c
  obtain rfl : c.sent p r = s := by
    rw [show channel.transmit (encode p) c = transmit (encode p) c from rfl, hr] at hs
    simpa using hs
  refine ⟨(c.attempts c.tick).frameReceived.toNat, ?_, ?_⟩
  · cases hp : channel.received (channel.listen (c.sent p r)) with
    | none => exact hheard
    | some f => exact hheard
  · intro f hf hack
    cases hreceived : (c.attempts c.tick).frameReceived with
    | true => exact le_refl 1
    | false =>
      -- nothing but a frame of somebody else can be pending, and that is not the ack
      have hfalse : (c.attempts c.tick).through = false := by simp [Attempt.through, hreceived]
      have hother : (c.sent p r).pending = some f := hf
      simp only [Channel.sent, hfalse, Bool.false_eq_true, if_false] at hother
      have hne := (Option.filter_eq_some_iff.mp hother).2
      rw [hf] at hack
      exact absurd hack (by simpa [channel, Channel.sent] using hne)

lemma sendPacketEnsureAck_channel {p : Packet} {timeout : ℤ} {n n' : Node Channel} {ret : Sx127xErr}
    (hbuf : n.rxBuffer = zeroBuffer)
    (h : sendPacketEnsureAck channel.driver p timeout (checkPacketType (ackFor p)) n = .ok (ret, n')) :
    n'.rxBuffer = zeroBuffer ∧ (ret = .sxOk ∨ ret = .sxTimeout) ∧
      ∃ k, Heard (List.replicate k p) n.radio.receiver n'.radio.receiver ∧ (ret = .sxOk → 1 ≤ k) := by
  let Inv (_ : ℕ) (c : Channel) : Prop := ∃ k, Heard (List.replicate k p) n.radio.receiver c.receiver
  let Acked (c : Channel) : Prop := ∃ k, Heard (List.replicate k p) n.radio.receiver c.receiver ∧ 1 ≤ k
  have hstep : ∀ left c frame c', Inv (left + 1) c → p.payloadLength.toNat ≤ payloadLengthMax →
      channel.Attempted p c frame c' → Inv left c' ∧
        ∀ f, frame = some f → decodeFrame (channel.memory c') f = ackFor p → Acked c' := by
    rintro left c frame c' ⟨i, hi⟩ hmax hattempt
    obtain ⟨j, hj, hone⟩ := attempted_channel hmax hattempt
    have hall : Heard (List.replicate (i + j) p) n.radio.receiver c'.receiver := by
      rw [← List.replicate_append_replicate]
      exact hi.trans hj
    exact ⟨⟨_, hall⟩, fun f hf hack => ⟨_, hall, (hone f hf hack).trans (Nat.le_add_left j i)⟩⟩
  rw [Medium.sendPacketEnsureAck_eq] at h
  obtain ⟨hbuf', ⟨-, k, hk⟩, hret⟩ := Medium.sendAttempts_invariant Inv Acked hstep ⟨0, .refl _⟩ hbuf h
  rcases hret with ⟨rfl, k, hk, hone⟩ | rfl
  · exact ⟨hbuf', Or.inl rfl, k, hk, fun _ => hone⟩
  · exact ⟨hbuf', Or.inr rfl, k, hk, by simp⟩

lemma sendBurstFrom_channel {len i : ℕ} {ps : List Packet} {n n' : Node Channel} {ret : Sx127xErr}
    (htypes : ∀ j p, ps[j]? = some p → checkPacketType (ackFor p) = burstAckType len (i + j))
    (hbuf : n.rxBuffer = zeroBuffer)
    (h : sendBurstFrom channel.driver len i (ps.map some) n = .ok (ret, n')) :
    n'.rxBuffer = zeroBuffer ∧ (ret = .sxOk ∨ ret = .sxTimeout) ∧
      ∃ hs, Heard hs n.radio.receiver n'.radio.receiver ∧ Interrupted ps hs ∧
        (ret = .sxOk → Stuttered ps hs) := by
  induction ps generalizing i n with
  | nil =>
    obtain ⟨rfl, rfl⟩ : Sx127xErr.sxOk = ret ∧ n = n' := by simpa [sendBurstFrom] using h
    exact ⟨hbuf, Or.inl rfl, [], .refl _, Stuttered.nil.interrupted, fun _ => .nil⟩
  | cons p ps ih =>
    have htype : checkPacketType (ackFor p) = burstAckType len i := htypes 0 p rfl
    rw [List.map_cons, sendBurstFrom, ← htype] at h
    obtain ⟨e, n₁, hsend, h⟩ := Prog.bind_ok.mp h
    obtain ⟨hbuf₁, he, k, hk, hone⟩ := sendPacketEnsureAck_channel hbuf hsend
    split_ifs at h with hok
    · obtain ⟨rfl, rfl⟩ : e = ret ∧ n₁ = n' := by simpa using h
      exact ⟨hbuf₁, he, _, hk, interrupted_replicate p ps k, fun hret => absurd hret hok⟩
    · obtain ⟨k, rfl⟩ : ∃ j, k = j + 1 := ⟨k - 1, by have := hone (not_not.mp hok); omega⟩
      obtain ⟨hbuf', hret, hs, hheard, hinter, hall⟩ := ih (fun j q hq => by
        rw [htypes (j + 1) q hq, Nat.add_right_comm, Nat.add_assoc]) hbuf₁ h
      exact ⟨hbuf', hret, _, hk.trans hheard, hinter.cons p k, fun he => .cons k (hall he)⟩

end LoraNetworking
