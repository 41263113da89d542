import LoraNetworking.BurstReception
import LoraNetworking.LinkProgress

/-! Bursts over the lossy link: every burst that `send_burst` reports as sent has been
delivered, once and completely, and in the order of the calls. -/

namespace LoraNetworking

open StateProg StopAndWait Transducer

structure Burst where
  data : List UInt8
  ackId : UInt8
  nonempty : data ≠ []
  fits : data.length ≤ maxBurstBytes
  named : ackId ≠ 0

def Burst.send (hostAddr remoteSrcAddr : UInt16) (b : Burst) : Prog (Node Channel) Sx127xErr :=
  sendBurst channel.driver (dataToPacketArray true true b.data hostAddr remoteSrcAddr b.ackId true).2

def Calls (hostAddr remoteSrcAddr : UInt16) :
    Node Channel → List (Burst × Sx127xErr) → Node Channel → Prop
  | n, [], n' => n' = n
  | n, call :: calls, n' =>
    ∃ m, call.1.send hostAddr remoteSrcAddr n = .ok (call.2, m) ∧ Calls hostAddr remoteSrcAddr m calls n'

def Sent (hostAddr remoteSrcAddr : UInt16) (n : Node Channel) (bs : List Burst) (n' : Node Channel) :
    Prop :=
  Calls hostAddr remoteSrcAddr n (bs.map fun b => (b, .sxOk)) n'

/-- A sender that has received nothing, and a receiver right after `rx_handler_init`. -/
structure SystemStart (hostAddr remoteSrcAddr : UInt16) (n : Node Channel) : Prop where
  buffer : n.rxBuffer = zeroBuffer
  handler : n.radio.receiver.handler = rxHandlerInit hostAddr remoteSrcAddr
  callbacks : n.radio.receiver.callbacks = []

def deliveries (cs : List Callback) : List (Except Stop (List UInt8)) :=
  (endings cs).map fun e => packetArrayToData e.1

lemma deliveries_append (cs ds : List Callback) :
    deliveries (cs ++ ds) = deliveries cs ++ deliveries ds := by
  simp [deliveries]

structure Ready (hostAddr remoteSrcAddr : UInt16) (n : Node Channel) : Prop where
  buffer : n.rxBuffer = zeroBuffer
  idle : Idle hostAddr remoteSrcAddr n.radio.receiver.handler

section Sending

variable {hostAddr remoteSrcAddr : UInt16} {n n' : Node Channel} {b : Burst} {ret : Sx127xErr}

lemma SystemStart.ready (h : SystemStart hostAddr remoteSrcAddr n) : Ready hostAddr remoteSrcAddr n := by
  refine ⟨h.buffer, ?_⟩
  rw [h.handler]
  exact ⟨rfl, rfl, rfl, rfl, Or.inl rfl⟩

lemma Burst.ackTypes (b : Burst) (hostAddr remoteSrcAddr : UInt16) (j : ℕ) (p : Packet)
    (hp : (framedBurst b.data hostAddr remoteSrcAddr b.ackId)[j]? = some p) :
    checkPacketType (ackFor p) =
      burstAckType ((framedBurst b.data hostAddr remoteSrcAddr b.ackId).map some).length (0 + j) := by
  have hagree : AckTypesAgree ((framedBurst b.data hostAddr remoteSrcAddr b.ackId).map some) :=
    ackTypesAgree_framedBurst b.fits
  have hj := (List.getElem?_eq_some_iff.mp hp).1
  obtain ⟨q, ack, hq, hack, htype⟩ := hagree j (by rwa [List.length_map])
  obtain rfl : p = q := by simpa [hp] using hq
  rw [ackPacket_eq, Option.some_inj] at hack
  subst hack
  rw [Nat.zero_add]
  exact htype

lemma send_heard (hbuf : n.rxBuffer = zeroBuffer)
    (h : b.send hostAddr remoteSrcAddr n = .ok (ret, n')) :
    n'.rxBuffer = zeroBuffer ∧ (ret = .sxOk ∨ ret = .sxTimeout) ∧
      ∃ heard, Heard heard n.radio.receiver n'.radio.receiver ∧
        Interrupted (framedBurst b.data hostAddr remoteSrcAddr b.ackId) heard ∧
        (ret = .sxOk → Stuttered (framedBurst b.data hostAddr remoteSrcAddr b.ackId) heard) := by
  rw [Burst.send, dataToPacketArray_ok, sendBurst] at h
  exact sendBurstFrom_channel (b.ackTypes hostAddr remoteSrcAddr) hbuf h

lemma send_outcome (b : Burst) (hostAddr remoteSrcAddr : UInt16) (ret : Sx127xErr) (tick : ℕ)
    (hbuf : n.rxBuffer = zeroBuffer) (hother : n.radio.Printable)
    (hout : burstTries n.radio.attempts (npackets b.data.length + 2) n.radio.tick = (ret, tick)) :
    ∃ n', b.send hostAddr remoteSrcAddr n = .ok (ret, n') ∧ Reaches n tick n' := by
  rw [← framedBurst_length b.data hostAddr remoteSrcAddr b.ackId] at hout
  obtain ⟨n', hsend, hreach⟩ := sendBurstFrom_total (fun p hp => framedBurst_mem hp)
    (b.ackTypes hostAddr remoteSrcAddr) hbuf hother
  rw [hout] at hsend hreach
  refine ⟨n', ?_, hreach⟩
  rw [Burst.send, dataToPacketArray_ok]
  exact hsend

lemma send_ok (hready : Ready hostAddr remoteSrcAddr n)
    (h : b.send hostAddr remoteSrcAddr n = .ok (.sxOk, n')) :
    Ready hostAddr remoteSrcAddr n' ∧
      ∃ cs, n'.radio.receiver.callbacks = n.radio.receiver.callbacks ++ cs ∧
        deliveries cs = [.ok b.data] ∧ commands cs = [] := by
  obtain ⟨hbuf, -, heard, hheard, -, hall⟩ := send_heard hready.buffer h
  obtain ⟨he, hc, hidle⟩ := hready.idle.whole b.named b.fits (hall rfl)
  rw [← hheard.handler] at hidle
  refine ⟨⟨hbuf, hidle⟩, _, hheard.callbacks, ?_, hc⟩
  rw [deliveries, he]
  simp [packetArrayToData_dataPackets]

lemma send_failed (hready : Ready hostAddr remoteSrcAddr n) (hret : ret ≠ .sxOk)
    (h : b.send hostAddr remoteSrcAddr n = .ok (ret, n')) :
    ret = .sxTimeout ∧
      ∃ cs, n'.radio.receiver.callbacks = n.radio.receiver.callbacks ++ cs ∧
        (deliveries cs = [] ∨ deliveries cs = [.ok b.data]) ∧ commands cs = [] := by
  obtain ⟨-, hor, heard, hheard, hinter, -⟩ := send_heard hready.buffer h
  refine ⟨hor.resolve_left hret, _, hheard.callbacks, ?_⟩
  rcases hready.idle.interrupted b.named b.fits hinter with rfl | ⟨hnone, -⟩ | hall
  · exact ⟨Or.inl rfl, rfl⟩
  · rw [hnone]
    exact ⟨Or.inl rfl, rfl⟩
  · obtain ⟨he, hc, -⟩ := hready.idle.whole b.named b.fits hall
    refine ⟨Or.inr ?_, hc⟩
    rw [deliveries, he]
    simp [packetArrayToData_dataPackets]

lemma sent_ready {bs : List Burst} (hready : Ready hostAddr remoteSrcAddr n)
    (h : Sent hostAddr remoteSrcAddr n bs n') :
    Ready hostAddr remoteSrcAddr n' ∧
      ∃ cs, n'.radio.receiver.callbacks = n.radio.receiver.callbacks ++ cs ∧
        deliveries cs = bs.map (fun b => .ok b.data) ∧ commands cs = [] := by
  induction bs generalizing n with
  | nil =>
    obtain rfl : n' = n := h
    exact ⟨hready, [], by simp, rfl, rfl⟩
  | cons b bs ih =>
    obtain ⟨m, hb, hrest⟩ := h
    obtain ⟨hm, cs, hcs, hd, hc⟩ := send_ok hready hb
    obtain ⟨hready', ds, hds, hd', hc'⟩ := ih hm hrest
    refine ⟨hready', cs ++ ds, by rw [hds, hcs, List.append_assoc], ?_, ?_⟩
    · rw [deliveries_append, hd, hd']
      rfl
    · rw [commands_append, hc, hc']
      rfl

lemma sent_lively (bs : List Burst) (hbuf : n.rxBuffer = zeroBuffer) (hother : n.radio.Printable)
    (hlively : Lively n.radio.attempts) : ∃ n', Sent hostAddr remoteSrcAddr n bs n' := by
  induction bs generalizing n with
  | nil => exact ⟨n, rfl⟩
  | cons b bs ih =>
    obtain ⟨m, hsend, hreach⟩ := send_outcome b hostAddr remoteSrcAddr .sxOk _ hbuf hother
      (Prod.ext (burstTries_lively hlively _ _) rfl)
    have hstill : Lively m.radio.attempts := by
      rw [hreach.attempts]
      exact hlively
    obtain ⟨n', hrest⟩ := ih hreach.buffer (hreach.printable hother) hstill
    exact ⟨n', m, hsend, hrest⟩

end Sending

/-- After bursts that were all reported as sent, the receiver has delivered exactly their
data, in order. One more burst adds exactly its own data if it is reported as sent; if it is
given up, it adds this or nothing. A run that describes a stray frame of more than 8 payload
bytes is undefined and returns nothing, so nothing is said about it here. -/
theorem bursts_delivered (hostAddr remoteSrcAddr : UInt16) (n n₁ n₂ : Node Channel)
    (sent : List Burst) (b : Burst) (ret : Sx127xErr) (hstart : SystemStart hostAddr remoteSrcAddr n)
    (hsent : Sent hostAddr remoteSrcAddr n sent n₁)
    (hrun : b.send hostAddr remoteSrcAddr n₁ = .ok (ret, n₂)) :
    deliveries n₁.radio.receiver.callbacks = sent.map (fun b => .ok b.data) ∧
      commands n₂.radio.receiver.callbacks = [] ∧
      ∃ cs, n₂.radio.receiver.callbacks = n₁.radio.receiver.callbacks ++ cs ∧
        (ret = .sxOk → deliveries cs = [.ok b.data]) ∧
        (ret ≠ .sxOk → ret = .sxTimeout ∧ (deliveries cs = [] ∨ deliveries cs = [.ok b.data])) := by
  obtain ⟨hready, cs₁, hcs₁, hd₁, hc₁⟩ := sent_ready hstart.ready hsent
  rw [hstart.callbacks, List.nil_append] at hcs₁
  refine ⟨by rw [hcs₁, hd₁], ?_⟩
  by_cases hret : ret = .sxOk
  · subst hret
    obtain ⟨-, cs, hcs, hd, hc⟩ := send_ok hready hrun
    refine ⟨by rw [hcs, hcs₁, commands_append, hc₁, hc]; rfl, cs, hcs, fun _ => hd, fun h => absurd rfl h⟩
  · obtain ⟨htimeout, cs, hcs, hd, hc⟩ := send_failed hready hret hrun
    exact ⟨by rw [hcs, hcs₁, commands_append, hc₁, hc]; rfl, cs, hcs, fun h => absurd h hret,
      fun _ => ⟨htimeout, hd⟩⟩

/-- Over a link that lets one of any four attempts through, and whose stray frames can be
described, every burst is reported as sent and delivered. -/
theorem bursts_get_through (hostAddr remoteSrcAddr : UInt16) (n : Node Channel) (bs : List Burst)
    (hstart : SystemStart hostAddr remoteSrcAddr n) (hother : n.radio.Printable)
    (hlively : Lively n.radio.attempts) :
    ∃ n', Sent hostAddr remoteSrcAddr n bs n' ∧
      deliveries n'.radio.receiver.callbacks = bs.map (fun b => .ok b.data) ∧
      commands n'.radio.receiver.callbacks = [] := by
  obtain ⟨n', hsent⟩ := sent_lively bs hstart.buffer hother hlively
  obtain ⟨-, cs, hcs, hd, hc⟩ := sent_ready hstart.ready hsent
  rw [hstart.callbacks, List.nil_append] at hcs
  exact ⟨n', hsent, by rw [hcs, hd], by rw [hcs, hc]⟩

def quietStart (hostAddr remoteSrcAddr : UInt16) (through : ℕ → Bool × Bool) : Node Channel where
  radio :=
    { attempts := fun tick => ⟨(through tick).1, (through tick).2, none⟩
      tick := 0
      receiver := ⟨⟨⟨[], []⟩, zeroBuffer⟩, rxHandlerInit hostAddr remoteSrcAddr, []⟩
      pending := none
      memory := fun _ => 0 }
  rxBuffer := zeroBuffer

lemma quietStart_printable (hostAddr remoteSrcAddr : UInt16) (through : ℕ → Bool × Bool) :
    (quietStart hostAddr remoteSrcAddr through).radio.Printable := by
  intro k f hf
  exact absurd hf (by simp [quietStart])

lemma quietStart_start (hostAddr remoteSrcAddr : UInt16) (through : ℕ → Bool × Bool) :
    SystemStart hostAddr remoteSrcAddr (quietStart hostAddr remoteSrcAddr through) :=
  ⟨rfl, rfl, rfl⟩

theorem bursts_delivered_lossy :
    let first : Burst := ⟨[7], 5, by decide, by decide, by decide⟩
    let second : Burst := ⟨List.replicate 9 1, 5, by decide, by decide, by decide⟩
    ∃ n₁ n₂, Sent 1 2 (quietStart 1 2 fun tick => (tick % 3 ≠ 0, tick % 3 ≠ 1)) [first] n₁ ∧
      second.send 1 2 n₁ = .ok (.sxOk, n₂) ∧
      deliveries n₁.radio.receiver.callbacks = [.ok first.data] ∧
      commands n₂.radio.receiver.callbacks = [] ∧
      ∃ cs, n₂.radio.receiver.callbacks = n₁.radio.receiver.callbacks ++ cs ∧
        deliveries cs = [.ok second.data] := by
  intro first second
  have hprintable := quietStart_printable 1 2 fun tick => (tick % 3 ≠ 0, tick % 3 ≠ 1)
  obtain ⟨n₁, h₁, hreach⟩ := send_outcome first 1 2 .sxOk 9 rfl hprintable (by decide)
  obtain ⟨n₂, h₂, -⟩ := send_outcome second 1 2 .sxOk 21 hreach.buffer
    (hreach.printable hprintable) (by rw [hreach.attempts, hreach.tick]; decide)
  have hsent : Sent 1 2 (quietStart 1 2 fun tick => (tick % 3 ≠ 0, tick % 3 ≠ 1)) [first] n₁ :=
    ⟨n₁, h₁, rfl⟩
  obtain ⟨hd, hc, cs, hcs, hok, -⟩ := bursts_delivered 1 2 _ n₁ n₂ [first] second .sxOk
    (quietStart_start 1 2 _) hsent h₂
  exact ⟨n₁, n₂, hsent, h₂, hd, hc, cs, hcs, hok rfl⟩

end LoraNetworking
