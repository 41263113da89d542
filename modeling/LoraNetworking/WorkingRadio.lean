import LoraNetworking.Sx127xUtils

/-! A radio whose calls succeed, whatever happens to the frames, and what
`send_packet_ensure_ack` makes of the frames it receives there. -/

namespace LoraNetworking

open StateProg

/-- What lies beyond the radio of a node: what a transmission does, what happens while the node
listens, the frame its radio has received, the state once that frame is read, and the memory
behind the receive buffer. -/
structure Medium (τ : Type) where
  transmit : List UInt8 → Prog τ Unit
  listen : τ → τ
  received : τ → Option (List UInt8)
  take : τ → τ
  memory : τ → ℕ → UInt8

variable {τ : Type}

def Medium.driver (m : Medium τ) : Driver τ where
  switchMode _ := return .sxOk
  clearIrq := return .sxOk
  pollForIrqFlag _ _ _ _ := Prog.step fun t =>
    (if (m.received (m.listen t)).isSome then .sxOk else .sxTimeout, m.listen t)
  pollForIrqFlagNoTimeout _ _ _ := fun t =>
    if (m.received (m.listen t)).isSome then .ok (.sxOk, m.listen t) else .error .running
  readLastPayload := Prog.step fun t =>
    match m.received t with
    | none => (⟨.sxInvalidState, [], none⟩, t)
    | some frame => (⟨.sxOk, frame.map some, some frame.length⟩, m.take t)
  sendPayload buf len _ := do
    m.transmit (buf.take len.toNat)
    return .sxOk
  behindRxBuffer := m.memory

def decodeFrame (memory : ℕ → UInt8) (frame : List UInt8) : Packet :=
  (parsePacket (rxMemory (zeroBuffer.overwrite (frame.map some)) memory)).2

def ackFor (p : Packet) : Packet :=
  emptyPacket p.srcAddress p.destAddress p.ackId p.sequenceNumber

lemma decodeFrame_encode {p : Packet} (hmax : p.payloadLength.toNat ≤ payloadLengthMax)
    (memory : ℕ → UInt8) : decodeFrame memory (encode p) = p := by
  have hlen : (encode p).length ≤ 255 := by
    simp only [encode_length, overhead, addrLength, payloadLengthMax] at hmax ⊢
    omega
  rw [decodeFrame, parsePacket_encode p fun i hi => rxMemory_overwrite _ _ hlen hi]

lemma ackFor_bounded (p : Packet) : (ackFor p).payloadLength.toNat ≤ payloadLengthMax := Nat.zero_le _

lemma ackFor_ackFor_ackFor (p : Packet) : ackFor (ackFor (ackFor p)) = ackFor p := rfl

lemma checkPacketType_ackFor_ne (p : Packet) : checkPacketType (ackFor p) ≠ .packetData :=
  fun h => (checkPacketType_data _).mp h rfl

lemma eq_ackFor_iff (p q : Packet) :
    checkPacketFeatures q p.destAddress p.srcAddress p.ackId p.sequenceNumber
      (checkPacketType (ackFor p)) = true ↔ q = ackFor p := by
  rw [checkPacketFeatures_iff]
  constructor
  · rintro ⟨hsrc, hdest, hack, hseq, htype⟩
    have hempty : q.payloadLength = 0 := by
      by_contra hdata
      rw [(checkPacketType_data q).mpr hdata] at htype
      exact checkPacketType_ackFor_ne p htype.symm
    rw [eq_emptyPacket q hempty, hsrc, hdest, hack, hseq]
    rfl
  · rintro rfl
    exact ⟨rfl, rfl, rfl, rfl, rfl⟩

namespace Medium

variable {m : Medium τ} {p rxP : Packet} {n n' : Node τ} {t : τ} {ret : Sx127xErr}

lemma sendPacket (hmax : p.payloadLength.toNat ≤ payloadLengthMax)
    (h : m.transmit (encode p) n.radio = .ok ((), t)) (switchToRxAfterTx : Bool) :
    sx1278SendPacket m.driver p switchToRxAfterTx n = .ok (.sxOk, ⟨t, n.rxBuffer⟩) := by
  apply sx1278SendPacket_of_ok hmax
  simp only [driver, txBuffer_take hmax]
  exact (Prog.bind_of_ok h).trans rfl

lemma sendPacket_ok {switchToRxAfterTx : Bool}
    (h : sx1278SendPacket m.driver p switchToRxAfterTx n = .ok (ret, n')) :
    p.payloadLength.toNat ≤ payloadLengthMax ∧ m.transmit (encode p) n.radio = .ok ((), n'.radio) := by
  have hmax := sx1278SendPacket_bounded h
  rw [sx1278SendPacket_eq hmax] at h
  have hsend := (onRadio_ok.mp h).1
  simp only [driver, txBuffer_take hmax] at hsend
  obtain ⟨_, t, htransmit, hret⟩ := Prog.bind_ok.mp hsend
  obtain ⟨-, rfl⟩ : Sx127xErr.sxOk = ret ∧ t = n'.radio := by simpa using hret
  exact ⟨hmax, htransmit⟩

lemma pollAndRead_none (h : m.received (m.listen n.radio) = none) (timeout : ℕ) :
    sx1278PollAndReadPacket m.driver rxP timeout n =
      .ok ((.sxTimeout, rxP), ⟨m.listen n.radio, n.rxBuffer⟩) := by
  have hpoll : m.driver.pollForIrqFlag timeout 1 ((1 : UInt8) <<< 6) false n.radio =
      .ok (.sxTimeout, m.listen n.radio) := by
    simp [driver, h]
  have hbody : pollAndReadBody m.driver rxP timeout n =
      .ok ((.sxTimeout, rxP), ⟨m.listen n.radio, n.rxBuffer⟩) := by
    rw [pollAndReadBody, Prog.bind_of_ok (onRadio_of_ok rfl), if_neg (not_not.mpr rfl),
      Prog.bind_of_ok (onRadio_of_ok hpoll), if_pos (by decide)]
    rfl
  exact (Prog.bind_of_ok hbody).trans rfl

lemma pollAndRead_some {frame : List UInt8} (hbuf : n.rxBuffer = zeroBuffer)
    (h : m.received (m.listen n.radio) = some frame) (timeout : ℕ) :
    sx1278PollAndReadPacket m.driver rxP timeout n =
      .ok ((.sxOk, decodeFrame (m.memory (m.take (m.listen n.radio))) frame),
        ⟨m.take (m.listen n.radio), zeroBuffer⟩) := by
  have hpoll : m.driver.pollForIrqFlag timeout 1 ((1 : UInt8) <<< 6) false n.radio =
      .ok (.sxOk, m.listen n.radio) := by
    simp [driver, h]
  have hpayload : m.driver.readLastPayload (m.listen n.radio) =
      .ok (⟨.sxOk, frame.map some, some frame.length⟩, m.take (m.listen n.radio)) := by
    simp [driver, h]
  have hread : readLastPacket m.driver ⟨m.listen n.radio, n.rxBuffer⟩ =
      .ok ((.sxOk, decodeFrame (m.memory (m.take (m.listen n.radio))) frame),
        ⟨m.take (m.listen n.radio), zeroBuffer⟩) := by
    rw [readLastPacket_ok, hbuf]
    exact ⟨_, _, .sxOk, hpayload, rfl, rfl, rfl, rfl⟩
  have hbody : pollAndReadBody m.driver rxP timeout n =
      .ok ((.sxOk, decodeFrame (m.memory (m.take (m.listen n.radio))) frame),
        ⟨m.take (m.listen n.radio), zeroBuffer⟩) := by
    rw [pollAndReadBody, Prog.bind_of_ok (onRadio_of_ok rfl), if_neg (not_not.mpr rfl),
      Prog.bind_of_ok (onRadio_of_ok hpoll), if_neg (not_not.mpr rfl),
      Prog.bind_of_ok (onRadio_of_ok rfl), if_neg (not_not.mpr rfl), Prog.bind_of_ok hread]
    rfl
  exact (Prog.bind_of_ok hbody).trans rfl

lemma sendAttempts_step (hmax : p.payloadLength.toNat ≤ payloadLengthMax)
    (hbuf : n.rxBuffer = zeroBuffer) (h : m.transmit (encode p) n.radio = .ok ((), t)) (left : ℕ) :
    sendAttempts m.driver p (checkPacketType (ackFor p)) (left + 1) rxP n =
      match m.received (m.listen t) with
      | none => sendAttempts m.driver p (checkPacketType (ackFor p)) left rxP ⟨m.listen t, zeroBuffer⟩
      | some frame =>
        let q := decodeFrame (m.memory (m.take (m.listen t))) frame
        if q = ackFor p then .ok (.sxOk, ⟨m.take (m.listen t), zeroBuffer⟩)
        else if q.payloadLength.toNat ≤ payloadLengthMax then
          sendAttempts m.driver p (checkPacketType (ackFor p)) left q ⟨m.take (m.listen t), zeroBuffer⟩
        else .error .undefined := by
  rw [sendAttempts, Prog.bind_of_ok (sendPacket hmax h true), if_neg (not_not.mpr rfl)]
  cases hr : m.received (m.listen t) with
  | none =>
    rw [Prog.bind_of_ok (pollAndRead_none (n := ⟨t, n.rxBuffer⟩) hr phyTimeoutMsec), hbuf]
    rfl
  | some frame =>
    rw [Prog.bind_of_ok (pollAndRead_some (n := ⟨t, n.rxBuffer⟩) hbuf hr phyTimeoutMsec)]
    dsimp only
    rw [if_neg (not_not.mpr rfl)]
    generalize decodeFrame (m.memory (m.take (m.listen t))) frame = q
    by_cases hq : q = ackFor p
    · rw [if_neg (by rw [Bool.not_eq_false]; exact (eq_ackFor_iff p q).mpr hq), if_pos hq]
      rfl
    · rw [if_pos (by rw [← Bool.not_eq_true, eq_ackFor_iff]; exact hq), if_neg hq]
      split_ifs with hlong
      · rw [packetDescription_ok q hlong]
        exact Prog.bind_of_ok (Prog.ofExcept_ok _ _)
      · rw [packetDescription_long q hlong]
        rfl

def Attempted (m : Medium τ) (p : Packet) (t : τ) (frame : Option (List UInt8)) (t' : τ) : Prop :=
  ∃ s, m.transmit (encode p) t = .ok ((), s) ∧ m.received (m.listen s) = frame ∧
    t' = if frame.isSome then m.take (m.listen s) else m.listen s

lemma sendAttempts_invariant (Inv : ℕ → τ → Prop) (Acked : τ → Prop)
    (hstep : ∀ left t frame t', Inv (left + 1) t → p.payloadLength.toNat ≤ payloadLengthMax →
      m.Attempted p t frame t' → Inv left t' ∧
        ∀ f, frame = some f → decodeFrame (m.memory t') f = ackFor p → Acked t')
    {left : ℕ} (hinv : Inv left n.radio) (hbuf : n.rxBuffer = zeroBuffer)
    (h : sendAttempts m.driver p (checkPacketType (ackFor p)) left rxP n = .ok (ret, n')) :
    n'.rxBuffer = zeroBuffer ∧ (∃ left', Inv left' n'.radio) ∧
      (ret = .sxOk ∧ Acked n'.radio ∨ ret = .sxTimeout) := by
  induction left generalizing n rxP with
  | zero =>
    obtain ⟨rfl, rfl⟩ : Sx127xErr.sxTimeout = ret ∧ n = n' := by simpa [sendAttempts] using h
    exact ⟨hbuf, ⟨0, hinv⟩, Or.inr rfl⟩
  | succ left ih =>
    obtain ⟨hmax, t, htransmit⟩ : p.payloadLength.toNat ≤ payloadLengthMax ∧
        ∃ t, m.transmit (encode p) n.radio = .ok ((), t) := by
      obtain ⟨_, n₁, hsend, -⟩ := Prog.bind_ok.mp h
      obtain ⟨hmax, htransmit⟩ := sendPacket_ok hsend
      exact ⟨hmax, n₁.radio, htransmit⟩
    rw [sendAttempts_step hmax hbuf htransmit] at h
    cases hr : m.received (m.listen t) with
    | none =>
      rw [hr] at h
      obtain ⟨hnext, -⟩ := hstep left n.radio none (m.listen t) hinv hmax ⟨t, htransmit, hr, rfl⟩
      exact ih hnext rfl h
    | some frame =>
      rw [hr] at h
      obtain ⟨hnext, hacked⟩ :=
        hstep left n.radio (some frame) (m.take (m.listen t)) hinv hmax ⟨t, htransmit, hr, rfl⟩
      dsimp only at h
      split_ifs at h with hq
      · obtain ⟨rfl, rfl⟩ : Sx127xErr.sxOk = ret ∧ _ = n' := by simpa using h
        exact ⟨rfl, ⟨left, hnext⟩, Or.inl ⟨rfl, hacked frame rfl hq⟩⟩
      · exact ih hnext rfl h

lemma sendPacketEnsureAck_eq (timeout : ℤ) (ackType : PacketTypes) :
    sendPacketEnsureAck m.driver p timeout ackType =
      sendAttempts m.driver p ackType (timeoutN timeout).toNat mallocPacket := by
  funext n
  rw [sendPacketEnsureAck, Prog.bind_apply]
  cases sendAttempts m.driver p ackType (timeoutN timeout).toNat mallocPacket n with
  | error e => rfl
  | ok out => rfl

end Medium

end LoraNetworking
