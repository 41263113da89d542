import LoraNetworking.LossyChannel

/-! When a send over the lossy link gets through: its return code and the attempts it takes are
a function of what the link does to each attempt. -/

namespace LoraNetworking

open StateProg

def tries (attempts : ℕ → Attempt) : ℕ → ℕ → Sx127xErr × ℕ
  | 0, tick => (.sxTimeout, tick)
  | left + 1, tick =>
    if (attempts tick).through then (.sxOk, tick + 1) else tries attempts left (tick + 1)

def burstTries (attempts : ℕ → Attempt) : ℕ → ℕ → Sx127xErr × ℕ
  | 0, tick => (.sxOk, tick)
  | count + 1, tick =>
    if (tries attempts 4 tick).1 ≠ .sxOk then tries attempts 4 tick
    else burstTries attempts count (tries attempts 4 tick).2

def Channel.Printable (c : Channel) : Prop :=
  ∀ k f, (c.attempts k).other = some f →
    (decodeFrame c.memory f).payloadLength.toNat ≤ payloadLengthMax

structure Reaches (n : Node Channel) (tick : ℕ) (n' : Node Channel) : Prop where
  buffer : n'.rxBuffer = zeroBuffer
  attempts : n'.radio.attempts = n.radio.attempts
  memory : n'.radio.memory = n.radio.memory
  tick : n'.radio.tick = tick

lemma Reaches.trans {n m n' : Node Channel} {i j : ℕ} (h : Reaches n i m) (h' : Reaches m j n') :
    Reaches n j n' :=
  ⟨h'.buffer, h'.attempts.trans h.attempts, h'.memory.trans h.memory, h'.tick⟩

lemma Reaches.printable {n n' : Node Channel} {i : ℕ} (h : Reaches n i n')
    (hp : n.radio.Printable) : n'.radio.Printable := by
  rw [Channel.Printable, h.attempts, h.memory]
  exact hp

section Sends

variable {n : Node Channel}

lemma sendAttempts_total {p : Packet} (hmax : p.payloadLength.toNat ≤ payloadLengthMax)
    (left : ℕ) (rxP : Packet) (hbuf : n.rxBuffer = zeroBuffer) (hother : n.radio.Printable) :
    ∃ n', sendAttempts channel.driver p (checkPacketType (ackFor p)) left rxP n =
        .ok ((tries n.radio.attempts left n.radio.tick).1, n') ∧
      Reaches n (tries n.radio.attempts left n.radio.tick).2 n' := by
  induction left generalizing n rxP with
  | zero => exact ⟨n, rfl, ⟨hbuf, rfl, rfl, rfl⟩⟩
  | succ left ih =>
    obtain ⟨r, -, htransmit⟩ := transmit_encode hmax n.radio
    have hnext : Reaches n (n.radio.tick + 1) ⟨{ n.radio.sent p r with pending := none }, zeroBuffer⟩ :=
      ⟨rfl, rfl, rfl, rfl⟩
    rw [Medium.sendAttempts_step hmax hbuf htransmit, tries]
    by_cases hthrough : (n.radio.attempts n.radio.tick).through = true
    · have hp : channel.received (channel.listen (n.radio.sent p r)) = some (encode (ackFor p)) :=
        if_pos hthrough
      rw [hp, if_pos hthrough]
      dsimp only
      rw [decodeFrame_encode (ackFor_bounded p), if_pos rfl]
      exact ⟨_, rfl, hnext⟩
    · have hpend : (n.radio.sent p r).pending = (n.radio.attempts n.radio.tick).other.filter
          fun f => decodeFrame n.radio.memory f ≠ ackFor p := if_neg hthrough
      rw [if_neg hthrough]
      cases hp : (n.radio.sent p r).pending with
      | none =>
        have hp' : channel.received (channel.listen (n.radio.sent p r)) = none := hp
        have hsame : Reaches n (n.radio.tick + 1) ⟨n.radio.sent p r, zeroBuffer⟩ := ⟨rfl, rfl, rfl, rfl⟩
        obtain ⟨n', hretry, hreach⟩ := ih rxP hsame.buffer (hsame.printable hother)
        rw [hp']
        exact ⟨n', hretry, hsame.trans hreach⟩
      | some f =>
        have hp' : channel.received (channel.listen (n.radio.sent p r)) = some f := hp
        obtain ⟨hf, hne⟩ := Option.filter_eq_some_iff.mp (hpend.symm.trans hp)
        obtain ⟨n', hretry, hreach⟩ := ih (decodeFrame n.radio.memory f) hnext.buffer
          (hnext.printable hother)
        rw [hp']
        dsimp only
        rw [if_neg (by simpa [channel, Channel.sent] using hne), if_pos (by exact hother _ f hf)]
        exact ⟨n', hretry, hnext.trans hreach⟩

lemma sendPacketEnsureAck_total {p : Packet} (hmax : p.payloadLength.toNat ≤ payloadLengthMax)
    (hbuf : n.rxBuffer = zeroBuffer) (hother : n.radio.Printable) :
    ∃ n', sendPacketEnsureAck channel.driver p (4 * phyTimeoutMsec) (checkPacketType (ackFor p)) n =
        .ok ((tries n.radio.attempts 4 n.radio.tick).1, n') ∧
      Reaches n (tries n.radio.attempts 4 n.radio.tick).2 n' := by
  obtain ⟨n', hsend, hreach⟩ := sendAttempts_total hmax 4 mallocPacket hbuf hother
  refine ⟨n', ?_, hreach⟩
  rw [Medium.sendPacketEnsureAck_eq, timeoutN_burst]
  exact hsend

lemma sendBurstFrom_total {len i : ℕ} {ps : List Packet}
    (hmax : ∀ p ∈ ps, p.payloadLength.toNat ≤ payloadLengthMax)
    (htypes : ∀ j p, ps[j]? = some p → checkPacketType (ackFor p) = burstAckType len (i + j))
    (hbuf : n.rxBuffer = zeroBuffer) (hother : n.radio.Printable) :
    ∃ n', sendBurstFrom channel.driver len i (ps.map some) n =
        .ok ((burstTries n.radio.attempts ps.length n.radio.tick).1, n') ∧
      Reaches n (burstTries n.radio.attempts ps.length n.radio.tick).2 n' := by
  induction ps generalizing i n with
  | nil => exact ⟨n, rfl, ⟨hbuf, rfl, rfl, rfl⟩⟩
  | cons p ps ih =>
    have htype : checkPacketType (ackFor p) = burstAckType len i := htypes 0 p rfl
    obtain ⟨n₁, hsend, hreach⟩ := sendPacketEnsureAck_total (hmax p List.mem_cons_self) hbuf hother
    rw [htype] at hsend
    obtain ⟨n', hrest, hreach'⟩ := ih (i := i + 1) (fun q hq => hmax q (List.mem_cons_of_mem p hq))
      (fun j q hq => by rw [htypes (j + 1) q hq, Nat.add_right_comm, Nat.add_assoc]) hreach.buffer
      (hreach.printable hother)
    rw [hreach.attempts, hreach.tick] at hrest hreach'
    rw [List.map_cons, sendBurstFrom, Prog.bind_of_ok hsend, List.length_cons, burstTries]
    split_ifs with hok
    · exact ⟨n₁, rfl, hreach⟩
    · exact ⟨n', hrest, hreach.trans hreach'⟩

end Sends

def Lively (attempts : ℕ → Attempt) : Prop := ∀ tick, ∃ j < 4, (attempts (tick + j)).through = true

lemma tries_ok {attempts : ℕ → Attempt} {left tick : ℕ}
    (h : ∃ j < left, (attempts (tick + j)).through = true) : (tries attempts left tick).1 = .sxOk := by
  induction left generalizing tick with
  | zero =>
    obtain ⟨j, hj, -⟩ := h
    exact absurd hj (Nat.not_lt_zero j)
  | succ left ih =>
    rw [tries]
    split_ifs with hnow
    · rfl
    · obtain ⟨j, hj, hthrough⟩ := h
      cases j with
      | zero => exact absurd hthrough hnow
      | succ j => exact ih ⟨j, by omega, by rwa [Nat.add_right_comm, Nat.add_assoc]⟩

lemma burstTries_lively {attempts : ℕ → Attempt} (h : Lively attempts) (count tick : ℕ) :
    (burstTries attempts count tick).1 = .sxOk := by
  induction count generalizing tick with
  | zero => rfl
  | succ count ih =>
    rw [burstTries, if_neg (not_not.mpr (tries_ok (h tick)))]
    exact ih _

end LoraNetworking
