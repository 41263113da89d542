import LoraNetworking.ReceiveOnAir

/-! A burst on a radio in the air: which frames are sent, and what has been heard when a packet
counts as acknowledged. -/

namespace LoraNetworking.Transceiver

open StateProg

variable {behind : ℕ → UInt8} {fuel timeout : ℕ} {base : List AirEvent} {hs : List Reception} {p rxP : Packet}
  {quiet : Prop} {n n' : Node (Machine Transceiver)} {ret : Sx127xErr}

section Polls

lemma cleanup_begun {α : Type} {mode : UInt8} (hmode : mode = modeLora ||| modeStdby ∨ mode = modeLora ||| modeSleep)
    (a : α) : Triple (Clear (On (Begun quiet base)))
      (onRadio sx1278ClearIrq >>= fun _ => onRadio (sx1278SwitchMode mode) >>= fun _ => pure a) fun b n =>
        b = a ∧ ∃ lost : List Reception, (quiet → lost = []) ∧ Clear (On (Silent (base ++ lost.map .heard))) n := by
  refine .bind (clear_onRadio begun_clear) fun _ => clear_given fun _ => clear_exists fun lost => ?_
  refine clear_on_given fun hlost => clear_mono (fun t ht => ht.1) ?_
  refine .bind (clear_onRadio (begun_mode hmode)) fun _ => clear_given fun _ => clear_exists fun lost' => ?_
  refine clear_on_given fun hlost' => .pure ?_
  intro n hn
  refine ⟨rfl, lost ++ lost', fun hquiet => by rw [hlost hquiet, hlost' hquiet]; rfl, ?_⟩
  rwa [List.map_append, ← List.append_assoc]

def BodyEnds (behind : ℕ → UInt8) (base : List AirEvent) (rxP : Packet) (out : Sx127xErr × Packet)
    (n : Node (Machine Transceiver)) : Prop :=
  (∃ hs, hs ≠ [] ∧ out = (.sxOk, readBatch behind hs) ∧ Clear (On (Silent (base ++ hs.map .heard))) n) ∨
    (out = (.sxTimeout, rxP) ∧ ∃ hs, Clear (On (Pending base hs)) n)

lemma pollAndReadBody_pending : Triple (Clear (On (Pending base hs)))
    (pollAndReadBody (sx127xDriver fuel fun _ => behind) rxP timeout) (BodyEnds behind base rxP) := by
  refine clear_passed (pending_mode (by decide)) (clear_exists fun _ => ?_)
  refine clear_mono (fun t ht => (⟨_, ht.1⟩ : ∃ hs, Pending base hs t)) ?_
  refine .bind (clear_onRadio hearing_watched.poll) fun ret => ?_
  rintro n out n' ⟨hbuf, ⟨rfl, hport, htimer, hs, hne, hpending⟩ | ⟨rfl, hport, htimer, hs, hpending⟩⟩ hrun
  · refine (?_ : Triple (Clear (On (Pending base hs))) _ (BodyEnds behind base rxP)) n out n'
      ⟨hbuf, hport, htimer, hpending⟩ hrun
    refine .ite (fun hne => absurd rfl hne) fun _ => clear_passed pending_standby (clear_exists fun hs' => ?_)
    refine clear_mono (fun t ht => ht.pending) (.bind readLastPacket_pending fun out => ?_)
    obtain ⟨ret, q⟩ := out
    refine .given fun hret => .exists_pre fun hs'' => .given fun hq => ?_
    dsimp only at hret hq ⊢
    rw [if_neg (not_not.mpr hret)]
    refine .pure ?_
    intro n hn
    exact Or.inl ⟨_, by simp [hne], by rw [hq], hn⟩
  · obtain ⟨rfl, rfl⟩ : _ = out ∧ n = n' := by simpa using hrun
    exact Or.inr ⟨rfl, hs, hbuf, hport, htimer, hpending⟩

def PollEnds (behind : ℕ → UInt8) (base : List AirEvent) (rxP : Packet) (out : Sx127xErr × Packet)
    (n : Node (Machine Transceiver)) : Prop :=
  ∃ hs, (out = (.sxOk, readBatch behind hs) ∨ out = (.sxTimeout, rxP)) ∧
    Clear (On (Silent (base ++ hs.map .heard))) n

lemma pollAndRead_pending : Triple (Clear (On (Pending base [])))
    (sx1278PollAndReadPacket (sx127xDriver fuel fun _ => behind) rxP timeout) (PollEnds behind base rxP) := by
  refine .bind pollAndReadBody_pending fun out => .or ?_ (.given fun hout => .exists_pre fun hs => ?_)
  · refine .exists_pre fun hs => .given fun _ => .given fun hout => ?_
    refine clear_mono (fun t ht => ht.begun True) ((cleanup_begun (Or.inl rfl) out).mono (fun _ hn => hn) ?_)
    rintro _ n ⟨rfl, lost, hlost, hn⟩
    obtain rfl := hlost trivial
    exact ⟨hs, Or.inl hout, by simpa using hn⟩
  · refine clear_mono (fun t ht => ht.begun) ((cleanup_begun (Or.inl rfl) out).mono (fun _ hn => hn) ?_)
    rintro _ n ⟨rfl, lost, -, hn⟩
    exact ⟨hs ++ lost, Or.inr hout, by simpa using hn⟩

end Polls

section Attempts

def attempt (p : Packet) (hs : List Reception) : List AirEvent := .sent (encode p) :: hs.map .heard

def Answered (behind : ℕ → UInt8) (p : Packet) (tries : List (List Reception)) : Prop :=
  ∃ hs, tries.getLast? = some hs ∧ readBatch behind hs = ackFor p

inductive TriesEnd (behind : ℕ → UInt8) (base : List AirEvent) (p : Packet) (left : ℕ)
    (tries : List (List Reception)) : Sx127xErr → Node (Machine Transceiver) → Prop
  | answered {n : Node (Machine Transceiver)} (few : tries.length ≤ left) (ack : Answered behind p tries)
      (silent : Clear (On (Silent (base ++ tries.flatMap (attempt p)))) n) :
      TriesEnd behind base p left tries .sxOk n
  | unanswered {n : Node (Machine Transceiver)} (few : tries.length ≤ left)
      (silent : Clear (On (Silent (base ++ tries.flatMap (attempt p)))) n) :
      TriesEnd behind base p left tries .sxTimeout n
  | onAir {n : Node (Machine Transceiver)} (few : tries.length < left)
      (sending : Clear (On (OnAir (base ++ tries.flatMap (attempt p)) (encode p))) n) :
      TriesEnd behind base p left tries .sxTimeout n

variable {ackType : PacketTypes} {left : ℕ}

lemma TriesEnd.cons {tries : List (List Reception)} (h : TriesEnd behind (base ++ attempt p hs) p left tries ret n) :
    TriesEnd behind base p (left + 1) (hs :: tries) ret n := by
  have hlog : base ++ attempt p hs ++ tries.flatMap (attempt p) = base ++ (hs :: tries).flatMap (attempt p) := by
    simp
  cases h with
  | answered few ack silent =>
    obtain ⟨last, hlast, hread⟩ := ack
    refine .answered (Nat.succ_le_succ few) ⟨last, ?_, hread⟩ (hlog ▸ silent)
    rw [List.getLast?_cons, hlast]
    rfl
  | unanswered few silent => exact .unanswered (Nat.succ_le_succ few) (hlog ▸ silent)
  | onAir few sending => exact .onAir (Nat.succ_lt_succ few) (hlog ▸ sending)

def OnlyAcks (p : Packet) (ackType : PacketTypes) : Prop :=
  ∀ q, checkPacketFeatures q p.destAddress p.srcAddress p.ackId p.sequenceNumber ackType = true → q = ackFor p

lemma sendAttempts_succ (hack : OnlyAcks p ackType)
    (ih : ∀ base rxP, Triple (Clear (On (Silent base)))
      (sendAttempts (sx127xDriver fuel fun _ => behind) p ackType left rxP) fun ret n =>
        ∃ tries, TriesEnd behind base p left tries ret n) :
    Triple (Clear (On (Begun quiet base)))
      (sendAttempts (sx127xDriver fuel fun _ => behind) p ackType (left + 1) rxP) fun ret n =>
        ∃ lost : List Reception, (quiet → lost = []) ∧ ∃ tries,
          TriesEnd behind (base ++ lost.map .heard) p (left + 1) tries ret n := by
  intro n ret n' hn hrun
  obtain ⟨e, n₁, hsend, hrest⟩ := Prog.bind_ok.mp hrun
  have hmax := sx1278SendPacket_bounded hsend
  obtain ⟨lost, hlost, hbuf, hends⟩ := sendPacket_begun hmax _ _ _ hn hsend
  refine ⟨lost, hlost, ?_⟩
  generalize base ++ lost.map AirEvent.heard = base at hends ⊢
  rcases hends with ⟨rfl, hm⟩ | ⟨rfl, hm⟩
  · rw [if_neg (not_not.mpr rfl)] at hrest
    obtain ⟨⟨e, q⟩, n₂, hpoll, hchecked⟩ := Prog.bind_ok.mp hrest
    obtain ⟨hs, hout, hsilent⟩ := pollAndRead_pending _ _ _ ⟨hbuf, hm.mono fun t ht => ht.1⟩ hpoll
    rw [List.append_assoc] at hsilent
    have hagain : sendAttempts (sx127xDriver fuel fun _ => behind) p ackType left q n₂ = .ok (ret, n') →
        ∃ tries, TriesEnd behind base p (left + 1) tries ret n' := by
      intro hnext
      obtain ⟨tries, hend⟩ := ih _ _ _ _ _ hsilent hnext
      exact ⟨hs :: tries, hend.cons⟩
    rcases hout with hout | hout
    · obtain ⟨rfl, rfl⟩ := Prod.mk.inj hout
      dsimp only at hchecked
      rw [if_neg (not_not.mpr rfl)] at hchecked
      split_ifs at hchecked with hrefused
      · obtain ⟨_, n₃, hdescribed, hnext⟩ := Prog.bind_ok.mp hchecked
        obtain rfl : n₃ = n₂ := (Triple.ofExcept : Triple (fun n => n = n₂) _ fun _ n => n = n₂) _ _ _ rfl hdescribed
        exact hagain hnext
      · obtain ⟨rfl, rfl⟩ : _ = ret ∧ n₂ = n' := by simpa using hchecked
        refine ⟨[hs], .answered (Nat.succ_le_succ (Nat.zero_le _)) ⟨hs, rfl, hack _ ?_⟩ ?_⟩
        · simpa using hrefused
        · simpa [attempt] using hsilent
    · obtain ⟨rfl, rfl⟩ := Prod.mk.inj hout
      exact hagain hchecked
  · obtain ⟨rfl, rfl⟩ : _ = ret ∧ n₁ = n' := by simpa using hrest
    refine ⟨[], .onAir (Nat.succ_pos _) ⟨hbuf, hm.mono fun t ht => ?_⟩⟩
    simpa using ht

lemma sendAttempts_silent (hack : OnlyAcks p ackType) (rxP : Packet) : Triple (Clear (On (Silent base)))
    (sendAttempts (sx127xDriver fuel fun _ => behind) p ackType left rxP) fun ret n =>
      ∃ tries, TriesEnd behind base p left tries ret n := by
  induction left generalizing base rxP with
  | zero =>
    refine .pure ?_
    intro n hn
    exact ⟨[], .unanswered le_rfl (by simpa using hn)⟩
  | succ left ih =>
    refine clear_mono (fun t ht => ht.begun True) ((sendAttempts_succ hack fun _ _ => ih _).mono (fun _ hn => hn) ?_)
    rintro ret n ⟨lost, hlost, tries, hend⟩
    obtain rfl := hlost trivial
    exact ⟨tries, by simpa using hend⟩

lemma onAir_sleep {frame : List UInt8} : Triple (On (OnAir base frame)) (sx1278SwitchMode (modeLora ||| modeSleep))
    fun _ m => On (Silent base) m ∨ On (Silent (base ++ [.sent frame])) m := by
  have hwrite : Triple (On (OnAir base frame)) (sx1278SwitchMode (modeLora ||| modeSleep)) fun ret m =>
      ret = .sxOk ∧ On (fun t => Silent base t ∨ Silent (base ++ [.sent frame]) t) m := by
    refine on_write fun t ht => ?_
    have hdata : [modeLora ||| modeSleep] ≠ [modeLora ||| modeTx] := by decide
    rw [writer_mode, if_neg hdata]
    cases ht.elapse with
    | sending _ hlog _ => exact Or.inl ⟨hlog, rfl, quiet_of_mode (Or.inr rfl) (by simp)⟩
    | sent hsilent => exact Or.inr ⟨hsilent.log, rfl, quiet_of_mode (Or.inr rfl) (by simp)⟩
  refine hwrite.mono (fun _ hm => hm) ?_
  rintro ret m ⟨-, hport, htimer, h | h⟩
  · exact Or.inl ⟨hport, htimer, h⟩
  · exact Or.inr ⟨hport, htimer, h⟩

def Tried (behind : ℕ → UInt8) (base : List AirEvent) (p : Packet) (tries : List (List Reception))
    (ret : Sx127xErr) (n : Node (Machine Transceiver)) : Prop :=
  Clear (On (Silent (base ++ tries.flatMap (attempt p)))) n ∧
    ((ret = .sxOk ∧ Answered behind p tries) ∨ ret = .sxTimeout)

lemma sleep_onAir {frame : List UInt8} (ret : Sx127xErr) : Triple (Clear (On (OnAir base frame)))
    (onRadio sx1278ClearIrq >>= fun _ => onRadio (sx1278SwitchMode (modeLora ||| modeSleep)) >>= fun _ => pure ret)
    fun e n => e = ret ∧ (Clear (On (Silent base)) n ∨ Clear (On (Silent (base ++ [.sent frame]))) n) := by
  have hclear : Triple (On (OnAir base frame)) sx1278ClearIrq fun _ m => On (OnAir base frame) m :=
    (on_write fun t ht => ht.cleared).mono (fun _ hm => hm) fun _ _ hm => hm.2
  refine .bind (clear_onRadio hclear) fun _ => .bind (clear_onRadio onAir_sleep) fun _ => .pure ?_
  rintro n ⟨hbuf, h | h⟩
  · exact ⟨rfl, Or.inl ⟨hbuf, h⟩⟩
  · exact ⟨rfl, Or.inr ⟨hbuf, h⟩⟩

lemma sleep_silent (ret : Sx127xErr) : Triple (Clear (On (Silent base)))
    (onRadio sx1278ClearIrq >>= fun _ => onRadio (sx1278SwitchMode (modeLora ||| modeSleep)) >>= fun _ => pure ret)
    fun e n => e = ret ∧ Clear (On (Silent base)) n := by
  refine clear_mono (fun t ht => ht.begun True) ((cleanup_begun (Or.inr rfl) ret).mono (fun _ hn => hn) ?_)
  rintro e n ⟨he, lost, hlost, hn⟩
  obtain rfl := hlost trivial
  exact ⟨he, by simpa using hn⟩

lemma sleep_tries {tries : List (List Reception)} : Triple (TriesEnd behind base p left tries ret)
    (onRadio sx1278ClearIrq >>= fun _ => onRadio (sx1278SwitchMode (modeLora ||| modeSleep)) >>= fun _ => pure ret)
    fun e n => ∃ tries, tries.length ≤ left ∧ Tried behind base p tries e n := by
  rintro n e n' h hrun
  cases h with
  | answered few ack silent =>
    obtain ⟨rfl, hn⟩ := sleep_silent _ _ _ _ silent hrun
    exact ⟨tries, few, hn, Or.inl ⟨rfl, ack⟩⟩
  | unanswered few silent =>
    obtain ⟨rfl, hn⟩ := sleep_silent _ _ _ _ silent hrun
    exact ⟨tries, few, hn, Or.inr rfl⟩
  | onAir few sending =>
    obtain ⟨rfl, hn | hn⟩ := sleep_onAir _ _ _ _ sending hrun
    · exact ⟨tries, few.le, hn, Or.inr rfl⟩
    · refine ⟨tries ++ [[]], by simpa using few, ?_, Or.inr rfl⟩
      simpa [attempt] using hn

lemma sendPacketEnsureAck_begun (hack : OnlyAcks p ackType) {timeout : ℤ} (hn : (timeoutN timeout).toNat = left + 1) :
    Triple (Clear (On (Begun quiet base)))
      (sendPacketEnsureAck (sx127xDriver fuel fun _ => behind) p timeout ackType) fun ret n =>
        ∃ lost : List Reception, (quiet → lost = []) ∧ ∃ tries, tries.length ≤ left + 1 ∧
          Tried behind (base ++ lost.map .heard) p tries ret n := by
  rw [sendPacketEnsureAck, hn]
  refine .bind (sendAttempts_succ hack fun base rxP => sendAttempts_silent hack rxP) fun ret => ?_
  refine .exists_pre fun lost => .given fun hlost => .exists_pre fun tries => ?_
  exact sleep_tries.mono (fun _ hn => hn) fun _ _ hn => ⟨lost, hlost, hn⟩

end Attempts

section Burst

lemma onlyAcks {ackType : PacketTypes} (h : ackType ≠ .packetData) : OnlyAcks p ackType := by
  intro q hq
  obtain ⟨hsrc, hdest, hack, hseq, htype⟩ := (checkPacketFeatures_iff _ _ _ _ _ _).mp hq
  have hempty : q.payloadLength = 0 := by
    by_contra hdata
    exact h (htype.symm.trans ((checkPacketType_data q).mpr hdata))
  rw [eq_emptyPacket q hempty, hsrc, hdest, hack, hseq]
  rfl

lemma burstAckType_ne (len i : ℕ) : burstAckType len i ≠ .packetData := by
  rw [burstAckType]
  split_ifs
  · decide
  · decide
  · decide

def burstOnAir (sends : List (Packet × List (List Reception))) : List AirEvent :=
  sends.flatMap fun s => s.2.flatMap (attempt s.1)

def AllAnswered (behind : ℕ → UInt8) (sends : List (Packet × List (List Reception))) : Prop :=
  ∀ s ∈ sends, Answered behind s.1 s.2

/-- From `log` to `log'` the radio makes at most four attempts at each packet, one packet after the
other. It goes on only when the last attempt was answered. -/
def SendsBurst (behind : ℕ → UInt8) (pBuf : List (Option Packet)) (log : List AirEvent) (ret : Sx127xErr)
    (log' : List AirEvent) : Prop :=
  ∃ sends : List (Packet × List (List Reception)),
    log' = log ++ burstOnAir sends ∧ (∀ s ∈ sends, s.2.length ≤ 4) ∧
      ((ret = .sxOk ∧ AllAnswered behind sends ∧ sends.map (fun s => some s.1) = pBuf) ∨
        (ret = .sxTimeout ∧ ∃ acked last, sends = acked ++ [last] ∧ AllAnswered behind acked ∧
          sends.map (fun s => some s.1) <+: pBuf))

lemma SendsBurst.cons {tries : List (List Reception)} {pBuf : List (Option Packet)} {log' : List AirEvent}
    (hfew : tries.length ≤ 4) (hanswered : Answered behind p tries)
    (h : SendsBurst behind pBuf (base ++ tries.flatMap (attempt p)) ret log') :
    SendsBurst behind (some p :: pBuf) base ret log' := by
  obtain ⟨sends, hlog, hlens, hend⟩ := h
  refine ⟨(p, tries) :: sends, ?_, List.forall_mem_cons.mpr ⟨hfew, hlens⟩, ?_⟩
  · simpa [burstOnAir] using hlog
  · rcases hend with ⟨rfl, hall, hsends⟩ | ⟨rfl, acked, last, rfl, hall, hprefix⟩
    · exact Or.inl ⟨rfl, List.forall_mem_cons.mpr ⟨hanswered, hall⟩, congrArg (some p :: ·) hsends⟩
    · refine Or.inr ⟨rfl, (p, tries) :: acked, last, rfl, List.forall_mem_cons.mpr ⟨hanswered, hall⟩, ?_⟩
      exact List.cons_prefix_cons.mpr ⟨rfl, hprefix⟩

lemma sendBurstFrom_begun {len i : ℕ} {pBuf : List (Option Packet)} : Triple (Clear (On (Begun quiet base)))
    (sendBurstFrom (sx127xDriver fuel fun _ => behind) len i pBuf) fun ret n =>
      ∃ lost : List Reception, (quiet → lost = []) ∧
        SendsBurst behind pBuf (base ++ lost.map .heard) ret n.radio.world.log := by
  induction pBuf generalizing base quiet i with
  | nil =>
    refine .pure ?_
    intro n hn
    refine ⟨[], fun _ => rfl, [], ?_, by simp, Or.inl ⟨rfl, by simp [AllAnswered], rfl⟩⟩
    simp [burstOnAir, hn.2.2.2.log]
  | cons q rest ih =>
    cases q with
    | none => exact .stop
    | some p =>
      have hbudget : (timeoutN (4 * phyTimeoutMsec)).toNat = 3 + 1 := by
        rw [timeoutN_burst]
        rfl
      refine .bind (sendPacketEnsureAck_begun (onlyAcks (burstAckType_ne len i)) hbudget) fun ret => ?_
      refine .exists_pre fun lost => .given fun hlost => .exists_pre fun tries => .given fun hfew => ?_
      refine Triple.mono ?_ (fun _ hn => hn) fun _ _ hn => ⟨lost, hlost, hn⟩
      generalize base ++ lost.map AirEvent.heard = base
      rintro n e n' ⟨hsilent, ⟨rfl, hanswered⟩ | rfl⟩ hrun
      · rw [if_neg (not_not.mpr rfl)] at hrun
        obtain ⟨lost', hlost', hrest⟩ := ih n e n' ⟨hsilent.1, hsilent.2.mono fun t ht => ht.begun True⟩ hrun
        obtain rfl := hlost' trivial
        rw [List.map_nil, List.append_nil] at hrest
        exact hrest.cons hfew hanswered
      · obtain ⟨rfl, rfl⟩ : _ = e ∧ n = n' := by simpa using hrun
        refine ⟨[(p, tries)], ?_, by simpa using hfew, Or.inr ⟨rfl, [], _, rfl, by simp [AllAnswered], ?_⟩⟩
        · simpa [burstOnAir] using hsilent.2.2.2.log
        · simp

end Burst

theorem send_burst_on_air (behind : ℕ → UInt8) (fuel : ℕ) (pBuf : List (Option Packet)) (m : Machine Transceiver)
    (hport : m.sx127xSpiPort = port) (htimer : m.sx127xTimerCtx = timer) (hidle : m.world.transmission = none)
    (ret : Sx127xErr) (n' : Node (Machine Transceiver))
    (h : sendBurst (sx127xDriver fuel fun _ => behind) pBuf ⟨m, zeroBuffer⟩ = .ok (ret, n')) :
    ∃ lost : List Reception, SendsBurst behind pBuf (m.world.log ++ lost.map .heard) ret n'.radio.world.log := by
  obtain ⟨lost, -, hsends⟩ := sendBurstFrom_begun _ _ _ (clear_begun hport htimer hidle) h
  exact ⟨lost, hsends⟩

def answerAt (address : UInt8) : Reception := ⟨encode (emptyPacket 1 2 7 0), false, address, by decide⟩

theorem send_burst_on_air_begin :
    let arrivals := fun k => if 12 ≤ k then some (answerAt (UInt8.ofNat k)) else none
    ∃ n', sendBurst (sx127xDriver 4 fun _ _ => 0) [some (emptyPacket 2 1 7 0)] ⟨radioAt arrivals, zeroBuffer⟩ =
        .ok (.sxOk, n') ∧ 2 ≤ n'.radio.world.log.length ∧
      ∃ lost : List Reception, SendsBurst (fun _ => 0) [some (emptyPacket 2 1 7 0)] ([] ++ lost.map .heard) .sxOk
        n'.radio.world.log := by
  intro arrivals
  obtain ⟨ret, n', hrun, rfl, hlog⟩ := Prog.returns
    (x := sendBurst (sx127xDriver 4 fun _ _ => 0) [some (emptyPacket 2 1 7 0)])
    (s := ⟨radioAt arrivals, zeroBuffer⟩)
    (fun ret n' => ret = .sxOk ∧ 2 ≤ n'.radio.world.log.length) (by decide +kernel)
  exact ⟨n', hrun, hlog, send_burst_on_air (fun _ => 0) 4 _ _ rfl rfl rfl _ _ hrun⟩

end LoraNetworking.Transceiver
