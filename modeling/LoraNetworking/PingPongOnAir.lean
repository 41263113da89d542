import LoraNetworking.BurstExampleOnAir
import LoraNetworking.PingPong

/-! The ping pong example on two radios in the air. -/

namespace LoraNetworking.Transceiver

open StateProg PingPong

section Sized

variable {t : Transceiver} {payload : PayloadRead}

lemma answer_length (t : Transceiver) (reg : UInt8) (len : ℕ) : (t.answer reg len).length = len := by
  rw [answer]
  split_ifs
  · simp [load]
  · simp [load]

def Sized (payload : PayloadRead) : Prop := ∀ n, payload.len = some n → payload.stored.length = n

lemma cleared_sized {P : Transceiver → Prop} (h : Sized payload) :
    Triple (On P) (sx1278ClearIrq >>= fun _ => pure payload) fun payload _ => Sized payload := by
  have hclear : Triple (On P) sx1278ClearIrq fun ret m => ret = .sxOk ∧ On (fun _ => True) m :=
    on_write fun _ _ => trivial
  exact hclear.bind fun _ => .pure fun _ _ => h

lemma readLastPayload_sized : Triple (On fun _ => True) sx1278ReadLastPayload fun payload _ => Sized payload := by
  have hfailed : ∀ ret stored, Sized ⟨ret, stored, none⟩ := fun _ _ n hn => absurd hn (by simp)
  refine .passed (on_write (Q := fun _ => True) fun _ _ => trivial) ?_
  refine .bind (on_readByte (Q := fun _ _ => True) (by decide) fun _ _ => trivial) fun out => ?_
  obtain ⟨ret, flags⟩ := out
  refine .given fun _ => .ite (fun _ => .pure fun _ _ => hfailed _ _) fun _ => ?_
  refine .ite (fun _ => cleared_sized (hfailed _ _)) fun _ => .ite (fun _ => cleared_sized (hfailed _ _)) fun _ => ?_
  refine .bind (on_readByte (Q := fun _ _ => True) (by decide) fun _ _ => trivial) fun out => ?_
  obtain ⟨_, n⟩ := out
  refine .given fun _ => .bind (on_readByte (Q := fun _ _ => True) (by decide) fun _ _ => trivial) fun out => ?_
  obtain ⟨ret, a⟩ := out
  refine .given fun _ => .ite (fun _ => cleared_sized (hfailed _ _)) fun _ => ?_
  refine .bind (on_write (Q := fun _ => True) fun _ _ => trivial) fun ret => .given fun _ => ?_
  refine .ite (fun _ => cleared_sized (hfailed _ _)) fun _ => ?_
  refine .bind (on_read (Q := fun stored _ => stored.length = n.toNat) fun t _ => answer_length _ _ _) fun out => ?_
  obtain ⟨ret, stored⟩ := out
  apply Triple.given
  rintro - m payload m' hm hrun
  have hlen : stored.length = n.toNat := hm.2.2
  refine (?_ : Triple (On fun _ => True) _ fun payload _ => Sized payload) m payload m'
    (hm.mono fun _ _ => trivial) hrun
  refine .ite (fun _ => cleared_sized (hfailed _ _)) fun _ => cleared_sized fun k hk => ?_
  exact hlen.trans (Option.some.inj hk)

end Sized

section Waiting

variable {fuel timeoutMs : ℕ} {base : List AirEvent} {hs : List Reception} {text : List UInt8} {buf : Buf}

lemma holds_frame {frame : List UInt8} {payload : PayloadRead} (hstored : payload.stored = frame.map some)
    (hsized : Sized payload) (hfits : ¬ 64 < payload.stored.length)
    (h : holds text (Vector.ofFn fun i : Fin 64 => ((payload.stored[i]?).join).getD buf[i]) payload.len) :
    frame = text := by
  obtain ⟨hlen, htake⟩ := h
  have hlength : frame.length = text.length := by
    rw [← hsized _ hlen, hstored, List.length_map]
  rw [hstored, List.length_map] at hfits
  rw [← htake]
  apply List.ext_getElem
  · simp [hlength]
    omega
  · intro i hi hi'
    simp [hstored, hi]

/-- The batch `hs` was heard. When the role goes on, it ended with the text. -/
def AwaitEnds (base : List AirEvent) (text : List UInt8) (out : Option Failure × Buf)
    (m : Machine Transceiver) : Prop :=
  ∃ hs, On (Begun False (base ++ hs.map .heard)) m ∧
    (out.1 = none → batchFrame hs = text ∧ On (Silent (base ++ hs.map .heard)) m)

lemma AwaitEnds.failed {failure : Failure} {m : Machine Transceiver}
    (h : On (Begun False (base ++ hs.map .heard)) m) : AwaitEnds base text (some failure, buf) m :=
  ⟨hs, h, fun hnone => absurd hnone (Option.some_ne_none _)⟩

lemma await_pending : Triple (On (Pending base hs)) (await fuel timeoutMs text buf) (AwaitEnds base text) := by
  intro m out m' hm hrun
  obtain ⟨ret, m₁, hpoll, hrest⟩ := Prog.bind_ok.mp hrun
  rcases hearing_watched.poll _ _ _ (hm.mono fun t ht => ⟨hs, ht⟩) hpoll with
    ⟨rfl, hport, htimer, hs', -, hpending⟩ | ⟨rfl, hport, htimer, hs', hpending⟩
  · rw [if_neg (not_not.mpr rfl)] at hrest
    obtain ⟨payload, m₂, hread, hrest⟩ := Prog.bind_ok.mp hrest
    have hsized := readLastPayload_sized _ _ _ ⟨hport, htimer, trivial⟩ hread
    obtain ⟨hs'', hstored, hsilent⟩ := readLastPayload_pending _ _ _ ⟨hport, htimer, hpending⟩ hread
    have hbegun := hsilent.mono fun t ht => ht.begun False
    dsimp only at hrest
    split_ifs at hrest with hlong hfailed hother
    · simp at hrest
    · obtain ⟨rfl, rfl⟩ : _ = out ∧ m₂ = m' := by simpa using hrest
      exact .failed hbegun
    · obtain ⟨rfl, rfl⟩ : _ = out ∧ m₂ = m' := by simpa using hrest
      exact ⟨_, hbegun, fun _ => ⟨holds_frame hstored hsized hlong hother, hsilent⟩⟩
    · obtain ⟨rfl, rfl⟩ : _ = out ∧ m₂ = m' := by simpa using hrest
      exact .failed hbegun
  · obtain ⟨rfl, rfl⟩ : _ = out ∧ m₁ = m' := by simpa using hrest
    exact .failed ⟨hport, htimer, hpending.begun⟩

end Waiting

section Roles

variable {fuel rounds : ℕ} {base : List AirEvent} {hs : List Reception} {quiet : Prop} {buf : Buf}

def pinged (hs : List Reception) : List AirEvent := .sent pingStr :: hs.map .heard

def ponged (hs : List Reception) : List AirEvent := hs.map .heard ++ [.sent pongStr]

def Passes (base : List AirEvent) (rounds : ℕ) (failure : Option Failure) (log : List AirEvent) : Prop :=
  failure = none → ∃ batches : List (List Reception), batches.length = rounds ∧
    (∀ hs ∈ batches, batchFrame hs = pongStr) ∧ log = base ++ batches.flatMap pinged

lemma senderRounds_begun : Triple (On (Begun quiet base)) (senderRounds fuel rounds buf) fun failure m =>
    ∃ lost : List Reception, (quiet → lost = []) ∧
      Passes (base ++ lost.map .heard) rounds failure m.world.log := by
  induction rounds generalizing quiet base buf with
  | zero =>
    apply Triple.pure
    intro m hm
    refine ⟨[], fun _ => rfl, fun _ => ⟨[], rfl, by simp, ?_⟩⟩
    simp [hm.2.2.log]
  | succ rounds ih =>
    refine .bind (sendPayload_begun (by decide)) fun ret => .exists_pre fun lost => .given fun hlost => ?_
    refine Triple.mono ?_ (fun _ hm => hm) fun _ _ hm => ⟨lost, hlost, hm⟩
    generalize base ++ lost.map AirEvent.heard = base
    refine .or (.given fun hret => ?_) (.given fun hret => ?_)
    · rw [if_neg (not_not.mpr hret)]
      refine Triple.mono ?_ (fun m hm => hm.mono fun t ht => ht.1) fun _ _ hm => hm
      refine .bind await_pending fun out => .exists_pre fun hs => ?_
      obtain ⟨failure, buf⟩ := out
      apply Triple.ite
      · intro hfailed
        exact .pure fun m _ hnone => absurd hnone hfailed
      · intro hnone
        rintro m failure' m' ⟨-, hpong⟩ hrun
        obtain ⟨hframe, hsilent⟩ := hpong (not_not.mp hnone)
        obtain ⟨lost', hlost', hpasses⟩ := ih _ _ _ (hsilent.mono fun t ht => ht.begun True) hrun
        obtain rfl := hlost' trivial
        intro hpassed
        obtain ⟨batches, hlength, hpongs, hlog⟩ := hpasses hpassed
        refine ⟨hs :: batches, congrArg (· + 1) hlength, List.forall_mem_cons.mpr ⟨hframe, hpongs⟩, ?_⟩
        simpa [pinged, pingStr] using hlog
    · rw [if_pos (by simp [hret])]
      exact .pure fun m _ hnone => absurd hnone (by simp)

/-- A receiver answers batch after batch that ends with a ping. When it has answered the last, only the end of its
pong may not have been seen. -/
def Answers (base : List AirEvent) (rounds : ℕ) (failure : Option Failure) (log : List AirEvent) : Prop :=
  ∃ (batches : List (List Reception)) (late : List Reception), batches.length ≤ rounds ∧
    (∀ hs ∈ batches, batchFrame hs = pingStr) ∧ log = base ++ batches.flatMap ponged ++ late.map .heard ∧
    (batches.length = rounds → failure = none ∨ failure = some .sending)

lemma Answers.cons {failure : Option Failure} {log : List AirEvent}
    (hping : batchFrame hs = pingStr) (h : Answers (base ++ ponged hs) rounds failure log) :
    Answers base (rounds + 1) failure log := by
  obtain ⟨batches, late, hfew, hpings, hlog, hend⟩ := h
  refine ⟨hs :: batches, late, Nat.succ_le_succ hfew, List.forall_mem_cons.mpr ⟨hping, hpings⟩, ?_, ?_⟩
  · simpa using hlog
  · exact fun hall => hend (Nat.succ_injective hall)

lemma receiverRounds_pending : Triple (On (Pending base hs)) (receiverRounds fuel rounds buf) fun failure m =>
    Answers base rounds failure (aired m.world) := by
  induction rounds generalizing base hs buf with
  | zero =>
    apply Triple.pure
    intro m hm
    refine ⟨[], hs, le_rfl, by simp, ?_, fun _ => Or.inl rfl⟩
    rw [aired_idle hm.2.2.idle, hm.2.2.log]
    simp
  | succ rounds ih =>
    refine .bind await_pending fun out => .exists_pre fun hs => ?_
    obtain ⟨failure, buf⟩ := out
    apply Triple.ite
    · intro _
      apply Triple.pure
      rintro m ⟨hm, -⟩
      refine ⟨[], hs, Nat.zero_le _, by simp, ?_, fun hall => absurd hall (by simp)⟩
      rw [aired_idle hm.2.2.idle, hm.2.2.log]
      simp
    · intro hnone
      rintro m failure' m' ⟨-, hping⟩ hrun
      obtain ⟨hframe, hsilent⟩ := hping (not_not.mp hnone)
      obtain ⟨ret, m₁, hsend, hrest⟩ := Prog.bind_ok.mp hrun
      obtain ⟨lost, hlost, hends⟩ :=
        sendPayload_begun (by decide) _ _ _ (hsilent.mono fun t ht => ht.begun True) hsend
      obtain rfl := hlost trivial
      rw [List.map_nil, List.append_nil] at hends
      rcases hends with ⟨rfl, hm⟩ | ⟨rfl, hm⟩
      · rw [if_neg (not_not.mpr rfl)] at hrest
        have hanswers := ih _ _ _ (hm.mono fun t ht => ht.1) hrest
        rw [List.append_assoc] at hanswers
        exact hanswers.cons hframe
      · obtain ⟨rfl, rfl⟩ : _ = failure' ∧ m₁ = m' := by simpa using hrest
        refine ⟨[hs], [], Nat.succ_le_succ (Nat.zero_le _), by simpa using hframe, ?_, fun _ => Or.inr rfl⟩
        rw [hm.2.2.aired, List.append_assoc]
        simp [ponged, pongStr]

lemma runReceiver_pending : Triple (On (Pending base hs)) (runReceiver fuel rounds buf) fun failure m =>
    Answers base rounds failure (aired m.world) := by
  refine .bind (pending_mode (by decide)) fun ret => .given fun hret => .exists_pre fun hs' => ?_
  rw [if_neg (not_not.mpr hret)]
  exact receiverRounds_pending.mono (fun m hm => hm.mono fun t ht => ht.1) fun _ _ hm => hm

end Roles

section Counting

variable {air : List Crossing} {hs : List Reception}

/-- What arrives undamaged of a receiver's frame is the frame, and nobody else says pong. -/
def Crossing.PongFair : Crossing → Prop
  | .fromReceiver frame reception => ∀ r, reception = some r → r.damaged = false → r.frame = frame
  | .strayAtSender r => r.damaged = false → r.frame ≠ pongStr
  | _ => True

def pongHeard : AirEvent → Bool
  | .heard r => r.damaged = false ∧ r.frame = pongStr
  | .sent _ => false

def pongSent : AirEvent → Bool
  | .heard _ => false
  | .sent frame => frame = pongStr

lemma pong_crossing {c : Crossing} (h : c.PongFair) : c.atSender.countP pongHeard ≤ c.atReceiver.countP pongSent := by
  cases c with
  | fromSender frame reception => simp [Crossing.atSender, pongHeard]
  | fromReceiver frame reception =>
    cases reception with
    | none => simp [Crossing.atSender]
    | some r =>
      by_cases hr : r.damaged = false ∧ r.frame = pongStr
      · have hframe := h r rfl hr.1
        simp [Crossing.atSender, Crossing.atReceiver, pongHeard, pongSent, hr, ← hframe]
      · simp [Crossing.atSender, pongHeard, hr]
  | strayAtSender r =>
    have hr : ¬ (r.damaged = false ∧ r.frame = pongStr) := fun hr => h hr.1 hr.2
    simp [Crossing.atSender, pongHeard, hr]
  | strayAtReceiver r => simp [Crossing.atSender]

lemma pongs_le (h : ∀ c ∈ air, c.PongFair) :
    (air.flatMap Crossing.atSender).countP pongHeard ≤ (air.flatMap Crossing.atReceiver).countP pongSent := by
  induction air with
  | nil => exact le_rfl
  | cons c air ih =>
    rw [List.flatMap_cons, List.flatMap_cons, List.countP_append, List.countP_append]
    exact Nat.add_le_add (pong_crossing (h c List.mem_cons_self)) (ih fun d hd => h d (List.mem_cons_of_mem _ hd))

lemma pong_heard (h : batchFrame hs = pongStr) : 1 ≤ (pinged hs).countP pongHeard := by
  by_cases hdamaged : ∃ r ∈ hs, r.damaged = true
  · rw [batchFrame_damaged hdamaged] at h
    exact absurd h (by decide)
  · cases hlast : hs.getLast? with
    | none =>
      obtain rfl := List.getLast?_eq_none_iff.mp hlast
      exact absurd h (by decide)
    | some r =>
      rw [batchFrame_last hdamaged hlast] at h
      have hr : r ∈ hs := List.mem_of_getLast? hlast
      have hwhole : r.damaged = false := by simpa using fun hd => hdamaged ⟨r, hr, hd⟩
      apply List.countP_pos_iff.mpr
      exact ⟨.heard r, List.mem_cons_of_mem _ (List.mem_map_of_mem hr), by simp [pongHeard, hwhole, h]⟩

lemma pongs_heard (batches : List (List Reception)) (h : ∀ hs ∈ batches, batchFrame hs = pongStr) :
    batches.length ≤ (batches.flatMap pinged).countP pongHeard := by
  induction batches with
  | nil => exact le_rfl
  | cons hs batches ih =>
    rw [List.forall_mem_cons] at h
    rw [List.flatMap_cons, List.countP_append, List.length_cons, Nat.add_comm]
    exact Nat.add_le_add (pong_heard h.1) (ih h.2)

lemma heard_no_pong (hs : List Reception) : (hs.map AirEvent.heard).countP pongSent = 0 := by
  simp [List.countP_eq_zero, pongSent]

lemma pongs_sent (batches : List (List Reception)) : (batches.flatMap ponged).countP pongSent = batches.length := by
  induction batches with
  | nil => rfl
  | cons hs batches ih =>
    rw [List.flatMap_cons, List.countP_append, ponged, List.countP_append, heard_no_pong, ih, List.length_cons,
      Nat.zero_add, Nat.add_comm]
    rfl

end Counting

/-- In each round a ping was sent and a pong heard, and a ping was heard and a pong sent. -/
structure Exchanged (rounds : ℕ) (air : List Crossing) (pongs pings : List (List Reception))
    (lost late : List Reception) : Prop where
  pongs_length : pongs.length = rounds
  pings_length : pings.length = rounds
  each_pong : ∀ hs ∈ pongs, batchFrame hs = pongStr
  each_ping : ∀ hs ∈ pings, batchFrame hs = pingStr
  sender : air.flatMap Crossing.atSender = lost.map .heard ++ pongs.flatMap pinged
  receiver : air.flatMap Crossing.atReceiver = pings.flatMap ponged ++ late.map .heard

/-- When the sender of the example prints "test passed", the receiver has heard a ping and answered it in each of its
rounds, whatever else the air lost, damaged or added; it reports success, or that it did not see the end of its last
pong. The receiver starts with no flag set. -/
theorem ping_pong_on_air (fuelS fuelR rounds : ℕ) (bufS bufR : Buf) (mS mR : Machine Transceiver)
    (hS : On (fun t => t.transmission = none) mS) (hR : On (fun t => t.transmission = none ∧ t.regs 0x12 = 0) mR)
    (failure : Option Failure) (nS nR : Machine Transceiver)
    (hsend : senderRounds fuelS rounds bufS mS = .ok (none, nS))
    (hreceive : runReceiver fuelR rounds bufR mR = .ok (failure, nR))
    (air : List Crossing) (hfair : ∀ c ∈ air, c.PongFair)
    (hSair : nS.world.log = mS.world.log ++ air.flatMap Crossing.atSender)
    (hRair : aired nR.world = mR.world.log ++ air.flatMap Crossing.atReceiver) :
    (failure = none ∨ failure = some .sending) ∧
      ∃ (pongs pings : List (List Reception)) (lost late : List Reception),
        Exchanged rounds air pongs pings lost late := by
  have hsender : On (Begun False mS.world.log) mS := ⟨hS.1, hS.2.1, rfl, hS.2.2, False.elim⟩
  have hreceiver : On (Pending mR.world.log []) mR := ⟨hR.1, hR.2.1, cleared_pending rfl hR.2.2.1 hR.2.2.2⟩
  obtain ⟨lost, -, hpasses⟩ := senderRounds_begun _ _ _ hsender hsend
  obtain ⟨pongs, hlength, hpongs, hlog⟩ := hpasses rfl
  obtain ⟨pings, late, hfew, hpings, haired, hend⟩ := runReceiver_pending _ _ _ hreceiver hreceive
  rw [hSair, List.append_assoc] at hlog
  rw [hRair, List.append_assoc] at haired
  have hheard := List.append_cancel_left hlog
  have hsent := List.append_cancel_left haired
  have hall : rounds ≤ pings.length := by
    calc rounds = pongs.length := hlength.symm
      _ ≤ (pongs.flatMap pinged).countP pongHeard := pongs_heard pongs hpongs
      _ ≤ (air.flatMap Crossing.atSender).countP pongHeard := by
        rw [hheard, List.countP_append]
        exact Nat.le_add_left _ _
      _ ≤ (air.flatMap Crossing.atReceiver).countP pongSent := pongs_le hfair
      _ = pings.length := by
        rw [hsent, List.countP_append, pongs_sent, heard_no_pong, Nat.add_zero]
  have hrounds : pings.length = rounds := le_antisymm hfew hall
  exact ⟨hend hrounds, pongs, pings, lost, late, ⟨hlength, hrounds, hpongs, hpings, hheard, hsent⟩⟩

theorem ping_pong_on_air_example :
    ∃ (mS mR nS nR : Machine Transceiver) (failure : Option Failure),
      senderRounds 4 5 (Vector.replicate 64 0) mS = .ok (none, nS) ∧
      runReceiver 4 5 (Vector.replicate 64 0) mR = .ok (failure, nR) ∧ (failure = none ∨ failure = some .sending) := by
  let ping : Reception := ⟨pingStr, false, 0, by decide⟩
  let pong : Reception := ⟨pongStr, false, 0, by decide⟩
  let mS := radioAt fun k => if k < 95 ∧ k % 19 = 11 then some pong else none
  let mR := radioAt fun k => if k < 95 ∧ k % 19 = 1 then some ping else none
  let round : List Crossing := [.fromSender pingStr (some ping), .fromReceiver pongStr (some pong)]
  let air := (List.replicate 5 round).flatten
  obtain ⟨failure, nS, hsend, rfl, hS⟩ := Prog.returns (x := senderRounds 4 5 (Vector.replicate 64 0)) (s := mS)
    (fun failure m => failure = none ∧ m.world.log = air.flatMap Crossing.atSender) (by decide +kernel)
  obtain ⟨failure, nR, hreceive, hR⟩ := Prog.returns (x := runReceiver 4 5 (Vector.replicate 64 0)) (s := mR)
    (fun _ m => aired m.world = air.flatMap Crossing.atReceiver) (by decide +kernel)
  have hfair : ∀ c ∈ air, c.PongFair := by
    simp [air, round, Crossing.PongFair, pong]
  have hpassed := ping_pong_on_air 4 4 5 _ _ mS mR ⟨rfl, rfl, rfl⟩ ⟨rfl, rfl, rfl, rfl⟩ failure nS nR hsend hreceive
    air hfair hS hR
  exact ⟨mS, mR, nS, nR, failure, hsend, hreceive, hpassed.1⟩

end LoraNetworking.Transceiver
