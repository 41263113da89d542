import LoraNetworking.BurstOrder
import LoraNetworking.SharedAir
import Mathlib.Data.Fintype.Card

/-! Any number of nodes that run the receive loop and any number of senders of bursts on one channel.
The loop answers a frame before it looks at it, an ack as well: what is answered is what is heard. -/

namespace LoraNetworking

open StateProg

def FromSendBurst (frame : List UInt8) : Prop :=
  ∃ (σ : Type) (d : Driver σ) (ps : List Packet) (radio : σ) (buf : RxBuffer) (ret sendRet : Sx127xErr)
    (n' : Node (Logged σ)), sendBurst d.logged (ps.map some) ⟨⟨radio, []⟩, buf⟩ = .ok (ret, n') ∧
      (frame, sendRet) ∈ sentFrames n'.radio.calls

inductive Station
  | sender
  | rxLoop
deriving DecidableEq

structure Reply where
  answers : Station
  frame : List UInt8

structure Network (ι : Type) where
  node : ι → Receiver
  owed : ι → List Reply

inductive Transmission (ι : Type)
  | sent (frame : List UInt8) (receivers : Finset ι)
  | acked (node : ι) (reply : Reply) (receivers : Finset ι)

section Network

variable {ι : Type}

def Transmission.origin : Transmission ι → Station
  | .sent _ _ => .sender
  | .acked _ _ _ => .rxLoop

def Transmission.receivers : Transmission ι → Finset ι
  | .sent _ receivers => receivers
  | .acked _ _ receivers => receivers

def Transmission.answers : Transmission ι → Option Station
  | .sent _ _ => none
  | .acked _ reply _ => some reply.answers

def receptions (o : Station) (ts : List (Transmission ι)) : ℕ :=
  (ts.map fun t => if t.origin = o then t.receivers.card else 0).sum

def replies (o : Station) (ts : List (Transmission ι)) : ℕ := ts.countP fun t => t.answers = some o

def acks (ts : List (Transmission ι)) : ℕ := ts.countP fun t => t.origin = .rxLoop

variable [DecidableEq ι]

def Network.deliver (net : Network ι) (o : Station) (frame : List UInt8) (receivers : Finset ι) :
    Network ι where
  node i := if i ∈ receivers then (react frame (net.node i)).1 else net.node i
  owed i :=
    if i ∈ receivers then net.owed i ++ (react frame (net.node i)).2.map (Reply.mk o) else net.owed i

def Network.answered (net : Network ι) (i : ι) : Network ι :=
  { net with owed := Function.update net.owed i (net.owed i).tail }

/-- A node that still has to answer does not listen, and no node hears itself. -/
inductive Step : Network ι → Transmission ι → Network ι → Prop
  | sent {net frame receivers} : FromSendBurst frame → (∀ i ∈ receivers, net.owed i = []) →
      Step net (.sent frame receivers) (net.deliver .sender frame receivers)
  | acked {net i reply rest receivers} : net.owed i = reply :: rest →
      (∀ j ∈ receivers, j ≠ i ∧ net.owed j = []) →
      Step net (.acked i reply receivers) ((net.answered i).deliver .rxLoop reply.frame receivers)

inductive Run : Network ι → List (Transmission ι) → Network ι → Prop
  | nil {net} : Run net [] net
  | cons {net t mid ts net'} : Step net t mid → Run mid ts net' → Run net (t :: ts) net'

variable [Fintype ι]

def Network.owing (net : Network ι) (o : Station) : ℕ :=
  ∑ i, (net.owed i).countP fun reply => reply.answers = o

def NeverAcknowledged (net : Network ι) : Prop :=
  ∀ ts net', Run net ts net' → ∀ t ∈ ts, t.answers ≠ some .rxLoop

def AcksBounded (net : Network ι) : Prop :=
  ∀ ts net', Run net ts net' → acks ts ≤ receptions .sender ts

def FallsSilent (net : Network ι) : Prop :=
  ∀ ts mid, Run net ts mid → ∃ bound, ∀ us net', Run mid us net' → (∀ t ∈ us, t.origin = .rxLoop) →
    us.length ≤ bound

def Network.AcksOwed (net : Network ι) : Prop :=
  ∀ i, ∀ reply ∈ net.owed i, ∃ q, reply.frame = encode (ackFor q)

end Network

section Sender

lemma Attempted.bounded {σ : Type} {d : Driver σ} {p rxP : Packet} {n n' : Node σ} {a : SendAttempt}
    (h : Attempted d p rxP n a n') : p.payloadLength.toNat ≤ payloadLengthMax := by
  cases a with
  | unsent ret => exact sx1278SendPacket_bounded h.2
  | sent ret q =>
    obtain ⟨n₁, hsend, -⟩ := h
    exact sx1278SendPacket_bounded hsend

lemma Exchanges.bounded {σ : Type} {d : Driver σ} {ps : List Packet} {n n' : Node σ}
    {xs : List (List SendAttempt)} (h : Exchanges d ps n xs n') {frame : List UInt8} {ret : Sx127xErr}
    (hmem : (frame, ret) ∈ burstSends ps xs) :
    ∃ p, p.payloadLength.toNat ≤ payloadLengthMax ∧ frame = encode p := by
  induction h with
  | nil => simp [burstSends] at hmem
  | cons has _ _ ih =>
    rw [burstSends, List.zip_cons_cons, List.flatMap_cons, List.mem_append] at hmem
    cases hmem with
    | inl hfirst =>
      obtain ⟨a, ha, hframe⟩ := List.mem_map.mp hfirst
      obtain ⟨rfl, -⟩ := Prod.mk.inj hframe
      cases has with
      | nil => simp at ha
      | cons hattempt _ => exact ⟨_, hattempt.bounded, rfl⟩
    | inr hrest => exact ih hrest

lemma fromSendBurst_iff {frame : List UInt8} :
    FromSendBurst frame ↔ ∃ p, p.payloadLength.toNat ≤ payloadLengthMax ∧ frame = encode p := by
  constructor
  · rintro ⟨σ, d, ps, radio, buf, ret, sendRet, n', hrun, hmem⟩
    obtain ⟨xs, hxs, -⟩ := sendBurstFrom_run hrun
    have hframes : sentFrames n'.radio.calls = burstSends ps xs := hxs.sentFrames
    rw [hframes] at hmem
    exact hxs.bounded hmem
  · rintro ⟨p, hmax, rfl⟩
    have hps : ∀ q ∈ [p], q.payloadLength.toNat ≤ payloadLengthMax := by simpa using hmax
    obtain ⟨ret, n', hrun, -⟩ := firstReplyLost_responsive.logged.sendBurstFrom hps 1 0
      ⟨⟨0, []⟩, zeroBuffer⟩ rfl
    obtain ⟨xs, hxs, hrecord⟩ := sendBurstFrom_run hrun
    cases hxs with
    | nil => exact absurd rfl (hrecord.begun (by simp))
    | cons has hclosed hrest =>
      rename_i as n₁ n₂ xs
      obtain ⟨hpos, -⟩ := hrecord.tries as (by simp)
      obtain ⟨a, ha⟩ := List.exists_mem_of_length_pos hpos
      refine ⟨ℕ, firstReplyLost, [p], 0, zeroBuffer, ret, a.sendRet, n', hrun, ?_⟩
      have hframes : sentFrames n'.radio.calls = burstSends [p] (as :: xs) :=
        (Exchanges.cons has hclosed hrest).sentFrames
      rw [hframes, burstSends, List.zip_cons_cons, List.flatMap_cons]
      apply List.mem_append_left
      exact List.mem_map.mpr ⟨a, ha, rfl⟩

end Sender

section Accounts

variable {ι : Type} {net mid net' : Network ι} {t : Transmission ι} {ts us : List (Transmission ι)}
  {o : Station} {p : Packet} {receivers : Finset ι} {reply : Reply} {i j : ι}

lemma receptions_cons (o : Station) (t : Transmission ι) (ts : List (Transmission ι)) :
    receptions o (t :: ts) = (if t.origin = o then t.receivers.card else 0) + receptions o ts := by
  rw [receptions, List.map_cons, List.sum_cons]
  rfl

lemma replies_cons (o : Station) (t : Transmission ι) (ts : List (Transmission ι)) :
    replies o (t :: ts) = replies o ts + if t.answers = some o then 1 else 0 := by
  simp [replies, List.countP_cons]

lemma acks_eq (ts : List (Transmission ι)) : acks ts = replies .sender ts + replies .rxLoop ts := by
  induction ts with
  | nil => rfl
  | cons t ts ih =>
    have hacks : acks (t :: ts) = acks ts + if t.origin = .rxLoop then 1 else 0 := by
      simp [acks, List.countP_cons]
    rw [hacks, ih, replies_cons, replies_cons]
    cases t with
    | sent frame receivers => simp [Transmission.origin, Transmission.answers]
    | acked i reply receivers =>
      cases hr : reply.answers with
      | sender => simp [Transmission.origin, Transmission.answers, hr, Nat.add_right_comm]
      | rxLoop => simp [Transmission.origin, Transmission.answers, hr, Nat.add_assoc]

lemma acks_of_quiet (hquiet : ∀ t ∈ ts, t.origin = .rxLoop) : acks ts = ts.length :=
  List.countP_eq_length.mpr (by simpa using hquiet)

lemma receptions_of_quiet (hquiet : ∀ t ∈ ts, t.origin = .rxLoop) : receptions .sender ts = 0 := by
  rw [receptions, List.sum_eq_zero_iff]
  intro n hn
  obtain ⟨t, ht, rfl⟩ := List.mem_map.mp hn
  rw [hquiet t ht, if_neg (by decide)]

lemma exists_reply (hpos : 0 < replies o ts) : ∃ t ∈ ts, t.answers = some o := by
  obtain ⟨t, ht, hanswers⟩ := List.countP_pos_iff.mp hpos
  exact ⟨t, ht, by simpa using hanswers⟩

lemma acksOwed_of_idle (hstart : ∀ i, net.owed i = []) : net.AcksOwed := by
  intro i reply hi
  rw [hstart i] at hi
  exact absurd hi List.not_mem_nil

lemma Network.AcksOwed.head (h : net.AcksOwed) {rest : List Reply} (howed : net.owed i = reply :: rest) :
    ∃ q, reply.frame = encode (ackFor q) :=
  h i reply (by simp [howed])

variable [DecidableEq ι]

lemma owed_deliver (net : Network ι) (o : Station) (receivers : Finset ι)
    (hmax : p.payloadLength.toNat ≤ payloadLengthMax) (i : ι) :
    (net.deliver o (encode p) receivers).owed i =
      net.owed i ++ if i ∈ receivers then [⟨o, encode (ackFor p)⟩] else [] := by
  rw [Network.deliver]
  simp only [react_encode hmax, List.map_singleton]
  split_ifs
  · rfl
  · rw [List.append_nil]

lemma owed_answered (i j : ι) :
    (net.answered i).owed j = if j = i then (net.owed i).tail else net.owed j := by
  rw [Network.answered]
  exact Function.update_apply net.owed i (net.owed i).tail j

lemma Network.AcksOwed.deliver (h : net.AcksOwed) (hmax : p.payloadLength.toNat ≤ payloadLengthMax) :
    (net.deliver o (encode p) receivers).AcksOwed := by
  intro i reply hi
  rw [owed_deliver _ _ _ hmax] at hi
  cases List.mem_append.mp hi with
  | inl hold => exact h i reply hold
  | inr hnew =>
    split_ifs at hnew
    · obtain rfl := List.mem_singleton.mp hnew
      exact ⟨p, rfl⟩
    · exact absurd hnew List.not_mem_nil

lemma Network.AcksOwed.answered (h : net.AcksOwed) (i : ι) : (net.answered i).AcksOwed := by
  intro j reply hj
  rw [owed_answered] at hj
  split_ifs at hj
  · exact h i reply (List.mem_of_mem_tail hj)
  · exact h j reply hj

lemma Step.acksOwed (hnet : net.AcksOwed) (h : Step net t mid) : mid.AcksOwed := by
  cases h with
  | sent hframe hidle =>
    obtain ⟨p, hmax, rfl⟩ := fromSendBurst_iff.mp hframe
    exact hnet.deliver hmax
  | acked howed hidle =>
    obtain ⟨q, hq⟩ := hnet.head howed
    rw [hq]
    exact (hnet.answered _).deliver (ackFor_bounded q)

lemma Run.acksOwed (hnet : net.AcksOwed) (h : Run net ts net') : net'.AcksOwed := by
  induction h with
  | nil => exact hnet
  | cons hstep _ ih => exact ih (hstep.acksOwed hnet)

variable [Fintype ι]

lemma owing_deliver (net : Network ι) (o o' : Station) (receivers : Finset ι)
    (hmax : p.payloadLength.toNat ≤ payloadLengthMax) :
    (net.deliver o (encode p) receivers).owing o' =
      net.owing o' + if o = o' then receivers.card else 0 := by
  have hone : ∀ i, ((net.deliver o (encode p) receivers).owed i).countP (fun reply => reply.answers = o') =
      (net.owed i).countP (fun reply => reply.answers = o') +
        if i ∈ receivers then (if o = o' then 1 else 0) else 0 := by
    intro i
    rw [owed_deliver _ _ _ hmax, List.countP_append]
    by_cases hi : i ∈ receivers <;> by_cases ho : o = o' <;> simp [hi, ho]
  calc (net.deliver o (encode p) receivers).owing o'
      = ∑ i, ((net.owed i).countP (fun reply => reply.answers = o') +
          if i ∈ receivers then (if o = o' then 1 else 0) else 0) := Finset.sum_congr rfl fun i _ => hone i
    _ = net.owing o' + ∑ i, if i ∈ receivers then (if o = o' then 1 else 0) else 0 := Finset.sum_add_distrib
    _ = net.owing o' + if o = o' then receivers.card else 0 := by
      rw [Finset.sum_ite_mem, Finset.univ_inter, Finset.sum_const, smul_eq_mul, mul_ite, mul_one, mul_zero]

lemma owing_answered {rest : List Reply} (howed : net.owed i = reply :: rest) :
    (net.answered i).owing o + (if reply.answers = o then 1 else 0) = net.owing o := by
  have hothers : ∀ j ∈ Finset.univ.erase i, ((net.answered i).owed j).countP (fun r => r.answers = o) =
      (net.owed j).countP fun r => r.answers = o := by
    intro j hj
    rw [owed_answered, if_neg (Finset.ne_of_mem_erase hj)]
  have hself : ((net.answered i).owed i).countP (fun r => r.answers = o) + (if reply.answers = o then 1 else 0) =
      (net.owed i).countP fun r => r.answers = o := by
    rw [owed_answered, if_pos rfl, howed, List.tail_cons, List.countP_cons]
    simp
  rw [Network.owing, Network.owing, ← Finset.add_sum_erase _ _ (Finset.mem_univ i),
    ← Finset.add_sum_erase _ _ (Finset.mem_univ i), Finset.sum_congr rfl hothers, ← hself]
  omega

lemma Step.accounted (hnet : net.AcksOwed) (h : Step net t mid) (o : Station) :
    mid.owing o + (if t.answers = some o then 1 else 0) =
      net.owing o + if t.origin = o then t.receivers.card else 0 := by
  cases h with
  | sent hframe hidle =>
    obtain ⟨p, hmax, rfl⟩ := fromSendBurst_iff.mp hframe
    exact owing_deliver net .sender o _ hmax
  | @acked i reply rest receivers howed hidle =>
    obtain ⟨q, hq⟩ := hnet.head howed
    have hdeliver := owing_deliver (net.answered i) .rxLoop o receivers (ackFor_bounded q)
    simp only [Transmission.answers, Transmission.origin, Transmission.receivers, Option.some.injEq]
    rw [hq, hdeliver, Nat.add_right_comm, owing_answered howed]
    rfl

lemma Run.accounted (hnet : net.AcksOwed) (h : Run net ts net') (o : Station) :
    replies o ts + net'.owing o = net.owing o + receptions o ts := by
  induction h with
  | nil => simp [replies, receptions]
  | cons hstep _ ih =>
    have hone := hstep.accounted hnet o
    have hrest := ih (hstep.acksOwed hnet)
    rw [replies_cons, receptions_cons]
    omega

omit [DecidableEq ι] in
lemma owing_of_idle (hstart : ∀ i, net.owed i = []) (o : Station) : net.owing o = 0 := by
  simp [Network.owing, hstart]

end Accounts

/-- What holds of the acks in every run: each reception is answered once. With no ack heard by a node that
runs the loop, acks are not acknowledged, and they end with the replies owed. -/
theorem acks_accounted {ι : Type} [DecidableEq ι] [Fintype ι] {net mid : Network ι}
    {ts : List (Transmission ι)} (hstart : ∀ i, net.owed i = []) (h : Run net ts mid) :
    (∀ o, replies o ts + mid.owing o = receptions o ts) ∧
    acks ts ≤ receptions .sender ts + receptions .rxLoop ts ∧
    (receptions .rxLoop ts = 0 →
      (∀ t ∈ ts, t.answers ≠ some .rxLoop) ∧ acks ts ≤ receptions .sender ts) ∧
    ∀ us net', Run mid us net' → (∀ t ∈ us, t.origin = .rxLoop) → receptions .rxLoop us = 0 →
      us.length ≤ mid.owing .sender + mid.owing .rxLoop := by
  have hacks := acksOwed_of_idle hstart
  have hall : ∀ o, replies o ts + mid.owing o = receptions o ts := by
    intro o
    rw [h.accounted hacks o, owing_of_idle hstart o, Nat.zero_add]
  have hsender := hall .sender
  have hloop := hall .rxLoop
  have hsum := acks_eq ts
  refine ⟨hall, by omega, fun hunheard => ⟨fun t ht hanswers => ?_, by omega⟩, ?_⟩
  · have hpos : 0 < replies .rxLoop ts := List.countP_pos_iff.mpr ⟨t, ht, by simpa using hanswers⟩
    omega
  · intro us net' hus hquiet hunheard
    have hlen := acks_of_quiet hquiet
    have hsilent := receptions_of_quiet hquiet
    have hsender' := hus.accounted (h.acksOwed hacks) .sender
    have hloop' := hus.accounted (h.acksOwed hacks) .rxLoop
    have hsum' := acks_eq us
    omega

def twoLoops : Network Bool where
  node i := ⟨⟨⟨[], []⟩, zeroBuffer⟩, rxHandlerInit (if i then 3 else 2) 1, []⟩
  owed _ := []

lemma beginPacket_sent : FromSendBurst (encode beginPacket) :=
  fromSendBurst_iff.mpr ⟨beginPacket, Nat.zero_le _, rfl⟩

theorem acks_accounted_exchange :
    ∃ ts mid, Run twoLoops ts mid ∧ acks ts = 1 ∧ receptions .rxLoop ts = 0 ∧ mid.owing .rxLoop = 0 ∧
      (∀ t ∈ ts, t.answers ≠ some .rxLoop) ∧
      ∀ us net', Run mid us net' → (∀ t ∈ us, t.origin = .rxLoop) → receptions .rxLoop us = 0 → us = [] := by
  let ts : List (Transmission Bool) := [.sent (encode beginPacket) {false},
    .acked false ⟨.sender, encode (ackFor beginPacket)⟩ ∅]
  have howed := owed_deliver (p := beginPacket) twoLoops .sender {false} (Nat.zero_le _) false
  rw [if_pos (Finset.mem_singleton_self false)] at howed
  obtain ⟨mid, hrun⟩ : ∃ mid, Run twoLoops ts mid :=
    ⟨_, .cons (.sent beginPacket_sent fun _ _ => rfl) (.cons (.acked howed (by simp)) .nil)⟩
  obtain ⟨hall, -, hunheard, hsilent⟩ := acks_accounted (fun _ => rfl) hrun
  have hsender : 1 + mid.owing .sender = 1 := hall .sender
  have hloop : 0 + mid.owing .rxLoop = 0 := hall .rxLoop
  rw [Nat.zero_add] at hloop
  refine ⟨ts, mid, hrun, rfl, rfl, hloop, (hunheard rfl).1, fun us net' hus hquiet hus' => ?_⟩
  have hlen := hsilent us net' hus hquiet hus'
  exact List.length_eq_zero_iff.mp (by omega)

section Storm

variable {ι : Type} [DecidableEq ι] {net : Network ι} {reply : Reply} {i j : ι}

lemma ping_pong (hij : i ≠ j) (hnet : net.AcksOwed) (howed : net.owed i = [reply])
    (hidle : net.owed j = []) (n : ℕ) :
    ∃ ts net', Run net ts net' ∧ ts.length = n ∧ ∀ t ∈ ts, t.origin = .rxLoop := by
  induction n generalizing net reply i j with
  | zero => exact ⟨[], net, .nil, rfl, by simp⟩
  | succ n ih =>
    obtain ⟨q, hq⟩ := hnet.head howed
    have hstep : Step net (.acked i reply {j})
        ((net.answered i).deliver .rxLoop reply.frame {j}) := by
      apply Step.acked howed
      intro k hk
      rw [Finset.mem_singleton.mp hk]
      exact ⟨hij.symm, hidle⟩
    have hnext := hstep.acksOwed hnet
    rw [hq] at hstep hnext
    have howed' := owed_deliver (net.answered i) .rxLoop {j} (ackFor_bounded q)
    have hj := howed' j
    have hi := howed' i
    rw [if_pos (Finset.mem_singleton_self j), owed_answered, if_neg hij.symm, hidle] at hj
    rw [if_neg (by simpa using hij), owed_answered, if_pos rfl, howed] at hi
    obtain ⟨ts, net', hrun, hlen, hts⟩ := ih hij.symm hnext hj hi
    exact ⟨_, net', .cons hstep hrun, congrArg (· + 1) hlen, by simpa [Transmission.origin] using hts⟩

/-- One frame of a sender that one node hears is enough for acks without end: two nodes answer each other. -/
theorem ack_storm (net : Network ι) {frame : List UInt8} (hframe : FromSendBurst frame) (hij : i ≠ j)
    (hstart : ∀ i, net.owed i = []) (n : ℕ) :
    ∃ ts net', Run net (.sent frame {i} :: ts) net' ∧ ts.length = n ∧ ∀ t ∈ ts, t.origin = .rxLoop := by
  have hstep : Step net (.sent frame {i}) (net.deliver .sender frame {i}) :=
    .sent hframe fun k _ => hstart k
  obtain ⟨p, hmax, rfl⟩ := fromSendBurst_iff.mp hframe
  have howed := owed_deliver net .sender {i} hmax
  have hi := howed i
  have hj := howed j
  rw [if_pos (Finset.mem_singleton_self i), hstart i] at hi
  rw [if_neg (by simpa using hij.symm), hstart j] at hj
  obtain ⟨ts, net', hrun, hlen, hts⟩ := ping_pong hij (hstep.acksOwed (acksOwed_of_idle hstart)) hi hj n
  exact ⟨ts, net', .cons hstep hrun, hlen, hts⟩

end Storm

theorem not_acksUnacknowledged_twoLoops :
    ¬ NeverAcknowledged twoLoops ∧ ¬ AcksBounded twoLoops ∧ ¬ FallsSilent twoLoops := by
  have hstorm := ack_storm twoLoops beginPacket_sent (i := false) (j := true) (by decide) fun _ => rfl
  have hacks (ts : List (Transmission Bool)) (hts : ∀ t ∈ ts, t.origin = .rxLoop) :
      acks (.sent (encode beginPacket) {false} :: ts) = ts.length := by
    rw [← acks_of_quiet hts]
    rfl
  have hheard (ts : List (Transmission Bool)) (hts : ∀ t ∈ ts, t.origin = .rxLoop) :
      receptions .sender (.sent (encode beginPacket) {false} :: ts) = 1 := by
    rw [receptions_cons, receptions_of_quiet hts]
    rfl
  refine ⟨fun hnever => ?_, fun hbounded => ?_, fun hsilent => ?_⟩
  · -- two acks and one frame of the sender heard: one of the two answers the other
    obtain ⟨ts, net', hrun, hlen, hts⟩ := hstorm 2
    have hnone : twoLoops.owing .sender = 0 := owing_of_idle (fun _ => rfl) .sender
    have hsender := hrun.accounted (acksOwed_of_idle fun _ => rfl) .sender
    rw [hnone, hheard ts hts] at hsender
    have hsum := (acks_eq _).symm.trans (hacks ts hts)
    have hpos : 0 < replies .rxLoop (.sent (encode beginPacket) {false} :: ts) := by omega
    obtain ⟨t, ht, hanswers⟩ := exists_reply hpos
    exact hnever _ net' hrun t ht hanswers
  · obtain ⟨ts, net', hrun, hlen, hts⟩ := hstorm 2
    have hle := hbounded _ net' hrun
    rw [hacks ts hts, hheard ts hts] at hle
    omega
  · obtain ⟨bound, hbound⟩ := hsilent _ _ (Run.cons (Step.sent beginPacket_sent fun _ _ => rfl) .nil)
    obtain ⟨ts, net', hrun, hlen, hts⟩ := hstorm (bound + 1)
    cases hrun with
    | cons hstep hrest =>
      cases hstep with
      | sent _ _ =>
        have hle := hbound ts net' hrest hts
        omega

end LoraNetworking
