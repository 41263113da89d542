import LoraNetworking.AirDriver
import LoraNetworking.Receiver

/-! The receive loop on a radio in the air: the handler is given one packet for each batch of
receptions, and each batch is answered with one ack. -/

namespace LoraNetworking.Transceiver

open StateProg Transducer

section Nodes

variable {α β : Type} {pre mid : Machine Transceiver → Prop} {P : Transceiver → Prop}
  {x : Radio Transceiver α} {y : Prog (Node (Machine Transceiver)) α} {post : α → Machine Transceiver → Prop}
  {out : α → Node (Machine Transceiver) → Prop}

/-- The static receive buffer is clear, as every read leaves it. -/
def Clear (pre : Machine Transceiver → Prop) (n : Node (Machine Transceiver)) : Prop :=
  n.rxBuffer = zeroBuffer ∧ pre n.radio

lemma clear_onRadio (h : Triple pre x post) : Triple (Clear pre) (onRadio x) fun a => Clear (post a) :=
  Triple.zoom (fun _ _ => rfl) (fun _ _ h => h) h

lemma clear_exists {ι : Type} {pre : ι → Machine Transceiver → Prop} (h : ∀ i, Triple (Clear (pre i)) y out) :
    Triple (Clear fun m => ∃ i, pre i m) y out := by
  rintro n a n' ⟨hbuf, i, hi⟩ hrun
  exact h i n a n' ⟨hbuf, hi⟩ hrun

lemma clear_given {C : Prop} (h : C → Triple (Clear pre) y out) : Triple (Clear fun m => C ∧ pre m) y out := by
  rintro n a n' ⟨hbuf, hC, hm⟩ hrun
  exact h hC n a n' ⟨hbuf, hm⟩ hrun

lemma clear_on_exists {ι : Type} {P : ι → Transceiver → Prop} (h : ∀ i, Triple (Clear (On (P i))) y out) :
    Triple (Clear (On fun t => ∃ i, P i t)) y out := by
  rintro n a n' ⟨hbuf, hport, htimer, i, hi⟩ hrun
  exact h i n a n' ⟨hbuf, hport, htimer, hi⟩ hrun

lemma clear_on_given {C : Prop} (h : C → Triple (Clear (On P)) y out) :
    Triple (Clear (On fun t => C ∧ P t)) y out := by
  rintro n a n' ⟨hbuf, hport, htimer, hC, hP⟩ hrun
  exact h hC n a n' ⟨hbuf, hport, htimer, hP⟩ hrun

lemma clear_mono {P' : Transceiver → Prop} (hP : ∀ t, P t → P' t) (h : Triple (Clear (On P')) y out) :
    Triple (Clear (On P)) y out :=
  h.mono (fun _ hn => ⟨hn.1, hn.2.mono hP⟩) fun _ _ hn => hn

lemma clear_passed {x : Radio Transceiver Sx127xErr} {other : Sx127xErr → Prog (Node (Machine Transceiver)) α}
    (hx : Triple pre x fun ret m => ret = .sxOk ∧ mid m) (hy : Triple (Clear mid) y out) :
    Triple (Clear pre) (onRadio x >>= fun ret => if ret ≠ .sxOk then other ret else y) out :=
  .bind (clear_onRadio hx) fun _ => clear_given fun hret => .ite (fun hne => absurd hret hne) fun _ => hy

end Nodes

section Packets

variable {behind : ℕ → UInt8} {fuel : ℕ} {base : List AirEvent} {hs : List Reception} {p : Packet} {quiet : Prop}

lemma hearing_watched : Watched irqRxDone false (fun t => ∃ hs, Pending base hs t)
    fun t => ∃ hs, hs ≠ [] ∧ Pending base hs t where
  next t ht := by
    obtain ⟨hs, hpending⟩ := ht
    obtain ⟨hs', hpending'⟩ := hpending.elapse
    exact ⟨_, hpending'.congr rfl hpending'.idle rfl fun _ _ => rfl⟩
  met t ht hdone := by
    obtain ⟨hs, hpending⟩ := ht
    exact ⟨hs, hpending.done.mp hdone, hpending⟩
  time t ht := by
    obtain ⟨hs, hpending⟩ := ht
    exact ⟨hs, hpending.congr rfl hpending.idle rfl fun _ _ => rfl⟩
  clear h := absurd h (by decide)
  clearMet h := absurd h (by decide)

lemma readLastPacket_pending : Triple (Clear (On (Pending base hs)))
    (readLastPacket (sx127xDriver fuel fun _ => behind)) fun out n =>
      out.1 = .sxOk ∧ ∃ hs', out.2 = readBatch behind (hs ++ hs') ∧
        Clear (On (Silent (base ++ (hs ++ hs').map .heard))) n := by
  rintro n ⟨ret, q⟩ n' ⟨hbuf, hm⟩ hrun
  obtain ⟨payload, radio, e, hread, hclear, hzero, rfl, rfl⟩ := readLastPacket_ok.mp hrun
  obtain ⟨hs', hstored, hsilent⟩ := readLastPayload_pending _ _ _ hm hread
  obtain ⟨-, hcleared⟩ := silent_clear _ _ _ hsilent hclear
  refine ⟨rfl, hs', ?_, hzero, hcleared.mono fun t ht => ht.2⟩
  rw [hbuf, hstored]
  rfl

lemma sendPacket_begun {switchToRxAfterTx : Bool} (hmax : p.payloadLength.toNat ≤ payloadLengthMax) :
    Triple (Clear (On (Begun quiet base)))
      (sx1278SendPacket (sx127xDriver fuel fun _ => behind) p switchToRxAfterTx) fun ret n =>
        ∃ lost : List Reception, (quiet → lost = []) ∧
          Clear (SendEnds (base ++ lost.map .heard) (encode p) (modeAfterTx switchToRxAfterTx) ret) n := by
  have hlen : (UInt8.ofNat (encode p).length).toNat ≤ (txBuffer p).length := by
    have hlt := (UInt8.ofNat (encode p).length).toNat_lt
    simp only [txBuffer, List.length_append, List.length_replicate]
    omega
  have hsend : Triple (On (Begun quiet base))
      (sx1278SendPayload fuel (txBuffer p) (UInt8.ofNat (encode p).length) switchToRxAfterTx) _ :=
    sendPayload_begun hlen
  rw [txBuffer_take hmax] at hsend
  rw [sx1278SendPacket_eq hmax]
  refine (clear_onRadio hsend).mono (fun _ hn => hn) ?_
  rintro ret n ⟨hbuf, lost, hlost, hends⟩
  exact ⟨lost, hlost, hbuf, hends⟩

end Packets

section Loop

variable (behind : ℕ → UInt8)

def exchange (hs : List Reception) : List AirEvent :=
  hs.map .heard ++ [.sent (encode (ackFor (readBatch behind hs)))]

inductive RoundOnAir (base : List AirEvent) (handler : RxHandlerCtx) (hs : List Reception) :
    RxRound × RxHandlerCtx → Node (Machine Transceiver) → Prop
  | handled {n} (silent : Clear (On (Silent (base ++ exchange behind hs))) n) :
      RoundOnAir base handler hs (.handled (readBatch behind hs) (packetStep handler (readBatch behind hs)).1,
        (packetStep handler (readBatch behind hs)).2) n
  | left {n} (onAir : Clear (On (OnAir (base ++ hs.map .heard) (encode (ackFor (readBatch behind hs))))) n) :
      RoundOnAir base handler hs (.leave .sxTimeout, handler) n

variable {behind} {fuel rounds : ℕ} {base : List AirEvent} {quiet : Prop}

lemma handled_silent {hs : List Reception} {t : Transceiver}
    (h : Pending (base ++ hs.map .heard ++ [.sent (encode (ackFor (readBatch behind hs)))]) [] t)
    (hmode : t.regs 0x01 = modeAfterTx false) : Silent (base ++ exchange behind hs) t where
  log := by simpa [exchange] using h.log
  idle := h.idle
  quiet := quiet_of_mode (Or.inr rfl) hmode

lemma rxRound_begun (handler : RxHandlerCtx) : Triple (Clear (On (Begun quiet base)))
    (rxRound (sx127xDriver fuel fun _ => behind) handler) fun out n =>
      ∃ lost : List Reception, (quiet → lost = []) ∧ ∃ hs, hs ≠ [] ∧
        RoundOnAir behind (base ++ lost.map .heard) handler hs out n := by
  refine clear_passed begun_clear (clear_exists fun lost => clear_on_given fun hlost => ?_)
  refine Triple.mono ?_ (fun _ hn => hn) fun _ _ hn => ⟨lost, hlost, hn⟩
  generalize base ++ lost.map AirEvent.heard = base
  refine clear_mono (fun t ht => ht.2) (clear_passed (pending_mode (by decide)) (clear_exists fun _ => ?_))
  refine clear_mono (fun t ht => ⟨_, ht.1⟩) (clear_passed (hearing_watched.pollNoTimeout 0) ?_)
  refine clear_on_exists fun hs => clear_on_given fun hne => ?_
  refine .bind readLastPacket_pending fun out => ?_
  obtain ⟨ret, rxP⟩ := out
  refine .given fun hret => .exists_pre fun hs' => .given fun hread => ?_
  dsimp only at hret hread ⊢
  rw [if_neg (not_not.mpr hret), ackPacket_eq, hread]
  have hbatch : hs ++ hs' ≠ [] := by simp [hne]
  refine Triple.mono ?_ (fun _ hn => hn) fun _ _ hn => ⟨_, hbatch, hn⟩
  refine clear_mono (fun t ht => ht.begun True) (.bind (sendPacket_begun (ackFor_bounded _)) fun ret => ?_)
  refine .exists_pre fun lost' => .given fun hlost' => ?_
  obtain rfl := hlost' trivial
  rw [List.map_nil, List.append_nil]
  rintro n out n' ⟨hbuf, ⟨rfl, hm⟩ | ⟨rfl, hm⟩⟩ hrun
  · obtain ⟨rfl, rfl⟩ : _ = out ∧ n = n' := by simpa using hrun
    exact .handled ⟨hbuf, hm.mono fun t ht => handled_silent ht.1 ht.2⟩
  · obtain ⟨rfl, rfl⟩ : _ = out ∧ n = n' := by simpa using hrun
    exact .left ⟨hbuf, hm⟩

inductive LoopOnAir (behind : ℕ → UInt8) (base : List AirEvent) (handler : RxHandlerCtx)
    (batches : List (List Reception)) : ℕ → List RxRound × RxHandlerCtx → Node (Machine Transceiver) → Prop
  | running {n} (on : Clear (On (Begun False (base ++ batches.flatMap (exchange behind)))) n) :
      LoopOnAir behind base handler batches batches.length
        ((history packetStep handler (batches.map (readBatch behind))).map fun e => .handled e.input e.output,
          run packetStep handler (batches.map (readBatch behind))) n
  | left {n rounds hs} (heard : hs ≠ []) (early : batches.length < rounds)
      (on : Clear (On (OnAir (base ++ batches.flatMap (exchange behind) ++ hs.map .heard)
        (encode (ackFor (readBatch behind hs))))) n) :
      LoopOnAir behind base handler batches rounds
        (((history packetStep handler (batches.map (readBatch behind))).map fun e => .handled e.input e.output) ++
          [.leave .sxTimeout], run packetStep handler (batches.map (readBatch behind))) n

lemma LoopOnAir.cons {handler : RxHandlerCtx} {hs : List Reception} {batches : List (List Reception)}
    {out : List RxRound × RxHandlerCtx} {n : Node (Machine Transceiver)}
    (h : LoopOnAir behind (base ++ exchange behind hs) (packetStep handler (readBatch behind hs)).2 batches rounds
      out n) :
    LoopOnAir behind base handler (hs :: batches) (rounds + 1)
      (.handled (readBatch behind hs) (packetStep handler (readBatch behind hs)).1 :: out.1, out.2) n := by
  cases h with
  | running on =>
    refine .running ⟨on.1, on.2.mono fun t ht => ?_⟩
    simpa [List.append_assoc] using ht
  | left heard early on =>
    refine .left heard (Nat.succ_lt_succ early) ⟨on.1, on.2.mono fun t ht => ?_⟩
    simpa [List.append_assoc] using ht

lemma rxRounds_begun (handler : RxHandlerCtx) : Triple (Clear (On (Begun quiet base)))
    (rxRounds (sx127xDriver fuel fun _ => behind) rounds handler) fun out n =>
      ∃ lost : List Reception, (quiet → lost = []) ∧ ∃ batches, (∀ hs ∈ batches, hs ≠ []) ∧
        LoopOnAir behind (base ++ lost.map .heard) handler batches rounds out n := by
  induction rounds generalizing base quiet handler with
  | zero =>
    refine .pure ?_
    intro n hn
    refine ⟨[], fun _ => rfl, [], by simp, .running ⟨hn.1, hn.2.mono fun t ht => ?_⟩⟩
    exact ⟨by simp [ht.log], ht.idle, False.elim⟩
  | succ rounds ih =>
    refine .bind (rxRound_begun handler) fun round => .exists_pre fun lost => .given fun hlost => ?_
    refine Triple.mono ?_ (fun _ hn => hn) fun _ _ hn => ⟨lost, hlost, hn⟩
    generalize base ++ lost.map AirEvent.heard = base
    refine .exists_pre fun hs => .given fun hne => ?_
    rintro n out n' hround hrun
    cases hround with
    | handled hsilent =>
      obtain ⟨⟨rest, handler'⟩, n₁, hrest, hdone⟩ := Prog.bind_ok.mp hrun
      have hquiet : Clear (On (Begun True (base ++ exchange behind hs))) n :=
        ⟨hsilent.1, hsilent.2.mono fun t ht => ht.begun True⟩
      obtain ⟨lost', hlost', batches, hheard, hloop⟩ := ih _ _ _ _ hquiet hrest
      obtain rfl := hlost' trivial
      obtain ⟨rfl, rfl⟩ : _ = out ∧ n₁ = n' := by simpa using hdone
      rw [List.map_nil, List.append_nil] at hloop
      exact ⟨hs :: batches, List.forall_mem_cons.mpr ⟨hne, hheard⟩, hloop.cons⟩
    | left honAir =>
      obtain ⟨rfl, rfl⟩ : _ = out ∧ n = n' := by simpa using hrun
      refine ⟨[], by simp, .left hne (Nat.succ_pos _) ⟨honAir.1, honAir.2.mono fun t ht => ?_⟩⟩
      simpa using ht

/-- From `log` to `log'` the radio hears the receptions `lost`, which no round sees, and then batch after
batch. The handler gets the packet read of each batch, in order, and each batch but the last is followed by
the ack of that packet. The loop leaves only when the end of an ack is not seen in time; whether that ack
is on the air then is open. -/
def HandlesBatches (behind : ℕ → UInt8) (rounds : ℕ) (handler : RxHandlerCtx) (log : List AirEvent)
    (rs : List RxRound) (handler' : RxHandlerCtx) (log' : List AirEvent) : Prop :=
  ∃ (lost : List Reception) (batches : List (List Reception)) (rest : List AirEvent), (∀ hs ∈ batches, hs ≠ []) ∧
    log' = log ++ lost.map .heard ++ batches.flatMap (exchange behind) ++ rest ∧
    handler' = run packetStep handler (batches.map (readBatch behind)) ∧
    ∃ ending, rs = ((history packetStep handler (batches.map (readBatch behind))).map fun e =>
        .handled e.input e.output) ++ ending ∧
      ((ending = [] ∧ batches.length = rounds ∧ rest = []) ∨
        (ending = [.leave .sxTimeout] ∧ batches.length < rounds ∧
          ∃ hs, hs ≠ [] ∧ (rest = hs.map .heard ∨ rest = exchange behind hs)))

/-- What was on the air, with the frame that the radio is still sending. -/
def aired (t : Transceiver) : List AirEvent := t.log ++ t.transmission.toList.map .sent

lemma aired_idle {t : Transceiver} (h : t.transmission = none) : aired t = t.log := by
  rw [aired, h, Option.toList_none, List.map_nil, List.append_nil]

lemma OnAir.aired {frame : List UInt8} {t : Transceiver} (h : OnAir base frame t) :
    Transceiver.aired t = base ++ [.sent frame] := by
  cases h with
  | sending htransmission hlog =>
    rw [Transceiver.aired, htransmission, hlog]
    rfl
  | sent hsilent => exact (aired_idle hsilent.idle).trans hsilent.log

lemma OnAir.log {frame : List UInt8} {t : Transceiver} (h : OnAir base frame t) :
    t.log = base ∨ t.log = base ++ [.sent frame] := by
  cases h with
  | sending htransmission hlog hflag => exact Or.inl hlog
  | sent hsilent => exact Or.inr hsilent.log

lemma LoopOnAir.handles {handler handler' : RxHandlerCtx} {lost : List Reception} {batches : List (List Reception)}
    {rs : List RxRound} {n : Node (Machine Transceiver)} (hheard : ∀ hs ∈ batches, hs ≠ [])
    (h : LoopOnAir behind (base ++ lost.map .heard) handler batches rounds (rs, handler') n) :
    HandlesBatches behind rounds handler base rs handler' n.radio.world.log ∧
      HandlesBatches behind rounds handler base rs handler' (aired n.radio.world) := by
  cases h with
  | running on =>
    rw [aired_idle on.2.2.2.idle, and_self]
    refine ⟨lost, batches, [], hheard, ?_, rfl, [], (List.append_nil _).symm, Or.inl ⟨rfl, rfl, rfl⟩⟩
    rw [List.append_nil]
    exact on.2.2.2.log
  | @left _ _ hs heard early on =>
    have hacked : base ++ lost.map .heard ++ batches.flatMap (exchange behind) ++ hs.map .heard ++
        [.sent (encode (ackFor (readBatch behind hs)))] =
        base ++ lost.map .heard ++ batches.flatMap (exchange behind) ++ exchange behind hs := by simp [exchange]
    refine ⟨?_, lost, batches, _, hheard, on.2.2.2.aired.trans hacked, rfl, _, rfl,
      Or.inr ⟨rfl, early, hs, heard, Or.inr rfl⟩⟩
    cases on.2.2.2.log with
    | inl hlog =>
      exact ⟨lost, batches, _, hheard, hlog.trans (by simp), rfl, _, rfl,
        Or.inr ⟨rfl, early, hs, heard, Or.inl rfl⟩⟩
    | inr hlog =>
      exact ⟨lost, batches, _, hheard, hlog.trans hacked, rfl, _, rfl,
        Or.inr ⟨rfl, early, hs, heard, Or.inr rfl⟩⟩

lemma startRxLoop_begun (handler : RxHandlerCtx) : Triple (Clear (On (Begun False base)))
    (startRxLoop (sx127xDriver fuel fun _ => behind) rounds handler) fun out n =>
      HandlesBatches behind rounds handler base out.1 out.2 n.radio.world.log ∧
        HandlesBatches behind rounds handler base out.1 out.2 (aired n.radio.world) := by
  have hloop : Triple (Clear (On (Begun False base))) (startRxLoop (sx127xDriver fuel fun _ => behind) rounds handler)
      fun out n => ∃ (lost : List Reception) (batches : List (List Reception)), (∀ hs ∈ batches, hs ≠ []) ∧
        LoopOnAir behind (base ++ lost.map .heard) handler batches rounds out n := by
    refine clear_passed begun_listen (clear_exists fun lost => ?_)
    refine (rxRounds_begun handler).mono (fun _ hn => hn) ?_
    rintro out n ⟨lost', -, batches, hheard, hrun⟩
    refine ⟨lost ++ lost', batches, hheard, ?_⟩
    rwa [List.map_append, ← List.append_assoc]
  intro n out n' hn hrun
  obtain ⟨lost, batches, hheard, hend⟩ := hloop n out n' hn hrun
  exact hend.handles hheard

lemma clear_begun {m : Machine Transceiver} (hport : m.sx127xSpiPort = port) (htimer : m.sx127xTimerCtx = timer)
    (hidle : m.world.transmission = none) : Clear (On (Begun False m.world.log)) ⟨m, zeroBuffer⟩ :=
  ⟨rfl, hport, htimer, rfl, hidle, False.elim⟩

end Loop

theorem receive_loop_on_air (behind : ℕ → UInt8) (fuel rounds : ℕ) (handler handler' : RxHandlerCtx)
    (m : Machine Transceiver) (hport : m.sx127xSpiPort = port) (htimer : m.sx127xTimerCtx = timer)
    (hidle : m.world.transmission = none) (rs : List RxRound) (n' : Node (Machine Transceiver))
    (h : startRxLoop (sx127xDriver fuel fun _ => behind) rounds handler ⟨m, zeroBuffer⟩ = .ok ((rs, handler'), n')) :
    HandlesBatches behind rounds handler m.world.log rs handler' n'.radio.world.log :=
  (startRxLoop_begun handler _ _ _ (clear_begun hport htimer hidle) h).1

def radioAt (arrivals : ℕ → Option Reception) : Machine Transceiver where
  world :=
    { regs := fun a => if a = 0x01 then modeLora ||| modeStdby else 0
      fifo := fun _ => 0
      arrivals := arrivals
      ends := fun _ => true
      transactions := 0
      clock := fun k => k
      readings := 0
      transmission := none
      log := [] }
  sx127xSpiPort := port
  sx127xTimerCtx := timer
  loraBandwidthHz := 125000
  spreadingFactor := 12

def beginAt (address : UInt8) : Reception := ⟨encode (emptyPacket 2 1 7 0), false, address, by decide⟩

theorem receive_loop_on_air_begin :
    let arrivals := fun k => if k = 2 ∨ k = 3 then some (beginAt (UInt8.ofNat k)) else none
    ∃ out n', startRxLoop (sx127xDriver 4 fun _ _ => 0) 1 (rxHandlerInit 2 1) ⟨radioAt arrivals, zeroBuffer⟩ =
        .ok (out, n') ∧ out.1.length = 1 ∧ n'.radio.world.log.length = 3 ∧
      HandlesBatches (fun _ => 0) 1 (rxHandlerInit 2 1) [] out.1 out.2 n'.radio.world.log := by
  intro arrivals
  obtain ⟨out, n', hrun, hrs, hlog⟩ := Prog.returns
    (x := startRxLoop (sx127xDriver 4 fun _ _ => 0) 1 (rxHandlerInit 2 1)) (s := ⟨radioAt arrivals, zeroBuffer⟩)
    (fun out n' => out.1.length = 1 ∧ n'.radio.world.log.length = 3) (by decide +kernel)
  exact ⟨out, n', hrun, hrs, hlog, receive_loop_on_air (fun _ => 0) 4 1 _ _ _ rfl rfl rfl _ _ hrun⟩

end LoraNetworking.Transceiver
