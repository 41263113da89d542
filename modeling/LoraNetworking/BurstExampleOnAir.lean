import LoraNetworking.BurstExample
import LoraNetworking.BurstOnAir

/-! The burst example on two radios in the air: what the sender reports and what the receiver prints. -/

namespace LoraNetworking.Transceiver

open StateProg StopAndWait Transducer BurstExample

section Task

variable {behind : ℕ → UInt8} {fuel rounds : ℕ} {base : List AirEvent} {frame : List UInt8} {quiet : Prop}
  {handler : RxHandlerCtx} {hs : List Reception} {log : List AirEvent} {out : RxRound × RxHandlerCtx}
  {n : Node (Machine Transceiver)} {round : RxRound} {handler' : RxHandlerCtx}

lemma onAir_clear : Triple (On (OnAir base frame)) sx1278ClearIrq fun ret m =>
    ret = .sxOk ∧ On (fun t => OnAir base frame t ∧ t.regs 0x12 = 0) m := by
  apply on_write
  intro t ht
  refine ⟨ht.cleared, ?_⟩
  rw [writer_flags]
  simp

lemma onAir_listen : Triple (On fun t => OnAir base frame t ∧ t.regs 0x12 = 0)
    (sx1278SwitchMode (modeLora ||| modeRxContinuous)) fun ret m =>
      ret = .sxOk ∧ ∃ base', On (fun t => (base' = base ∨ base' = base ++ [.sent frame]) ∧ Pending base' [] t) m := by
  apply on_write_exists
  rintro t ⟨ht, hflags⟩
  have hdata : [modeLora ||| modeRxContinuous] ≠ [modeLora ||| modeTx] := by decide
  have hmask : txDone &&& irqRxDone = 0 ∧ txDone &&& irqPayloadCrcError = 0 := by decide
  rw [writer_mode, if_neg hdata]
  cases ht with
  | sending htransmission hlog hflag =>
    cases t.elapsed with
    | nothing h =>
      rw [h]
      exact ⟨base, Or.inl rfl, cleared_pending hlog rfl (by simpa using hflags)⟩
    | transmitted frame' hsending h =>
      obtain rfl : frame = frame' := Option.some.inj (htransmission.symm.trans hsending)
      rw [h]
      refine ⟨_, Or.inr rfl, ⟨?_, rfl, ?_, ?_, by simp⟩⟩
      · simp [transmitted, hlog]
      · simp [transmitted, interrupted, hflags, hmask]
      · simp [transmitted, interrupted, hflags, hmask]
    | received r hidle h => simp [hidle] at htransmission
    | expired hidle h => simp [hidle] at htransmission
  | sent hsilent =>
    rw [hsilent.elapse_eq]
    exact ⟨_, Or.inr rfl, cleared_pending hsilent.log rfl (by simpa using hflags)⟩

/-- A batch was handled; its ack is on the air, or may still get there. -/
def RoundEnds (behind : ℕ → UInt8) (base : List AirEvent) (handler : RxHandlerCtx) (hs : List Reception)
    (out : RxRound × RxHandlerCtx) (n : Node (Machine Transceiver)) : Prop :=
  out = (.handled (readBatch behind hs) (packetStep handler (readBatch behind hs)).1,
      (packetStep handler (readBatch behind hs)).2) ∧
    (Clear (On (Silent (base ++ exchange behind hs))) n ∨
      Clear (On (OnAir (base ++ hs.map .heard) (encode (ackFor (readBatch behind hs))))) n)

lemma rxTaskBody_pending : Triple (Clear (On (Pending base hs)))
    (rxTaskBody (sx127xDriver fuel fun _ => behind) handler) fun out n =>
      ∃ hs, RoundEnds behind base handler hs out n := by
  refine clear_mono (fun t ht => ⟨_, ht⟩) (clear_passed (hearing_watched.pollNoTimeout 0) ?_)
  refine clear_on_exists fun hs => clear_on_given fun _ => ?_
  refine .bind readLastPacket_pending fun out => ?_
  obtain ⟨ret, rxP⟩ := out
  refine .given fun hret => .exists_pre fun hs' => .given fun hread => ?_
  dsimp only at hret hread ⊢
  rw [if_neg (not_not.mpr hret), ackPacket_eq, hread]
  refine Triple.mono ?_ (fun _ hn => hn) fun _ _ hn => ⟨hs ++ hs', hn⟩
  refine clear_mono (fun t ht => ht.begun True) (.bind (sendPacket_begun (ackFor_bounded _)) fun ret => ?_)
  refine .exists_pre fun lost => .given fun hlost => ?_
  obtain rfl := hlost trivial
  rw [List.map_nil, List.append_nil]
  apply Triple.pure
  rintro n ⟨hbuf, ⟨-, hm⟩ | ⟨-, hm⟩⟩
  · exact ⟨rfl, Or.inl ⟨hbuf, hm.mono fun t ht => handled_silent ht.1 ht.2⟩⟩
  · exact ⟨rfl, Or.inr ⟨hbuf, hm⟩⟩

def taskLog (behind : ℕ → UInt8) (batches : List (List Reception × Bool)) : List AirEvent :=
  batches.flatMap fun b => if b.2 then exchange behind b.1 else b.1.map .heard

def taskPackets (behind : ℕ → UInt8) (batches : List (List Reception × Bool)) : List Packet :=
  batches.map fun b => readBatch behind b.1

/-- From `base` to `log` the task handles batch after batch, and stops only after the end of a capture. -/
def TaskRuns (behind : ℕ → UInt8) (base : List AirEvent) (handler : RxHandlerCtx) (out : List RxRound × RxHandlerCtx)
    (log : List AirEvent) : Prop :=
  ∃ batches, log = base ++ taskLog behind batches ∧
    out = ((history packetStep handler (taskPackets behind batches)).map fun e => .handled e.input e.output,
      run packetStep handler (taskPackets behind batches)) ∧ ∀ round ∈ out.1.dropLast, ¬ Final round

lemma TaskRuns.cons (acked : Bool) {rest : List RxRound × RxHandlerCtx}
    (hround : (round, handler') = (.handled (readBatch behind hs) (packetStep handler (readBatch behind hs)).1,
      (packetStep handler (readBatch behind hs)).2)) (hfinal : ¬ Final round)
    (h : TaskRuns behind (base ++ taskLog behind [(hs, acked)]) handler' rest log) :
    TaskRuns behind base handler (round :: rest.1, rest.2) log := by
  obtain ⟨batches, rfl, rfl, hrest⟩ := h
  obtain ⟨rfl, rfl⟩ := Prod.mk.inj hround
  refine ⟨(hs, acked) :: batches, by simp [taskLog], rfl, ?_⟩
  intro r hr
  cases hlist : (history packetStep (packetStep handler (readBatch behind hs)).2 (taskPackets behind batches)).map
      (fun e => RxRound.handled e.input e.output) with
  | nil => simp [hlist] at hr
  | cons r' rs =>
    dsimp only at hr hrest
    rw [hlist, List.dropLast_cons_cons, List.mem_cons] at hr
    rcases hr with rfl | hr
    · exact hfinal
    · exact hrest r (hlist ▸ hr)

lemma RoundEnds.final (h : RoundEnds behind base handler hs (round, handler') n) :
    TaskRuns behind base handler ([round], handler') (aired n.radio.world) := by
  obtain ⟨hout, hn⟩ := h
  obtain ⟨rfl, rfl⟩ := Prod.mk.inj hout
  refine ⟨[(hs, true)], ?_, rfl, by simp⟩
  rw [taskLog, List.flatMap_singleton, if_pos rfl]
  rcases hn with hn | hn
  · exact (aired_idle hn.2.2.2.idle).trans hn.2.2.2.log
  · rw [hn.2.2.2.aired, exchange, List.append_assoc]

lemma rxTaskRound_begun : Triple (Clear (On (Begun quiet base)))
    (rxTaskRound (sx127xDriver fuel fun _ => behind) handler) fun out n =>
      ∃ lost : List Reception, (quiet → lost = []) ∧
        ∃ hs, RoundEnds behind (base ++ lost.map .heard) handler hs out n := by
  refine .bind (clear_onRadio begun_clear) fun _ => clear_given fun _ => clear_exists fun lost => ?_
  refine clear_on_given fun hlost => clear_mono (fun t ht => ht.2) ?_
  refine Triple.mono ?_ (fun _ hn => hn) fun _ _ hn => ⟨lost, hlost, hn⟩
  generalize base ++ lost.map AirEvent.heard = base
  refine .bind (clear_onRadio (pending_mode (by decide))) fun _ => clear_given fun _ => clear_exists fun hs => ?_
  exact clear_mono (fun t ht => ht.1) rxTaskBody_pending

lemma rxTaskRound_onAir : Triple (Clear (On (OnAir base frame)))
    (rxTaskRound (sx127xDriver fuel fun _ => behind) handler) fun out n =>
      ∃ base', (base' = base ∨ base' = base ++ [.sent frame]) ∧ ∃ hs, RoundEnds behind base' handler hs out n := by
  refine .bind (clear_onRadio onAir_clear) fun _ => clear_given fun _ => ?_
  refine .bind (clear_onRadio onAir_listen) fun _ => clear_given fun _ => clear_exists fun base' => ?_
  refine clear_on_given fun hbase => Triple.mono ?_ (fun _ hn => hn) fun _ _ hn => ⟨base', hbase, hn⟩
  exact clear_mono (fun t ht => by simpa using ht) rxTaskBody_pending

def RunRounds (behind : ℕ → UInt8) (fuel rounds : ℕ) : Prop :=
  (∀ base quiet handler, Triple (Clear (On (Begun quiet base)))
    (rxTaskRounds (sx127xDriver fuel fun _ => behind) rounds handler) fun out n =>
      ∃ lost : List Reception, (quiet → lost = []) ∧
        TaskRuns behind (base ++ lost.map .heard) handler out (aired n.radio.world)) ∧
  ∀ base frame handler, Triple (Clear (On (OnAir base frame)))
    (rxTaskRounds (sx127xDriver fuel fun _ => behind) rounds handler) fun out n =>
      ∃ base', (base' = base ∨ base' = base ++ [.sent frame]) ∧
        TaskRuns behind base' handler out (aired n.radio.world)

lemma rxTaskRounds_step (ih : RunRounds behind fuel rounds) :
    Triple (RoundEnds behind base handler hs (round, handler'))
    (if Final round then pure ([round], handler')
      else rxTaskRounds (sx127xDriver fuel fun _ => behind) rounds handler' >>= fun rest =>
        pure (round :: rest.1, rest.2)) fun out n => TaskRuns behind base handler out (aired n.radio.world) := by
  refine .ite (fun hfinal => .pure fun n hn => hn.final) fun hfinal => ?_
  rintro n out n' ⟨hout, hn⟩ hrun
  obtain ⟨rest, n₁, hrest, hdone⟩ := Prog.bind_ok.mp hrun
  obtain ⟨rfl, rfl⟩ : _ = out ∧ n₁ = n' := by simpa using hdone
  rcases hn with hn | hn
  · obtain ⟨lost, hlost, hruns⟩ := ih.1 _ True _ _ _ _ ⟨hn.1, hn.2.mono fun t ht => ht.begun True⟩ hrest
    obtain rfl := hlost trivial
    rw [List.map_nil, List.append_nil] at hruns
    exact TaskRuns.cons true hout hfinal (by simpa [taskLog] using hruns)
  · obtain ⟨base', rfl | rfl, hruns⟩ := ih.2 _ _ _ _ _ _ hn hrest
    · exact TaskRuns.cons false hout hfinal (by simpa [taskLog] using hruns)
    · exact TaskRuns.cons true hout hfinal (by simpa [taskLog, exchange] using hruns)

lemma taskRuns_nil : TaskRuns behind base handler ([], handler) base :=
  ⟨[], by simp [taskLog], rfl, by simp⟩

lemma rxTaskRounds_runs (rounds : ℕ) : RunRounds behind fuel rounds := by
  induction rounds with
  | zero =>
    constructor
    · intro base quiet handler
      apply Triple.pure
      intro n hn
      refine ⟨[], fun _ => rfl, ?_⟩
      rw [aired_idle hn.2.2.2.idle, hn.2.2.2.log, List.map_nil, List.append_nil]
      exact taskRuns_nil
    · intro base frame handler
      apply Triple.pure
      intro n hn
      exact ⟨_, Or.inr rfl, hn.2.2.2.aired ▸ taskRuns_nil⟩
  | succ rounds ih =>
    constructor
    · intro base quiet handler
      refine .bind rxTaskRound_begun fun out => .exists_pre fun lost => .given fun hlost => .exists_pre fun hs => ?_
      exact (rxTaskRounds_step ih).mono (fun _ hn => hn) fun _ _ hn => ⟨lost, hlost, hn⟩
    · intro base frame handler
      refine .bind rxTaskRound_onAir fun out => .exists_pre fun base' => .given fun hbase => .exists_pre fun hs => ?_
      exact (rxTaskRounds_step ih).mono (fun _ hn => hn) fun _ _ hn => ⟨base', hbase, hn⟩

lemma rxTask_runs : Triple (Clear (On (Begun False base)))
    (rxTask (sx127xDriver fuel fun _ => behind) rounds handler) fun out n =>
      ∃ lost : List Reception, TaskRuns behind (base ++ lost.map .heard) handler out (aired n.radio.world) := by
  refine .bind (clear_onRadio begun_listen) fun _ => clear_given fun _ => clear_exists fun lost => ?_
  refine ((rxTaskRounds_runs rounds).1 _ _ _).mono (fun _ hn => hn) ?_
  rintro out n ⟨lost', -, hruns⟩
  refine ⟨lost ++ lost', ?_⟩
  rwa [List.map_append, ← List.append_assoc]

end Task

section Sides

variable {hostAddr remoteSrcAddr : UInt16} {behind : ℕ → UInt8} {base log : List AirEvent}
  {handler handler' : RxHandlerCtx} {rs : List RxRound} {p : Packet}

lemma taskBatches_sublist (hhost : hostAddr ≠ 0) (batches : List (List Reception × Bool)) :
    (onLink hostAddr remoteSrcAddr (taskPackets behind batches)).Sublist
      ((taskLog behind batches).filterMap (linkPacket hostAddr remoteSrcAddr behind)) := by
  induction batches with
  | nil => exact List.nil_sublist _
  | cons b batches ih =>
    have hbatch : (if b.2 then exchange behind b.1 else b.1.map .heard).filterMap
          (linkPacket hostAddr remoteSrcAddr behind) =
        (b.1.map .heard).filterMap (linkPacket hostAddr remoteSrcAddr behind) := by
      split_ifs
      · exact exchange_link b.1
      · rfl
    rw [taskPackets, List.map_cons, ← List.singleton_append, onLink_append, taskLog, List.flatMap_cons,
      List.filterMap_append, hbatch]
    exact (batch_sublist hhost b.1).append ih

lemma taskLog_acks {batches : List (List Reception × Bool)} {frame : List UInt8}
    (h : .sent frame ∈ taskLog behind batches) : ∃ q ∈ taskPackets behind batches, frame = encode (ackFor q) := by
  obtain ⟨b, hb, hsent⟩ := List.mem_flatMap.mp h
  refine ⟨_, List.mem_map_of_mem hb, ?_⟩
  split_ifs at hsent
  · exact exchange_acks hsent
  · simp at hsent

lemma TaskRuns.receives {lost : List Reception} (hhost : hostAddr ≠ 0)
    (h : TaskRuns behind (base ++ lost.map .heard) handler (rs, handler') log) :
    ∃ ext ps, log = base ++ ext ∧ Receives hostAddr remoteSrcAddr behind handler rs handler' ext ps [] := by
  obtain ⟨batches, rfl, hout, -⟩ := h
  obtain ⟨rfl, rfl⟩ := Prod.mk.inj hout
  refine ⟨lost.map .heard ++ taskLog behind batches, taskPackets behind batches, List.append_assoc .., ?_⟩
  constructor
  · rfl
  · exact handled_callbacks handler _
  · exact Or.inl rfl
  · rw [List.append_nil, List.filterMap_append]
    exact (taskBatches_sublist hhost batches).trans (List.sublist_append_right _ _)
  · intro frame hframe
    rw [List.append_nil]
    rcases List.mem_append.mp hframe with hlost | hlog
    · simp at hlost
    · exact taskLog_acks hlog

lemma final_iff (ctx : RxHandlerCtx) (p : Packet) :
    Final (.handled p (packetStep ctx p).1) ↔ endings (packetStep ctx p).1.callbacks ≠ [] := by
  have hstep := rxPacketHandler_step ctx (some p)
  change (packetStep ctx p).1.ret = .captureEnd ↔ _
  rw [packetStep]
  generalize (rxPacketHandler ctx (some p)).1 = outcome at hstep ⊢
  generalize (rxPacketHandler ctx (some p)).2 = ctx' at hstep
  cases hstep with
  | ignored hret => rcases hret with rfl | rfl | rfl <;> simp [endings]
  | redundant => simp [endings]
  | begin => simp [endings]
  | refused ha hr hret => rcases hret with rfl | rfl | rfl | rfl | rfl <;> simp [endings]
  | captured => simp [endings]
  | command => simp [endings]
  | finish => simp [endings]

lemma final_round_iff (ps : List Packet) :
    (∃ round ∈ (history packetStep handler ps).map fun e => RxRound.handled e.input e.output, Final round) ↔
      endings (callbacks handler ps) ≠ [] := by
  induction ps generalizing handler with
  | nil => simp [endings]
  | cons p ps ih =>
    rw [history_cons, List.map_cons, List.exists_mem_cons_iff, final_iff, ih, callbacks_cons, endings_append,
      ← not_and_or, ← List.append_eq_nil_iff]
    rfl

lemma TaskRuns.final_iff (h : TaskRuns behind base handler (rs, handler') log) :
    (∃ round ∈ rs, Final round) ↔ endings (rs.flatMap RxRound.callbacks) ≠ [] := by
  obtain ⟨batches, -, hout, -⟩ := h
  obtain ⟨rfl, -⟩ := Prod.mk.inj hout
  rw [handled_callbacks]
  exact final_round_iff _

end Sides

section Sender

variable {behind : ℕ → UInt8} {fuel : ℕ} {base : List AirEvent} {text : List UInt8}

def SendsText (behind : ℕ → UInt8) (base : List AirEvent) (text : List UInt8) (report : SenderReport)
    (log : List AirEvent) : Prop :=
  ∃ (lost : List Reception) (sends : List (Packet × List (List Reception))),
    log = base ++ lost.map .heard ++ burstOnAir sends ∧
      sends.map Prod.fst <+: framedBurst text receiverAddr senderAddr ackId ∧ AnsweredButLast behind sends ∧
      (report = .burstSent → AllAnswered behind sends ∧
        sends.map Prod.fst = framedBurst text receiverAddr senderAddr ackId)

lemma sendsText_nothing {report : SenderReport} (h : report ≠ .burstSent) : SendsText behind base text report base := by
  refine ⟨[], [], ?_, List.nil_prefix, Or.inl ?_, fun hsent => absurd hsent h⟩
  · simp [burstOnAir]
  · simp [AllAnswered]

lemma senderTask_begun (pBufOk mallocOk reallocOk : Bool) : Triple (Clear (On (Begun False base)))
    (senderTask (sx127xDriver fuel fun _ => behind) pBufOk mallocOk reallocOk text) fun report n =>
      SendsText behind base text report n.radio.world.log := by
  have hnothing : ∀ report, report ≠ SenderReport.burstSent → Triple (Clear (On (Begun False base)))
      (pure report : Prog (Node (Machine Transceiver)) SenderReport) fun report n =>
        SendsText behind base text report n.radio.world.log := by
    intro report hreport
    apply Triple.pure
    intro n hn
    rw [hn.2.2.2.log]
    exact sendsText_nothing hreport
  apply Triple.ite
  · exact fun _ => hnothing _ (by decide)
  intro _
  cases hbuild : dataToPacketArray mallocOk reallocOk text receiverAddr senderAddr ackId true with
  | mk ret pBuf =>
    apply Triple.ite
    · exact fun _ => hnothing _ (by decide)
    intro hret
    obtain rfl : ret = 0 := not_not.mp hret
    rw [dataToPacketArray_framed hbuild]
    refine .bind sendBurstFrom_begun fun ret => .exists_pre fun lost => .given fun _ => ?_
    apply Triple.ite
    · intro _
      apply Triple.pure
      intro n hsent
      obtain ⟨sends, hlog, hprefix, hanswered, -⟩ := SendsBurst.part hsent
      exact ⟨lost, sends, hlog, hprefix, hanswered, fun h => absurd h (by decide)⟩
    · intro hok
      apply Triple.pure
      intro n hsent
      obtain ⟨sends, hlog, hprefix, hanswered, hwhole⟩ := SendsBurst.part hsent
      exact ⟨lost, sends, hlog, hprefix, hanswered, fun _ => hwhole (not_not.mp hok)⟩

end Sender

def printed (mallocOk : Bool) (rs : List RxRound) : List (Except Stop (Option (List UInt8))) :=
  (endings (rs.flatMap RxRound.callbacks)).map fun e => onBurstComplete mallocOk e.1

/-- The two boards of the example, each at its own speed, over an air that loses and damages frames. No command
reaches the handler, which has no callback for one. The receiver prints the text or nothing, and its task ends
exactly when it has printed. Once the sender prints "burst sent", the receiver has printed the text. -/
theorem burst_example_on_air (text : List UInt8) (hfits : text.length ≤ maxBurstBytes) (hstring : 0 ∉ text)
    (pBufOk mallocOk reallocOk bufOk : Bool) (behindS behindR : ℕ → UInt8) (fuelS fuelR rounds : ℕ)
    (mS mR : Machine Transceiver) (hS : On (fun t => t.transmission = none) mS)
    (hR : On (fun t => t.transmission = none) mR) (report : SenderReport) (rs : List RxRound) (handler' : RxHandlerCtx)
    (nS nR : Node (Machine Transceiver))
    (hsend : senderTask (sx127xDriver fuelS fun _ => behindS) pBufOk mallocOk reallocOk text ⟨mS, zeroBuffer⟩ =
      .ok (report, nS))
    (hreceive : rxTask (sx127xDriver fuelR fun _ => behindR) rounds (rxHandlerInit receiverAddr senderAddr)
      ⟨mR, zeroBuffer⟩ = .ok ((rs, handler'), nR))
    (air : List Crossing) (hfair : ∀ c ∈ air, c.Fair receiverAddr senderAddr behindS behindR)
    (hSair : nS.radio.world.log = mS.world.log ++ air.flatMap Crossing.atSender)
    (hRair : aired nR.radio.world = mR.world.log ++ air.flatMap Crossing.atReceiver) :
    let whole := [Except.ok (if bufOk then some text else none)]
    commands (rs.flatMap RxRound.callbacks) = [] ∧ (printed bufOk rs = [] ∨ printed bufOk rs = whole) ∧
      ((∃ round ∈ rs, Final round) ↔ printed bufOk rs ≠ []) ∧ (report = .burstSent → printed bufOk rs = whole) := by
  intro whole
  have hhost : receiverAddr ≠ 0 := by decide
  have hack : ackId ≠ 0 := by decide
  have hidle : Idle receiverAddr senderAddr (rxHandlerInit receiverAddr senderAddr) := ⟨rfl, rfl, rfl, rfl, Or.inl rfl⟩
  obtain ⟨lost, sends, hlog, hprefix, hanswered, hwhole⟩ :=
    senderTask_begun _ _ _ _ _ _ (clear_begun hS.1 hS.2.1 hS.2.2) hsend
  obtain ⟨lost', hruns⟩ := rxTask_runs _ _ _ (clear_begun hR.1 hR.2.1 hR.2.2) hreceive
  obtain ⟨ext, ps, hext, hreceived⟩ := hruns.receives hhost
  obtain rfl : air.flatMap Crossing.atReceiver = ext := List.append_cancel_left (hRair.symm.trans hext)
  have hsender : air.flatMap Crossing.atSender = lost.map .heard ++ burstOnAir sends := by
    rw [hSair, List.append_assoc] at hlog
    exact List.append_cancel_left hlog
  have hlinked : Linked receiverAddr senderAddr text ackId behindS behindR air lost sends ps [] :=
    ⟨hfits, hfair, hsender, hprefix, hreceived.heard, hreceived.acks⟩
  have hprinted : ∀ ds, ds = dataPackets text receiverAddr senderAddr ackId 1 →
      endings (rs.flatMap RxRound.callbacks) = [(ds.map some, ds.length)] → printed bufOk rs = whole := by
    rintro _ rfl hend
    rw [printed, hend, List.map_singleton, onBurstComplete_dataPackets hstring]
  have houtcome := interrupted_outcome hidle hack hfits (hlinked.reached hhost hanswered)
  rw [← hreceived.callbacks_eq] at houtcome
  refine ⟨houtcome.1, houtcome.2.imp (fun hnone => by rw [printed, hnone]; rfl) (hprinted _ rfl), ?_, ?_⟩
  · rw [hruns.final_iff, printed, Ne, Ne, List.map_eq_nil_iff]
  · intro hsent
    obtain ⟨hall, hfst⟩ := hwhole hsent
    have hstut := hlinked.whole hhost hall
    rw [hfst, List.append_nil] at hstut
    apply hprinted _ rfl
    rw [hreceived.callbacks_eq]
    exact (stuttered_outcome hidle hack hfits hstut).2

theorem burst_example_on_air_letter :
    ∃ (rs : List RxRound) (nS nR : Node (Machine Transceiver)) (handler' : RxHandlerCtx) (mS mR : Machine Transceiver),
      senderTask (sx127xDriver 4 fun _ _ => 0) true true true [65] ⟨mS, zeroBuffer⟩ = .ok (.burstSent, nS) ∧
      rxTask (sx127xDriver 4 fun _ _ => 0) 5 (rxHandlerInit receiverAddr senderAddr) ⟨mR, zeroBuffer⟩ =
        .ok ((rs, handler'), nR) ∧
      rs.length = 3 ∧ commands (rs.flatMap RxRound.callbacks) = [] ∧ printed true rs = [.ok (some [65])] := by
  let air := letterAir receiverAddr senderAddr ackId
  obtain ⟨report, nS, hsend, rfl, hS⟩ := Prog.returns
    (x := senderTask (sx127xDriver 4 fun _ _ => 0) true true true [65])
    (s := ⟨letterSender receiverAddr senderAddr ackId, zeroBuffer⟩)
    (fun report n => report = .burstSent ∧ n.radio.world.log = air.flatMap Crossing.atSender) (by decide +kernel)
  obtain ⟨⟨rs, handler'⟩, nR, hreceive, hR, hlength⟩ := Prog.returns
    (x := rxTask (sx127xDriver 4 fun _ _ => 0) 5 (rxHandlerInit receiverAddr senderAddr))
    (s := ⟨letterReceiver receiverAddr senderAddr ackId, zeroBuffer⟩)
    (fun out n => aired n.radio.world = air.flatMap Crossing.atReceiver ∧ out.1.length = 3) (by decide +kernel)
  obtain ⟨hcommands, -, -, hprinted⟩ := burst_example_on_air [65] (by decide) (by decide) true true true true
    (fun _ => 0) (fun _ => 0) 4 4 5 _ _ ⟨rfl, rfl, rfl⟩ ⟨rfl, rfl, rfl⟩ .burstSent rs handler' nS nR hsend hreceive air
    (letterAir_fair _ _ _ _ _) hS hR
  exact ⟨rs, nS, nR, handler', _, _, hsend, hreceive, hlength, hcommands, hprinted rfl⟩

end LoraNetworking.Transceiver
