import LoraNetworking.Chip
import LoraNetworking.PayloadTrust

/-! Reading the last payload, transaction by transaction: what is on the bus when it succeeds and
when it does not, and the one failure that it does not notice. -/

namespace LoraNetworking

open StateProg

def irqRxDone : UInt8 := 0b01000000

def irqPayloadCrcError : UInt8 := 0b00100000

structure ReadAccesses (payload : PayloadRead) (es : List BusAccess) : Prop where
  succeeded : payload.ret = .sxOk → ∃ irq count countStored addr fifo code,
    es = [.write 0x01 [modeLora ||| modeStdby] .sxOk, .read 0x12 1 .sxOk irq, .read 0x13 1 count countStored,
      .read 0x10 1 .sxOk addr, .write 0x0D [storedByte addr 0] .sxOk,
      .read 0x00 (storedByte countStored 0).toNat .sxOk fifo, .write 0x12 [0xFF] code] ∧
    storedByte irq 0 &&& irqRxDone ≠ 0 ∧ storedByte irq 0 &&& irqPayloadCrcError = 0 ∧
    payload.len = some (storedByte countStored 0).toNat ∧
    payload.stored = fifo.take (storedByte countStored 0).toNat
  failed : payload.ret ≠ .sxOk → payload.len = none ∧
    ((∃ irq, .read 0x12 1 .sxOk irq ∈ es) → ∃ code, es.getLast? = some (.write 0x12 [0xFF] code))

section Control

variable {ω : Type} {port : SpiPort ω} {ret code : Sx127xErr} {es : List BusAccess}
  {stored : List (Option UInt8)}

lemma readAccesses_cleared (hret : ret ≠ .sxOk) (es : List BusAccess) (code : Sx127xErr)
    (stored : List (Option UInt8)) : ReadAccesses ⟨ret, stored, none⟩ (es ++ [.write 0x12 [0xFF] code]) where
  succeeded h := absurd h hret
  failed _ := ⟨rfl, fun _ => ⟨code, List.getLast?_concat⟩⟩

lemma cleared_emits (hret : ret ≠ .sxOk) (before : List BusAccess) (stored : List (Option UInt8)) :
    Emits port (sx1278ClearIrq >>= fun _ => pure ⟨ret, stored, none⟩)
      fun payload es => ReadAccesses payload (before ++ es) := by
  apply Emits.bind (.write _ _)
  rintro code _ rfl
  apply Emits.pure
  rw [List.append_nil]
  exact readAccesses_cleared hret before code stored

lemma readLastPayload_emits : Emits port sx1278ReadLastPayload ReadAccesses := by
  apply Emits.bind (.write _ _)
  rintro ret _ rfl
  refine .ite (fun hret => .pure ⟨fun h => absurd h hret, fun _ => ⟨rfl, by simp⟩⟩) fun hret => ?_
  obtain rfl := not_not.mp hret
  apply Emits.bind (.readByte _ _)
  rintro ⟨ret, data⟩ _ ⟨irq, rfl, rfl⟩
  dsimp only
  refine .ite (fun hret => .pure ⟨fun h => absurd h hret, fun _ => ⟨rfl, ?_⟩⟩) fun hret => ?_
  · simp [hret.symm]
  obtain rfl := not_not.mp hret
  refine .ite (fun _ => cleared_emits (by decide)
    [.write 0x01 [modeLora ||| modeStdby] .sxOk, .read 0x12 1 .sxOk irq] []) fun hdone => ?_
  refine .ite (fun _ => cleared_emits (by decide)
    [.write 0x01 [modeLora ||| modeStdby] .sxOk, .read 0x12 1 .sxOk irq] []) fun hcrc => ?_
  apply Emits.bind (.readByte _ _)
  rintro ⟨count, nPacketBytes⟩ _ ⟨countStored, rfl, rfl⟩
  apply Emits.bind (.readByte _ _)
  rintro ⟨ret, currentFifoAddr⟩ _ ⟨addr, rfl, rfl⟩
  dsimp only
  refine .ite (fun hret => cleared_emits hret
    [.write 0x01 [modeLora ||| modeStdby] .sxOk, .read 0x12 1 .sxOk irq, .read 0x13 1 count countStored,
      .read 0x10 1 ret addr] []) fun hret => ?_
  obtain rfl := not_not.mp hret
  apply Emits.bind (.write _ _)
  rintro ret _ rfl
  refine .ite (fun hret => cleared_emits hret
    [.write 0x01 [modeLora ||| modeStdby] .sxOk, .read 0x12 1 .sxOk irq, .read 0x13 1 count countStored,
      .read 0x10 1 .sxOk addr, .write 0x0D [storedByte addr 0] ret] []) fun hret => ?_
  obtain rfl := not_not.mp hret
  apply Emits.bind (.read _ _)
  rintro ⟨ret, stored⟩ _ ⟨fifo, rfl, rfl⟩
  dsimp only
  refine .ite (fun hret => cleared_emits hret
    [.write 0x01 [modeLora ||| modeStdby] .sxOk, .read 0x12 1 .sxOk irq, .read 0x13 1 count countStored,
      .read 0x10 1 .sxOk addr, .write 0x0D [storedByte addr 0] .sxOk,
      .read 0x00 (storedByte countStored 0).toNat ret fifo] _) fun hret => ?_
  obtain rfl := not_not.mp hret
  apply Emits.bind (.write _ _)
  rintro code _ rfl
  refine .pure ⟨fun _ => ⟨irq, count, countStored, addr, fifo, code, rfl, hdone, ?_, rfl, rfl⟩,
    fun h => absurd rfl h⟩
  exact not_not.mp hcrc

lemma readLastPayload_returns (m : Machine ω) : ∃ payload t, sx1278ReadLastPayload m = .ok (payload, t) := by
  have hstep : ∀ {α : Type} (f : Machine ω → α × Machine ω),
      Total (fun _ => True) (Prog.step f) fun _ _ => True := fun f s _ => ⟨_, _, rfl, trivial⟩
  have hpure : ∀ {α : Type} (a : α), Total (fun _ => True) (pure a : Radio ω α) fun _ _ => True :=
    fun a => .pure fun _ _ => trivial
  have hbyte : ∀ reg data, Total (fun _ => True) (spiReadByte (ω := ω) reg data) fun _ _ => True :=
    fun reg data => .bind (hstep _) fun _ => hpure _
  have hclear : ∀ payload : PayloadRead,
      Total (fun _ => True) (sx1278ClearIrq (ω := ω) >>= fun _ => pure payload) fun _ _ => True :=
    fun payload => .bind (hstep _) fun _ => hpure _
  have hread : Total (fun _ => True) (sx1278ReadLastPayload (ω := ω)) fun _ _ => True := by
    refine .bind (hstep _) fun _ => .ite (fun _ => hpure _) fun _ => ?_
    refine .bind (hbyte _ _) fun _ => .ite (fun _ => hpure _) fun _ => ?_
    refine .ite (fun _ => hclear _) fun _ => .ite (fun _ => hclear _) fun _ => ?_
    refine .bind (hbyte _ _) fun _ => .bind (hbyte _ _) fun _ => .ite (fun _ => hclear _) fun _ => ?_
    refine .bind (hstep _) fun _ => .ite (fun _ => hclear _) fun _ => ?_
    exact .bind (hstep _) fun _ => .ite (fun _ => hclear _) fun _ => hclear _
  obtain ⟨payload, t, hrun, -⟩ := hread m trivial
  exact ⟨payload, t, hrun⟩

end Control

structure ReadCompletely (c : Chip) (payload : PayloadRead) (es : List BusAccess) : Prop where
  accesses : ∃ irq fifo code, es =
    [.write 0x01 [modeLora ||| modeStdby] .sxOk, .read 0x12 1 .sxOk [some irq],
      .read 0x13 1 .sxOk [some (c.regs 0x13)], .read 0x10 1 .sxOk [some (c.regs 0x10)],
      .write 0x0D [c.regs 0x10] .sxOk, .read 0x00 (c.regs 0x13).toNat .sxOk fifo, .write 0x12 [0xFF] code] ∧
    irq &&& irqRxDone ≠ 0 ∧ irq &&& irqPayloadCrcError = 0
  len : payload.len = some (c.regs 0x13).toNat
  stored : payload.stored = load c.fifo (c.regs 0x10) (c.regs 0x13).toNat

def AllOrNothing (m : Machine (Recorded Chip)) : Prop :=
  ∃ payload t es, sx1278ReadLastPayload m = .ok (payload, t) ∧ t.world.log = m.world.log ++ es ∧
    (payload.ret = .sxOk → ReadCompletely m.world.world payload es) ∧
    (payload.ret ≠ .sxOk → payload.len = none ∧
      ((∃ irq, .read 0x12 1 .sxOk irq ∈ es) → ∃ code, es.getLast? = some (.write 0x12 [0xFF] code)))

def CountLost (m : Machine (Recorded Chip)) : Prop :=
  PayloadReadable m ∧ m.world.world.results (m.world.world.transactions + 2) ≠ .sxOk

section Values

variable {i : Bool} {c c' : Chip} {es : List BusAccess} {count code : Sx127xErr}
  {irq countStored addr fifo : List (Option UInt8)} {pointer : UInt8} {n : ℕ}

lemma replays_count
    (h : Replays (Chip.port i) c (.write 0x01 [modeLora ||| modeStdby] .sxOk :: .read 0x12 1 .sxOk irq ::
      .read 0x13 1 count countStored :: es) c') :
    count = c.results (c.transactions + 2) ∧ (count = .sxOk → countStored = [some (c.regs 0x13)]) := by
  obtain ⟨hstandby, hirq, hcount, -⟩ := h
  set c₁ := (Chip.writer 0x01 [modeLora ||| modeStdby] c).2
  set c₂ := (Chip.reader 0x12 1 c₁).2
  have hresult : c₂.result = c.results (c.transactions + 2) := by
    rw [Chip.result, Chip.reader_results, Chip.writer_results]
    rfl
  have hfst : c₂.result = count := Chip.reader_result hcount
  refine ⟨hfst.symm.trans hresult, fun hok => ?_⟩
  have hbyte := hcount.symm.trans (Chip.reader_byte (hfst.trans hok) (by decide))
  have hreg : c₂.tick.regs 0x13 = c.regs 0x13 := by
    rw [Chip.tick_regs (by decide), Chip.reader_regs (by decide) (by decide),
      Chip.writer_regs_of_ne (by decide) (by decide) (by decide)]
  rw [← hreg]
  exact congrArg Prod.snd hbyte

lemma replays_payload
    (h : Replays (Chip.port i) c [.write 0x01 [modeLora ||| modeStdby] .sxOk, .read 0x12 1 .sxOk irq,
      .read 0x13 1 count countStored, .read 0x10 1 .sxOk addr, .write 0x0D [pointer] .sxOk,
      .read 0x00 n .sxOk fifo, .write 0x12 [0xFF] code] c') :
    (∃ flags, irq = [some flags]) ∧ addr = [some (c.regs 0x10)] ∧ fifo = load c.fifo pointer n := by
  obtain ⟨hstandby, hirq, hcount, haddr, hpointer, hfifo, -⟩ := h
  set c₁ := (Chip.writer 0x01 [modeLora ||| modeStdby] c).2
  set c₂ := (Chip.reader 0x12 1 c₁).2
  set c₃ := (Chip.reader 0x13 1 c₂).2
  set c₄ := (Chip.reader 0x10 1 c₃).2
  set c₅ := (Chip.writer 0x0D [pointer] c₄).2
  refine ⟨⟨c₁.tick.regs 0x12, ?_⟩, ?_, ?_⟩
  · exact congrArg Prod.snd (hirq.symm.trans (Chip.reader_byte (Chip.reader_result hirq) (by decide)))
  · have hbyte := haddr.symm.trans (Chip.reader_byte (Chip.reader_result haddr) (by decide))
    have hreg : c₃.tick.regs 0x10 = c.regs 0x10 := by
      rw [Chip.tick_regs (by decide), Chip.reader_regs (by decide) (by decide),
        Chip.reader_regs (by decide) (by decide), Chip.writer_regs_of_ne (by decide) (by decide) (by decide)]
    rw [← hreg]
    exact congrArg Prod.snd hbyte
  · have hstored : fifo = c₅.tick.answer 0x00 n := Chip.reader_answer hfifo
    have hpointed : c₅.tick.regs 0x0D = pointer :=
      (Chip.tick_regs (by decide)).trans (Chip.writer_regs_self hpointer (by decide) (by decide))
    have hbank : c₄.fifo = c.fifo :=
      Chip.reader_fifo.trans (Chip.reader_fifo.trans (Chip.reader_fifo.trans (Chip.writer_fifo (by decide))))
    have hfifo₅ : c₅.tick.fifo = c.fifo :=
      Chip.tick_fifo.trans ((Chip.writer_fifo (by decide)).trans hbank)
    rwa [Chip.answer, if_pos rfl, hpointed, hfifo₅] at hstored

end Values

theorem payload_read_iff (m : Machine (Recorded Chip)) (i : Bool)
    (hport : m.sx127xSpiPort = (Chip.port i).recorded) (htimer : m.sx127xTimerCtx = stopwatch) :
    AllOrNothing m ↔ ¬ CountLost m := by
  obtain ⟨payload, t, hrun⟩ := readLastPayload_returns m
  have hret := readLastPayload_ret_iff hrun
  cases i with
  | false =>
    have hoff : m.sx127xSpiPort.initialized = false := by rw [hport]; rfl
    have hwrite : spiBurstWriteReg 0x01 [modeLora ||| modeStdby] m = .ok (.sxUnitUnitialized, m) :=
      congrArg Except.ok (if_pos hoff)
    have hnone : sx1278ReadLastPayload m = .ok (⟨.sxUnitUnitialized, [], none⟩, m) :=
      Prog.bind_of_ok hwrite
    refine ⟨fun _ h => ?_, fun _ => ⟨_, m, [], hnone, (List.append_nil _).symm, by simp, fun _ => ⟨rfl, by simp⟩⟩⟩
    exact absurd h.1.1 (by simp [hoff])
  | true =>
    obtain ⟨es, hran, hes⟩ := readLastPayload_emits m payload t ⟨hport, htimer, rfl⟩ hrun
    constructor
    · rintro ⟨payload', t', es', hrun', hlog, hread, -⟩ ⟨hreadable, hlost⟩
      obtain ⟨rfl, rfl⟩ : payload = payload' ∧ t = t' := by simpa [hrun] using hrun'
      obtain rfl : es = es' := List.append_cancel_left (hran.log.symm.trans hlog)
      obtain ⟨irq, fifo, code, rfl, -⟩ := (hread (hret.mpr hreadable)).accesses
      exact hlost (replays_count hran.replays).1.symm
    · intro hnot
      refine ⟨payload, t, es, hrun, hran.log, fun hok => ?_, hes.failed⟩
      obtain ⟨irq, count, countStored, addr, fifo, code, rfl, hdone, hcrc, hlen, hstored⟩ := hes.succeeded hok
      obtain ⟨hcount, hbyte⟩ := replays_count hran.replays
      have hcountOk : count = .sxOk := by
        by_contra hne
        exact hnot ⟨hret.mp hok, hcount ▸ hne⟩
      obtain rfl := hcountOk
      obtain rfl := hbyte rfl
      obtain ⟨⟨flags, rfl⟩, rfl, rfl⟩ := replays_payload hran.replays
      refine ⟨⟨flags, _, code, rfl, hdone, hcrc⟩, hlen, ?_⟩
      rw [hstored]
      exact List.take_of_length_le (by simp [load, storedByte])

def frameWaiting (results : ℕ → Sx127xErr) : Machine (Recorded Chip) where
  world :=
    { world :=
        { regs := fun reg => if reg = 0x12 then irqRxDone else if reg = 0x13 then 2 else 0
          fifo := fun a => a + 65
          results := results
          leftovers := fun _ => []
          raised := fun _ => 0
          transactions := 0
          transmission := none
          txDoneFrom := none
          seen := none }
      readings := fun i => i
      ticks := 0
      log := [] }
  sx127xSpiPort := (Chip.port true).recorded
  sx127xTimerCtx := stopwatch
  loraBandwidthHz := 125000
  spreadingFactor := 12

theorem payload_read_iff_frameWaiting : AllOrNothing (frameWaiting fun _ => .sxOk) :=
  (payload_read_iff _ true rfl rfl).mpr fun h => h.2 rfl

theorem not_allOrNothing_lostCount :
    let m := frameWaiting fun k => if k = 2 then .sxTimeout else .sxOk
    ¬ AllOrNothing m ∧ ∃ t, sx1278ReadLastPayload m = .ok (⟨.sxOk, [], some 0⟩, t) := by
  intro m
  have hrun : ∃ payload t, sx1278ReadLastPayload m = .ok (payload, t) ∧ payload = ⟨.sxOk, [], some 0⟩ ∧
      .read 0x13 1 .sxTimeout [] ∈ t.world.log ∧ ∀ e ∈ t.world.log, e ≠ .read 0x13 1 .sxOk [some 2] := by
    apply Prog.returns fun (payload : PayloadRead) (t : Machine (Recorded Chip)) =>
      payload = ⟨.sxOk, [], some 0⟩ ∧ .read 0x13 1 .sxTimeout [] ∈ t.world.log ∧
        ∀ e ∈ t.world.log, e ≠ .read 0x13 1 .sxOk [some 2]
    decide +kernel
  obtain ⟨payload, t, hrun, rfl, -, hlog⟩ := hrun
  refine ⟨?_, t, hrun⟩
  rintro ⟨payload', t', es, hrun', hes, hread, -⟩
  obtain ⟨rfl, rfl⟩ : _ = payload' ∧ t = t' := by simpa [hrun] using hrun'
  obtain ⟨irq, fifo, code, hacc, -⟩ := (hread rfl).accesses
  exact hlog (.read 0x13 1 .sxOk [some 2]) (by rw [hes, hacc]; simp [m, frameWaiting]) rfl

end LoraNetworking
