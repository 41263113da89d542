import LoraNetworking.Chip
import LoraNetworking.EspBus

/-! The callbacks as the register accesses that they stand for. Over a bus that behaves as documented
an access is done once and whole, or not at all. -/

namespace LoraNetworking.Esp32

open StateProg

variable {ε ρ α β : Type}

structure Registers (ρ : Type) where
  write : UInt8 → List UInt8 → ρ → ρ
  read : UInt8 → ℕ → ρ → List UInt8 × ρ

/-- The chip on its bus, and the command byte that it was sent while chip select stays active. -/
structure Wire (ρ : Type) where
  chip : ρ
  held : Bool
  command : Option UInt8

/-- What ESP-IDF documents of the calls, and the chip of its command byte. -/
structure Wired (regs : Registers ρ) (idf : EspIdf ε) (wire : ε → Wire ρ) : Prop where
  acquired : ∀ e, (wire e).held = false → (idf.spiDeviceAcquireBus.run e).1 = .espOk ∧
    wire (idf.spiDeviceAcquireBus.run e).2 = { wire e with held := true }
  released : ∀ e, (wire e).held = true → wire (idf.spiDeviceReleaseBus.run e).2 = { wire e with held := false }
  allocated : ∀ size e, wire ((idf.heapCapsMalloc size).run e).2 = wire e
  freed : ∀ block e, wire ((idf.free block).run e).2 = wire e
  timed : ∀ e, wire (idf.espTimerGetTime.run e).2 = wire e
  delayed : ∀ ticks e, wire ((idf.vTaskDelay ticks).run e).2 = wire e
  refused : ∀ t e, (wire e).held = true → ((idf.spiDeviceTransmit t).run e).1.1 ≠ .espOk →
    wire ((idf.spiDeviceTransmit t).run e).2 = wire e
  selected : ∀ command e, (wire e).held = true → (wire e).command = none →
    ((idf.spiDeviceTransmit ⟨8, [command], false, true⟩).run e).1.1 = .espOk →
      wire ((idf.spiDeviceTransmit ⟨8, [command], false, true⟩).run e).2 = { wire e with command := some command }
  sent : ∀ command data e, (wire e).held = true → (wire e).command = some command → command &&& 0x80 ≠ 0 →
    ((idf.spiDeviceTransmit ⟨data.length * 8, data, false, false⟩).run e).1.1 = .espOk →
      wire ((idf.spiDeviceTransmit ⟨data.length * 8, data, false, false⟩).run e).2 =
        ⟨regs.write (command &&& 0x7F) data (wire e).chip, true, none⟩
  received : ∀ command len e, (wire e).held = true → (wire e).command = some command → command &&& 0x80 = 0 →
    ((idf.spiDeviceTransmit ⟨len * 8, List.replicate len 0, true, false⟩).run e).1.1 = .espOk →
      ((idf.spiDeviceTransmit ⟨len * 8, List.replicate len 0, true, false⟩).run e).1.2 =
          (regs.read command len (wire e).chip).1 ∧
        wire ((idf.spiDeviceTransmit ⟨len * 8, List.replicate len 0, true, false⟩).run e).2 =
          ⟨(regs.read command len (wire e).chip).2, true, none⟩

/-- There is memory for transfers, and a transaction is not refused once its command byte is out. -/
structure Dependable (idf : EspIdf ε) (wire : ε → Wire ρ) : Prop where
  memory : ∀ size e, ((idf.heapCapsMalloc size).run e).1 ≠ none
  finished : ∀ t e, (wire e).command ≠ none → ((idf.spiDeviceTransmit t).run e).1.1 = .espOk

/-- The registers without a bus. An access is refused when the callback would fail, and then nothing is done. -/
def registerPlatform (regs : Registers ρ) (idf : EspIdf ε) : Platform (ε × ρ) where
  spiPort :=
    { writer := fun reg data w =>
        let (ret, e) := (espSpiWrite idf reg data).run w.1
        if ret = .espOk then (.sxOk, (e, regs.write reg data w.2)) else (.sxInvalidState, (e, w.2))
      reader := fun reg len w =>
        let ((ret, _), e) := (espSpiRead idf reg len).run w.1
        if ret = .espOk then
          -- a read of no bytes does not reach the bus
          if len = 0 then ((.sxOk, []), (e, w.2))
          else ((.sxOk, ((regs.read reg len w.2).1.take len).map some), (e, (regs.read reg len w.2).2))
        else ((.sxInvalidState, []), (e, w.2))
      initialized := true }
  timerCtx :=
    { timer := fun w => ((getTimeUs idf).run w.1 |>.1, ((getTimeUs idf).run w.1 |>.2, w.2))
      delayer := fun ms w => (((delayMs idf ms).run w.1).2, w.2) }

section Transactions

variable {x : StateM ε α} {f : α → StateM ε β} {pre : ε → Prop} {post : α → ε → Prop} {out : β → ε → Prop}

def Ends (pre : ε → Prop) (x : StateM ε α) (post : α → ε → Prop) : Prop :=
  ∀ e, pre e → post (x.run e).1 (x.run e).2

lemma Ends.pure {a : α} (h : ∀ e, pre e → post a e) : Ends pre (Pure.pure a) post := h

lemma Ends.bind (hx : Ends pre x post) (hf : ∀ a, Ends (post a) (f a) out) : Ends pre (x >>= f) out :=
  fun e he => hf _ _ (hx e he)

lemma Ends.given {P : Prop} (h : P → Ends pre x post) : Ends (fun e => P ∧ pre e) x post :=
  fun e he => h he.1 e he.2

variable {regs : Registers ρ} {idf : EspIdf ε} {wire : ε → Wire ρ} {chip : ρ} {v : Wire ρ} {reg : UInt8}

def At (wire : ε → Wire ρ) (v : Wire ρ) (e : ε) : Prop := wire e = v

lemma acquire_ends (h : Wired regs idf wire) : Ends (At wire ⟨chip, false, none⟩) idf.spiDeviceAcquireBus
    fun ret e => ret = .espOk ∧ At wire ⟨chip, true, none⟩ e := by
  intro e he
  obtain ⟨hret, hwire⟩ := h.acquired e (by rw [he])
  exact ⟨hret, hwire.trans (by rw [he])⟩

lemma malloc_ends (h : Wired regs idf wire) (hd : Dependable idf wire) (size : ℕ) :
    Ends (At wire v) (idf.heapCapsMalloc size) fun block e => block ≠ none ∧ At wire v e :=
  fun e he => ⟨hd.memory size e, (h.allocated size e).trans he⟩

lemma cleanup_ends (h : Wired regs idf wire) (blocks : List (Option ℕ)) :
    Ends (At wire ⟨chip, true, none⟩) (cleanup idf blocks) fun _ => At wire ⟨chip, false, none⟩ := by
  induction blocks with
  | nil =>
    intro e he
    exact (h.released e (by rw [he])).trans (by rw [he])
  | cons block blocks ih =>
    cases block with
    | none => exact ih
    | some block =>
      have hfree : Ends (At wire ⟨chip, true, none⟩) (idf.free block) fun _ => At wire ⟨chip, true, none⟩ :=
        fun e he => (h.freed block e).trans he
      exact hfree.bind fun _ => ih

lemma command_ends (h : Wired regs idf wire) (command : UInt8) : Ends (At wire ⟨chip, true, none⟩)
    (idf.spiDeviceTransmit ⟨8, [command], false, true⟩) fun out =>
      At wire ⟨chip, true, if out.1 = .espOk then some command else none⟩ := by
  intro e he
  by_cases hret : ((idf.spiDeviceTransmit ⟨8, [command], false, true⟩).run e).1.1 = .espOk
  · rw [if_pos hret]
    exact (h.selected command e (by rw [he]) (by rw [he]) hret).trans (by rw [he])
  · rw [if_neg hret]
    exact (h.refused _ e (by rw [he]) hret).trans he

lemma command_bits : ∀ b : BitVec 8, b &&& 0x80#8 = 0#8 →
    (b ||| 0x80#8) &&& 0x7F#8 = b ∧ b &&& 0x7F#8 = b ∧ (b ||| 0x80#8) &&& 0x80#8 ≠ 0#8 := by
  decide

lemma write_command (h : reg &&& 0x80 = 0) : (reg ||| 0x80) &&& 0x7F = reg ∧ (reg ||| 0x80) &&& 0x80 ≠ 0 := by
  rw [← UInt8.toBitVec_inj] at h
  rw [Ne, ← UInt8.toBitVec_inj, ← UInt8.toBitVec_inj]
  exact ⟨(command_bits _ h).1, (command_bits _ h).2.2⟩

lemma read_command (h : reg &&& 0x80 = 0) : reg &&& 0x7F = reg := by
  rw [← UInt8.toBitVec_inj] at h ⊢
  exact (command_bits _ h).2.1

lemma data_ends (h : Wired regs idf wire) (hd : Dependable idf wire) (hreg : reg &&& 0x80 = 0) (data : List UInt8) :
    Ends (At wire ⟨chip, true, some (reg ||| 0x80)⟩) (idf.spiDeviceTransmit ⟨data.length * 8, data, false, false⟩)
      fun out e => out.1 = .espOk ∧ At wire ⟨regs.write reg data chip, true, none⟩ e := by
  intro e he
  have hdone := hd.finished ⟨data.length * 8, data, false, false⟩ e (by rw [he]; exact Option.some_ne_none _)
  obtain ⟨hmask, hwrite⟩ := write_command hreg
  have hsent := h.sent _ data e (by rw [he]) (by rw [he]) hwrite hdone
  rw [hmask, he] at hsent
  exact ⟨hdone, hsent⟩

lemma answer_ends (h : Wired regs idf wire) (hd : Dependable idf wire) (hreg : reg &&& 0x80 = 0) (len : ℕ) :
    Ends (At wire ⟨chip, true, some (reg &&& 0x7F)⟩)
      (idf.spiDeviceTransmit ⟨len * 8, List.replicate len 0, true, false⟩) fun out e =>
        (out.1 = .espOk ∧ out.2 = (regs.read reg len chip).1) ∧ At wire ⟨(regs.read reg len chip).2, true, none⟩ e := by
  intro e he
  rw [read_command hreg] at he
  have hdone := hd.finished ⟨len * 8, List.replicate len 0, true, false⟩ e (by rw [he]; exact Option.some_ne_none _)
  obtain ⟨hbytes, hreceived⟩ := h.received _ len e (by rw [he]) (by rw [he]) hreg hdone
  rw [he] at hbytes hreceived
  exact ⟨⟨hdone, hbytes⟩, hreceived⟩

lemma writeTransactions_ends (h : Wired regs idf wire) (hd : Dependable idf wire) (hreg : reg &&& 0x80 = 0)
    (data : List UInt8) : Ends (At wire ⟨chip, true, none⟩) (writeTransactions idf reg data) fun ret =>
      At wire ⟨if ret = .espOk then regs.write reg data chip else chip, true, none⟩ := by
  refine Ends.bind (command_ends h _) ?_
  rintro ⟨ret, _⟩
  dsimp only
  by_cases hret : ret = .espOk
  · rw [if_pos hret, if_neg (not_not.mpr hret)]
    refine Ends.bind (data_ends h hd hreg data) ?_
    rintro ⟨ret, _⟩
    apply Ends.given
    rintro rfl
    exact .pure fun e he => he
  · rw [if_neg hret, if_pos hret]
    apply Ends.pure
    intro e he
    rwa [if_neg hret]

lemma espSpiWrite_ends (h : Wired regs idf wire) (hd : Dependable idf wire) (hreg : reg &&& 0x80 = 0)
    {data : List UInt8} (hdata : data ≠ []) : Ends (At wire ⟨chip, false, none⟩) (espSpiWrite idf reg data) fun ret =>
      At wire ⟨if ret = .espOk then regs.write reg data chip else chip, false, none⟩ := by
  have hlen : ¬ data.length ≤ 0 := not_le.mpr (List.length_pos_iff.mpr hdata)
  refine Ends.bind (acquire_ends h) ?_
  intro ret
  apply Ends.given
  rintro rfl
  rw [if_neg (not_not.mpr rfl)]
  refine Ends.bind (malloc_ends h hd _) ?_
  intro dataDma
  apply Ends.given
  intro hdma
  rw [if_neg hdma, if_neg hlen]
  refine Ends.bind (malloc_ends h hd _) ?_
  intro cmd
  apply Ends.given
  intro hcmd
  rw [if_neg hcmd]
  refine Ends.bind (writeTransactions_ends h hd hreg data) ?_
  intro ret
  exact (cleanup_ends h _).bind fun _ => .pure fun _ he => he

lemma readTransactions_ends (h : Wired regs idf wire) (hd : Dependable idf wire) (hreg : reg &&& 0x80 = 0) (len : ℕ) :
    Ends (At wire ⟨chip, true, none⟩) (readTransactions idf reg len) fun out e =>
      out.2.1 = (if out.1 = .espOk then (regs.read reg len chip).1.take len else []) ∧
        At wire ⟨if out.1 = .espOk then (regs.read reg len chip).2 else chip, true, none⟩ e := by
  refine Ends.bind (command_ends h _) ?_
  rintro ⟨ret, _⟩
  dsimp only
  by_cases hret : ret = .espOk
  · rw [if_pos hret, if_neg (not_not.mpr hret)]
    refine Ends.bind (malloc_ends h hd _) ?_
    intro retDataDma
    apply Ends.given
    intro hdma
    rw [if_neg hdma]
    refine Ends.bind (answer_ends h hd hreg len) ?_
    rintro ⟨ret, bytes⟩
    apply Ends.given
    rintro ⟨rfl, rfl⟩
    exact .pure fun e he => ⟨rfl, he⟩
  · rw [if_neg hret, if_pos hret]
    apply Ends.pure
    intro e he
    rw [if_neg hret, if_neg hret]
    exact ⟨rfl, he⟩

lemma espSpiRead_ends (h : Wired regs idf wire) (hd : Dependable idf wire) (hreg : reg &&& 0x80 = 0) {len : ℕ}
    (hlen : len ≠ 0) : Ends (At wire ⟨chip, false, none⟩) (espSpiRead idf reg len) fun out e =>
      out.2 = (if out.1 = .espOk then (regs.read reg len chip).1.take len else []) ∧
        At wire ⟨if out.1 = .espOk then (regs.read reg len chip).2 else chip, false, none⟩ e := by
  unfold espSpiRead
  rw [if_neg (by rwa [Nat.le_zero])]
  refine Ends.bind (malloc_ends h hd _) ?_
  intro dummy
  apply Ends.given
  intro hdummy
  rw [if_neg hdummy]
  refine Ends.bind (malloc_ends h hd _) ?_
  intro cmd
  apply Ends.given
  intro hcmd
  rw [if_neg hcmd]
  refine Ends.bind (acquire_ends h) ?_
  intro ret
  apply Ends.given
  rintro -
  refine Ends.bind (readTransactions_ends h hd hreg len) ?_
  rintro ⟨ret, data, retDataDma⟩
  apply Ends.given
  intro hdata
  exact (cleanup_ends h _).bind fun _ => .pure fun _ he => ⟨hdata, he⟩

end Transactions

section Platforms

variable {regs : Registers ρ} {idf : EspIdf ε} {wire : ε → Wire ρ}

lemma platform_writer (reg : UInt8) (data : List UInt8) (e : ε) : (platform idf).spiPort.writer reg data e =
    (if ((espSpiWrite idf reg data).run e).1 = .espOk then .sxOk else .sxInvalidState,
      ((espSpiWrite idf reg data).run e).2) := rfl

lemma platform_reader (reg : UInt8) (len : ℕ) (e : ε) : (platform idf).spiPort.reader reg len e =
    ((if ((espSpiRead idf reg len).run e).1.1 = .espOk then .sxOk else .sxInvalidState,
      ((espSpiRead idf reg len).run e).1.2.map some), ((espSpiRead idf reg len).run e).2) := rfl

lemma registers_alike (h : Wired regs idf wire) (hd : Dependable idf wire) :
    Alike (fun e w => e = w.1 ∧ wire e = ⟨w.2, false, none⟩) (platform idf) (registerPlatform regs idf) where
  initialized := rfl
  writes := by
    rintro e ⟨_, chip⟩ reg data ⟨rfl, he⟩ hreg hdata
    have hends := espSpiWrite_ends h hd hreg hdata e he
    rw [platform_writer, registerPlatform]
    dsimp only
    generalize (espSpiWrite idf reg data).run e = r at hends ⊢
    obtain ⟨ret, e'⟩ := r
    dsimp only at hends ⊢
    split_ifs at hends ⊢ with hret
    · exact ⟨rfl, rfl, hends⟩
    · exact ⟨rfl, rfl, hends⟩
  reads := by
    rintro e ⟨_, chip⟩ reg len ⟨rfl, he⟩ hreg
    by_cases hlen : len = 0
    · subst hlen
      exact ⟨rfl, rfl, he⟩
    have hends := espSpiRead_ends h hd hreg hlen e he
    rw [platform_reader, registerPlatform]
    dsimp only
    generalize (espSpiRead idf reg len).run e = r at hends ⊢
    obtain ⟨⟨ret, data⟩, e'⟩ := r
    dsimp only at hends ⊢
    obtain ⟨hdata, hwire⟩ := hends
    split_ifs at hdata hwire ⊢ with hret
    · exact ⟨by rw [hdata], rfl, hwire⟩
    · exact ⟨by rw [hdata]; rfl, rfl, hwire⟩
  times := by
    rintro e ⟨_, chip⟩ ⟨rfl, he⟩
    exact ⟨rfl, rfl, (h.timed e).trans he⟩
  delays := by
    rintro e ⟨_, chip⟩ ms ⟨rfl, he⟩
    exact ⟨rfl, (h.delayed _ e).trans he⟩

end Platforms

def onRegisters (regs : Registers ρ) (idf : EspIdf ε) (chip : ρ) (m : Machine ε) : Machine (ε × ρ) :=
  ⟨(m.world, chip), (registerPlatform regs idf).spiPort, (registerPlatform regs idf).timerCtx, m.loraBandwidthHz,
    m.spreadingFactor⟩

/-- No application can tell the board from the registers themselves: whatever it calls, it gets the same results,
and the chip ends in the same state. Between calls the bus is free and chip select is released. -/
theorem board_is_registers (regs : Registers ρ) (idf : EspIdf ε) (wire : ε → Wire ρ) (hwired : Wired regs idf wire)
    (hdependable : Dependable idf wire) (fuel : ℕ) (behind : ℕ → UInt8) (app : App α) (m : Machine ε)
    (hspi : m.sx127xSpiPort = (platform idf).spiPort) (htimer : m.sx127xTimerCtx = (platform idf).timerCtx) (chip : ρ)
    (hchip : wire m.world = ⟨chip, false, none⟩) (rxBuffer : RxBuffer) :
    Lockstep (fun a n b n' => a = b ∧ n.rxBuffer = n'.rxBuffer ∧
        n.radio.loraBandwidthHz = n'.radio.loraBandwidthHz ∧ n.radio.spreadingFactor = n'.radio.spreadingFactor ∧
        wire n.radio.world = ⟨n'.radio.world.2, false, none⟩)
      (app.run fuel behind (platform idf) ⟨m, rxBuffer⟩)
      (app.run fuel behind (registerPlatform regs idf) ⟨onRegisters regs idf chip m, rxBuffer⟩) := by
  have hagree := agree_app (registers_alike hwired hdependable) fuel behind app ⟨m, rxBuffer⟩
    ⟨onRegisters regs idf chip m, rxBuffer⟩ ⟨⟨hspi, rfl, htimer, rfl, rfl, rfl, rfl, hchip⟩, rfl⟩
  apply hagree.mono
  rintro a n b n' ⟨hab, hradio, hbuf⟩
  exact ⟨hab, hbuf, hradio.bandwidth, hradio.factor, hradio.world.2⟩

section Bench

def plainRegisters : Registers (UInt8 → UInt8) where
  write reg data bank := store bank reg data
  read reg len bank := ((List.range len).map fun i => bank (reg + UInt8.ofNat i), bank)

def plainBoard : EspIdf (Wire (UInt8 → UInt8)) where
  spiDeviceAcquireBus := fun w => (.espOk, { w with held := true })
  spiDeviceReleaseBus := fun w => ((), { w with held := false })
  spiDeviceTransmit t := fun w =>
    match w.command with
    | none => ((.espOk, [0]), { w with command := t.txBuffer.head? })
    | some command =>
      if command &&& 0x80 = 0 then
        ((.espOk, (plainRegisters.read command (t.length / 8) w.chip).1), { w with command := none })
      else ((.espOk, []), { w with chip := plainRegisters.write (command &&& 0x7F) t.txBuffer w.chip, command := none })
  heapCapsMalloc _ := pure (some 0)
  free _ := pure ()
  espTimerGetTime := pure 0
  vTaskDelay _ := pure ()
  pdMsToTicks ms := ms / 10

lemma plainBoard_wired : Wired plainRegisters plainBoard id where
  acquired e _ := ⟨rfl, rfl⟩
  released e _ := rfl
  allocated _ _ := rfl
  freed _ _ := rfl
  timed _ := rfl
  delayed _ _ := rfl
  refused t e _ hret := by
    refine absurd ?_ hret
    obtain ⟨chip, held, command⟩ := e
    cases command with
    | none => rfl
    | some command =>
      simp only [plainBoard, StateT.run]
      split_ifs
      · rfl
      · rfl
  selected command e _ hnone _ := by
    obtain ⟨chip, held, _⟩ := e
    obtain rfl : _ = none := hnone
    rfl
  sent command data e hheld hsome hbit _ := by
    obtain ⟨chip, _, _⟩ := e
    obtain rfl : _ = true := hheld
    obtain rfl : _ = some command := hsome
    simp [plainBoard, StateT.run, hbit]
  received command len e hheld hsome hbit _ := by
    obtain ⟨chip, _, _⟩ := e
    obtain rfl : _ = true := hheld
    obtain rfl : _ = some command := hsome
    simp [plainBoard, StateT.run, hbit, plainRegisters]

lemma plainBoard_dependable : Dependable plainBoard (id : Wire (UInt8 → UInt8) → Wire (UInt8 → UInt8)) where
  memory _ _ := Option.some_ne_none _
  finished t e hsome := by
    obtain ⟨chip, held, command⟩ := e
    cases command with
    | none => exact absurd rfl hsome
    | some command =>
      simp only [plainBoard, StateT.run]
      split_ifs
      · rfl
      · rfl

end Bench

theorem board_is_registers_factor :
    let app : App Sx127xErr := .call (.setSpreadingFactor 7) .done
    let m := switchedOn (platform plainBoard) ⟨fun _ => 0, false, none⟩
    ∃ n n', app.run 1 (fun _ => 0) (platform plainBoard) ⟨m, zeroBuffer⟩ = .ok (.sxOk, n) ∧
      app.run 1 (fun _ => 0) (registerPlatform plainRegisters plainBoard)
        ⟨onRegisters plainRegisters plainBoard (fun _ => 0) m, zeroBuffer⟩ = .ok (.sxOk, n') ∧
      n.radio.world.chip 0x1E = 0x74 ∧ n'.radio.world.2 0x1E = 0x74 := by
  intro app m
  obtain ⟨ret, n, hrun, rfl, hfactor⟩ := Prog.returns (x := app.run 1 (fun _ => 0) (platform plainBoard))
    (s := ⟨m, zeroBuffer⟩) (fun ret n => ret = .sxOk ∧ n.radio.world.chip 0x1E = 0x74) (by decide +kernel)
  obtain ⟨ret, n', hrun', rfl, -, -, -, hwire⟩ := (board_is_registers plainRegisters plainBoard id plainBoard_wired
    plainBoard_dependable 1 (fun _ => 0) app m rfl rfl (fun _ => 0) rfl zeroBuffer).of_ok hrun
  have hchip : n.radio.world.chip = n'.radio.world.2 := congrArg Wire.chip hwire
  exact ⟨n, n', hrun, hrun', hfactor, hchip ▸ hfactor⟩

end LoraNetworking.Esp32
