import LoraNetworking.Chip
import LoraNetworking.IrqPolling

/-! Sending a payload, transaction by transaction: when the transmission is started, when it is
confirmed, and whose TxDone confirms it. -/

namespace LoraNetworking

open StateProg

inductive PollRounds (mask : UInt8) (start timeoutUs : ℤ) (pollIntervalMs : ℕ) (cleanup : Bool) :
    UInt8 → Sx127xErr → List BusAccess → Prop
  | failed {irq ret stored code} : ret ≠ .sxOk →
      PollRounds mask start timeoutUs pollIntervalMs cleanup irq ret
        (.read 0x12 1 ret stored :: cleanupAccesses cleanup code)
  | met {irq stored code} : storedByte stored irq &&& mask ≠ 0 →
      PollRounds mask start timeoutUs pollIntervalMs cleanup irq .sxOk
        (.read 0x12 1 .sxOk stored :: cleanupAccesses cleanup code)
  | expired {irq stored us code} : storedByte stored irq &&& mask = 0 → us - start > timeoutUs →
      PollRounds mask start timeoutUs pollIntervalMs cleanup irq .sxTimeout
        (.read 0x12 1 .sxOk stored :: .time us :: cleanupAccesses cleanup code)
  | next {irq stored us ret es} : storedByte stored irq &&& mask = 0 → us - start ≤ timeoutUs →
      PollRounds mask start timeoutUs pollIntervalMs cleanup (storedByte stored irq) ret es →
      PollRounds mask start timeoutUs pollIntervalMs cleanup irq ret
        (.read 0x12 1 .sxOk stored :: .time us :: .delay pollIntervalMs :: es)

section Poll

variable {ω : Type} {port : SpiPort ω} {mask irq : UInt8} {start timeoutUs : ℤ} {interval fuel : ℕ}
  {cleanup : Bool}

lemma irqCleanup_emits (cleanup : Bool) :
    Emits port (irqCleanup cleanup) fun _ es => ∃ code, es = cleanupAccesses cleanup code := by
  cases cleanup with
  | true =>
    apply Emits.bind (.write _ _)
    rintro code _ rfl
    exact .pure ⟨code, rfl⟩
  | false => exact .pure ⟨.sxOk, rfl⟩

lemma cleanup_emits {cleanup : Bool} {ret : Sx127xErr} {Q : Sx127xErr → List BusAccess → Prop}
    (h : ∀ code, Q ret (cleanupAccesses cleanup code)) :
    Emits port (irqCleanup cleanup >>= fun _ => pure ret) Q := by
  apply Emits.bind (irqCleanup_emits cleanup)
  rintro _ _ ⟨code, rfl⟩
  apply Emits.pure
  rw [List.append_nil]
  exact h code

lemma pollLoop_emits (irq : UInt8) :
    Emits port (pollForIrqFlagLoop start timeoutUs interval mask cleanup fuel irq)
      (PollRounds mask start timeoutUs interval cleanup irq) := by
  induction fuel generalizing irq with
  | zero =>
    intro m ret t _ h
    exact absurd h (by simp [pollForIrqFlagLoop])
  | succ fuel ih =>
    apply Emits.bind (.readByte _ _)
    rintro ⟨ret, irq'⟩ _ ⟨stored, rfl, rfl⟩
    dsimp only
    refine .ite (fun hret => cleanup_emits fun code => .failed hret) fun hret => ?_
    obtain rfl := not_not.mp hret
    refine .ite (fun hmet => cleanup_emits fun code => .met hmet) fun hmet => ?_
    apply Emits.bind .time
    rintro us _ rfl
    refine .ite (fun hlate => cleanup_emits fun code => .expired (not_not.mp hmet) hlate) fun hlate => ?_
    apply Emits.bind (.delay _)
    rintro _ _ rfl
    intro m ret t hm h
    obtain ⟨es, hran, hes⟩ := ih _ m ret t hm h
    exact ⟨es, hran, .next (not_not.mp hmet) (not_lt.mp hlate) hes⟩

lemma poll_emits (fuel : ℕ) : Emits port (pollForIrqFlag fuel 3000 3 txDone true) fun ret es =>
    ∃ start rounds, es = .time start :: rounds ∧ PollRounds txDone start 3000000 3 true 0 ret rounds := by
  apply Emits.bind .time
  rintro start _ rfl
  intro m ret t hm h
  obtain ⟨es, hran, hes⟩ := pollLoop_emits _ m ret t hm h
  exact ⟨es, hran, start, es, rfl, hes⟩

end Poll

/-- The frame of `len` bytes is loaded at the address that register `0x0E` was read to hold. -/
def loading (stored : List (Option UInt8)) (len : UInt8) (buf : List UInt8) : List BusAccess :=
  [.write 0x01 [modeLora ||| modeStdby] .sxOk, .read 0x0E 1 .sxOk stored,
    .write 0x0D [storedByte stored 0] .sxOk, .write 0x22 [len] .sxOk,
    .write 0x00 (buf.take len.toNat) .sxOk, .write 0x12 [0xFF] .sxOk]

def modeAfterTx (switchToRxAfterTx : Bool) : UInt8 :=
  modeLora ||| (if switchToRxAfterTx then modeRxContinuous else modeSleep)

def BusAccess.StartsTx : BusAccess → Prop
  | .write reg data _ => reg = 0x01 ∧ data = [modeLora ||| modeTx]
  | _ => False

section Send

variable (len : UInt8) (buf : List UInt8) (next : UInt8)

/-- Everything that is checked succeeded, and the poll ended because it saw TxDone in time. -/
def Completed (es : List BusAccess) : Prop :=
  ∃ stored start rounds, es = loading stored len buf ++ .write 0x01 [modeLora ||| modeTx] .sxOk ::
      .time start :: (rounds ++ [.write 0x12 [0xFF] .sxOk, .write 0x01 [next] .sxOk]) ∧
    PollRounds txDone start 3000000 3 true 0 .sxOk rounds

def Stopped (ret : Sx127xErr) (es : List BusAccess) : Prop :=
  (∃ pre access, es = pre ++ [access] ∧ access.Returned ret) ∨
    ∃ stored start rounds, es = loading stored len buf ++ .write 0x01 [modeLora ||| modeTx] .sxOk ::
        .time start :: rounds ∧
      PollRounds txDone start 3000000 3 true 0 ret rounds

structure SendAccesses (ret : Sx127xErr) (es : List BusAccess) : Prop where
  loaded : ∀ pre access post, es = pre ++ access :: post → access.StartsTx →
    ∃ stored, pre = loading stored len buf
  completed_iff : ret = .sxOk ↔ Completed len buf next es
  stopped : ret ≠ .sxOk → Stopped len buf ret es

end Send

section Shapes

variable {len next : UInt8} {buf : List UInt8} {ret : Sx127xErr} {es pre : List BusAccess}
  {stored : List (Option UInt8)} {access : BusAccess}

lemma loading_startsTx (stored : List (Option UInt8)) (len : UInt8) (buf : List UInt8) :
    ∀ e ∈ loading stored len buf, ¬ e.StartsTx := by
  have hmode : modeLora ||| modeStdby ≠ modeLora ||| modeTx := by decide
  simp [loading, BusAccess.StartsTx, hmode]

lemma PollRounds.startsTx {mask irq : UInt8} {start timeoutUs : ℤ} {interval : ℕ} {cleanup : Bool}
    (h : PollRounds mask start timeoutUs interval cleanup irq ret es) : ∀ e ∈ es, ¬ e.StartsTx := by
  have hclean : ∀ code, ∀ e ∈ cleanupAccesses cleanup code, ¬ e.StartsTx := by
    cases cleanup with
    | true => simp [cleanupAccesses, BusAccess.StartsTx]
    | false => simp [cleanupAccesses]
  induction h with
  | failed _ => simpa [BusAccess.StartsTx] using hclean _
  | met _ => simpa [BusAccess.StartsTx] using hclean _
  | expired _ _ => simpa [BusAccess.StartsTx] using hclean _
  | next _ _ _ ih => simpa [BusAccess.StartsTx] using ih

lemma PollRounds.last {mask irq : UInt8} {start timeoutUs : ℤ} {interval : ℕ}
    (h : PollRounds mask start timeoutUs interval true irq ret es) :
    ∃ code, es.getLast? = some (.write 0x12 [0xFF] code) := by
  induction h with
  | failed _ => exact ⟨_, rfl⟩
  | met _ => exact ⟨_, rfl⟩
  | expired _ _ => exact ⟨_, rfl⟩
  | next _ _ _ ih =>
    obtain ⟨code, hlast⟩ := ih
    exact ⟨code, by simp only [List.getLast?_cons, hlast, Option.getD_some]⟩

lemma Completed.last (h : Completed len buf next es) :
    es.getLast? = some (.write 0x01 [next] .sxOk) := by
  obtain ⟨stored, start, rounds, rfl, -⟩ := h
  rw [List.getLast?_append_cons, List.getLast?_cons_cons, ← List.cons_append,
    List.getLast?_append_of_ne_nil _ (List.cons_ne_nil _ _)]
  rfl

lemma loaded_of_startsTx (hes : ∀ e ∈ es, ¬ e.StartsTx) :
    ∀ (pre : List BusAccess) (a : BusAccess) (post : List BusAccess),
      loading stored len buf ++ access :: es = pre ++ a :: post → a.StartsTx →
      ∃ stored, pre = loading stored len buf := by
  intro pre a post h ha
  have hbefore : a ∉ loading stored len buf := fun hmem => loading_startsTx _ _ _ a hmem ha
  have hafter : a ∉ es := fun hmem => hes a hmem ha
  exact ⟨stored, ((List.append_cons_inj_of_notMem hbefore hafter).mp h).1.symm⟩

lemma not_completed_of_failed (hret : ret ≠ .sxOk) (haccess : access.Returned ret) :
    ¬ Completed len buf next (pre ++ [access]) := by
  intro h
  have hlast := h.last
  rw [List.getLast?_concat] at hlast
  obtain rfl := Option.some.inj hlast
  exact hret haccess.symm

lemma sendAccesses_failed (hret : ret ≠ .sxOk) (haccess : access.Returned ret)
    (hloaded : ∀ pre' a post, pre ++ [access] = pre' ++ a :: post → a.StartsTx →
      ∃ stored, pre' = loading stored len buf) : SendAccesses len buf next ret (pre ++ [access]) where
  loaded pre' a post h := hloaded pre' a post h
  completed_iff := iff_of_false hret (not_completed_of_failed hret haccess)
  stopped _ := Or.inl ⟨pre, access, rfl, haccess⟩

lemma sendAccesses_unloaded (stored : List (Option UInt8)) (k : ℕ) (hret : ret ≠ .sxOk)
    (haccess : access.Returned ret) (hstarts : ¬ access.StartsTx) :
    SendAccesses len buf next ret ((loading stored len buf).take k ++ [access]) := by
  apply sendAccesses_failed hret haccess
  intro pre' a post h ha
  have hmem : a ∈ (loading stored len buf).take k ++ [access] := by rw [h]; simp
  cases List.mem_append.mp hmem with
  | inl hmem => exact absurd ha (loading_startsTx _ _ _ a (List.mem_of_mem_take hmem))
  | inr hmem =>
    obtain rfl := List.mem_singleton.mp hmem
    exact absurd ha hstarts

lemma sendAccesses_notStarted (hret : ret ≠ .sxOk) (haccess : access.Returned ret) :
    SendAccesses len buf next ret (loading stored len buf ++ [access]) :=
  sendAccesses_failed hret haccess (loaded_of_startsTx (by simp))

lemma sendAccesses_polled {start : ℤ} {rounds : List BusAccess} (hret : ret ≠ .sxOk)
    (h : PollRounds txDone start 3000000 3 true 0 ret rounds) :
    SendAccesses len buf next ret
      (loading stored len buf ++ .write 0x01 [modeLora ||| modeTx] .sxOk :: .time start :: rounds) where
  loaded := loaded_of_startsTx (by simpa [BusAccess.StartsTx] using h.startsTx)
  completed_iff := by
    refine iff_of_false hret fun hcompleted => ?_
    obtain ⟨code, hlast⟩ := h.last
    have hlast' := hcompleted.last
    rw [List.getLast?_append, List.getLast?_cons_cons, List.getLast?_cons, hlast] at hlast'
    simp at hlast'
  stopped _ := Or.inr ⟨stored, start, rounds, rfl, h⟩

lemma polled_startsTx {start : ℤ} {rounds tail : List BusAccess}
    (h : PollRounds txDone start 3000000 3 true 0 ret rounds) (htail : ∀ e ∈ tail, ¬ e.StartsTx) :
    ∀ e ∈ .time start :: (rounds ++ tail), ¬ e.StartsTx := by
  intro e he
  cases List.mem_cons.mp he with
  | inl hstart =>
    subst hstart
    exact id
  | inr he =>
    cases List.mem_append.mp he with
    | inl hround => exact h.startsTx e hround
    | inr hlast => exact htail e hlast

lemma clear_startsTx (code : Sx127xErr) : ¬ (BusAccess.write 0x12 [0xFF] code).StartsTx :=
  fun hstarts => absurd hstarts.1 (by decide)

lemma next_startsTx (hnext : next ≠ modeLora ||| modeTx) (code : Sx127xErr) :
    ¬ (BusAccess.write 0x01 [next] code).StartsTx :=
  fun hstarts => hnext (List.singleton_inj.mp hstarts.2)

lemma sendAccesses_after {start : ℤ} {rounds : List BusAccess} {code : Sx127xErr}
    (h : PollRounds txDone start 3000000 3 true 0 code rounds) (tail : List BusAccess) (access : BusAccess)
    (hlast : tail.getLast? = some access) (hret : ret ≠ .sxOk) (haccess : access.Returned ret)
    (htail : ∀ e ∈ tail, ¬ e.StartsTx) :
    SendAccesses len buf next ret
      (loading stored len buf ++ .write 0x01 [modeLora ||| modeTx] .sxOk :: .time start :: (rounds ++ tail)) := by
  obtain ⟨before, rfl⟩ := List.getLast?_eq_some_iff.mp hlast
  have hshape : loading stored len buf ++ .write 0x01 [modeLora ||| modeTx] .sxOk ::
      .time start :: (rounds ++ (before ++ [access])) =
      (loading stored len buf ++ .write 0x01 [modeLora ||| modeTx] .sxOk :: .time start ::
        (rounds ++ before)) ++ [access] := by simp
  rw [hshape]
  apply sendAccesses_failed hret haccess
  rw [← hshape]
  exact loaded_of_startsTx (polled_startsTx h htail)

lemma sendAccesses_completed {start : ℤ} {rounds : List BusAccess}
    (hnext : next ≠ modeLora ||| modeTx) (h : PollRounds txDone start 3000000 3 true 0 .sxOk rounds) :
    SendAccesses len buf next .sxOk
      (loading stored len buf ++ .write 0x01 [modeLora ||| modeTx] .sxOk ::
        .time start :: (rounds ++ [.write 0x12 [0xFF] .sxOk, .write 0x01 [next] .sxOk])) where
  loaded := by
    refine loaded_of_startsTx (polled_startsTx h ?_)
    simpa using ⟨clear_startsTx _, next_startsTx hnext _⟩
  completed_iff := iff_of_true rfl ⟨stored, start, rounds, rfl, h⟩
  stopped hne := absurd rfl hne

end Shapes

section Run

variable {ω : Type} {port : SpiPort ω}

lemma modeAfterTx_ne (switchToRxAfterTx : Bool) : modeAfterTx switchToRxAfterTx ≠ modeLora ||| modeTx := by
  cases switchToRxAfterTx <;> decide

lemma sendPayload_emits (fuel : ℕ) (buf : List UInt8) (len : UInt8) (switchToRxAfterTx : Bool) :
    Emits port (sx1278SendPayload fuel buf len switchToRxAfterTx)
      (SendAccesses len buf (modeAfterTx switchToRxAfterTx)) := by
  apply Emits.bind (.write _ _)
  rintro ret _ rfl
  refine .ite (fun hret => .pure (sendAccesses_unloaded [] 0 hret rfl ?_)) fun hret => ?_
  · exact fun hstarts => absurd hstarts.2 (by decide)
  obtain rfl := not_not.mp hret
  apply Emits.bind (.readByte _ _)
  rintro ⟨ret, data⟩ _ ⟨stored, rfl, rfl⟩
  dsimp only
  refine .ite (fun hret => .pure (sendAccesses_unloaded [] 1 hret rfl id)) fun hret => ?_
  obtain rfl := not_not.mp hret
  apply Emits.bind (.write _ _)
  rintro ret _ rfl
  refine .ite (fun hret => .pure (sendAccesses_unloaded stored 2 hret rfl ?_)) fun hret => ?_
  · exact fun hstarts => absurd hstarts.1 (by decide)
  obtain rfl := not_not.mp hret
  apply Emits.bind (.write _ _)
  rintro ret _ rfl
  refine .ite (fun hret => .pure (sendAccesses_unloaded stored 3 hret rfl ?_)) fun hret => ?_
  · exact fun hstarts => absurd hstarts.1 (by decide)
  obtain rfl := not_not.mp hret
  apply Emits.bind (.write _ _)
  rintro ret _ rfl
  refine .ite (fun hret => .pure (sendAccesses_unloaded stored 4 hret rfl ?_)) fun hret => ?_
  · exact fun hstarts => absurd hstarts.1 (by decide)
  obtain rfl := not_not.mp hret
  apply Emits.bind (.write _ _)
  rintro ret _ rfl
  refine .ite (fun hret => .pure (sendAccesses_unloaded stored 5 hret rfl ?_)) fun hret => ?_
  · exact fun hstarts => absurd hstarts.1 (by decide)
  obtain rfl := not_not.mp hret
  apply Emits.bind (.write _ _)
  rintro ret _ rfl
  refine .ite (fun hret => .pure (sendAccesses_notStarted hret rfl)) fun hret => ?_
  obtain rfl := not_not.mp hret
  apply Emits.bind (poll_emits fuel)
  rintro ret _ ⟨start, rounds, rfl, hrounds⟩
  refine .ite (fun hret => .pure ?_) fun hret => ?_
  · rw [List.append_nil]
    exact sendAccesses_polled hret hrounds
  obtain rfl := not_not.mp hret
  apply Emits.bind (.write _ _)
  rintro ret _ rfl
  refine .ite (fun hret => .pure ?_) fun hret => ?_
  · exact sendAccesses_after hrounds [.write 0x12 [0xFF] ret] _ rfl hret rfl (by simpa using clear_startsTx ret)
  obtain rfl := not_not.mp hret
  apply Emits.bind (.write _ _)
  rintro ret _ rfl
  have hnext := modeAfterTx_ne switchToRxAfterTx
  refine .ite (fun hret => .pure ?_) fun hret => ?_
  · exact sendAccesses_after hrounds
      [.write 0x12 [0xFF] .sxOk, .write 0x01 [modeAfterTx switchToRxAfterTx] ret] _ rfl hret rfl
      (by simpa using ⟨clear_startsTx _, next_startsTx hnext ret⟩)
  obtain rfl := not_not.mp hret
  exact .pure (sendAccesses_completed hnext hrounds)

end Run

section OwnTransmission

variable {i : Bool} {c c' : Chip} {k : ℕ} {es : List BusAccess}

lemma loading_replays {stored : List (Option UInt8)} {len : UInt8} {buf : List UInt8}
    (h : Replays (Chip.port i) c (loading stored len buf) c') :
    stored = [some (c.regs 0x0E)] ∧ c'.Idle ∧ c'.regs 0x12 = 0 ∧ c'.transactions = c.transactions + 6 := by
  obtain ⟨hstandby, hread, hpointer, hlen, hfifo, hclear, rfl⟩ := h
  set c₁ := (Chip.writer 0x01 [modeLora ||| modeStdby] c).2
  set c₂ := (Chip.reader 0x0E 1 c₁).2
  have hidle : c₁.Idle := Chip.idle_of_mode hstandby (by decide)
  refine ⟨?_, ?_, Chip.writer_cleared hclear, ?_⟩
  · have hbyte := hread.symm.trans (Chip.reader_byte (Chip.reader_result hread) (by decide))
    have hreg : c₁.tick.regs 0x0E = c.regs 0x0E :=
      (Chip.tick_regs (by decide)).trans (Chip.writer_regs_of_ne (by decide) (by decide) (by decide))
    rw [← hreg]
    exact congrArg Prod.snd hbyte
  · have hloaded : c₂.Idle := hidle.reader
    exact (((hloaded.writer (by decide)).writer (by decide)).writer (by decide)).writer (by decide)
  · rfl

lemma cleanup_replays {cleanup : Bool} {code : Sx127xErr}
    (h : Replays (Chip.port i) c (cleanupAccesses cleanup code) c') : c'.seen = c.seen := by
  cases cleanup with
  | true =>
    obtain ⟨-, rfl⟩ := h
    exact Chip.writer_seen
  | false =>
    obtain rfl : c = c' := h
    rfl

lemma PollRounds.seen {irq : UInt8} {start timeoutUs : ℤ} {interval : ℕ} {cleanup : Bool}
    {ret : Sx127xErr} (h : PollRounds txDone start timeoutUs interval cleanup irq ret es)
    (hret : ret = .sxOk) (howned : c.Owned k) (hreplays : Replays (Chip.port i) c es c') :
    c'.seen = some k := by
  induction h generalizing c with
  | failed hne => exact absurd hret hne
  | met hmet =>
    obtain ⟨hread, hclean⟩ := hreplays
    have hok := Chip.reader_result hread
    have hstored := hread.symm.trans (Chip.reader_byte hok (by decide))
    rw [(Prod.mk.inj hstored).2] at hmet
    rw [cleanup_replays hclean]
    exact howned.seen hok hmet
  | expired _ _ => exact absurd hret (by decide)
  | next _ _ _ ih =>
    obtain ⟨-, hrest⟩ := hreplays
    exact ih hret (howned.reader (by decide)) hrest

lemma Completed.seen {len next : UInt8} {buf : List UInt8} (h : Completed len buf next es)
    (hreplays : Replays (Chip.port i) c es c') : c'.seen = some (c.transactions + 6) := by
  obtain ⟨stored, start, rounds, rfl, hrounds⟩ := h
  obtain ⟨c₁, hload, hrest⟩ := hreplays.split
  obtain ⟨-, hidle, hflags, hcount⟩ := loading_replays hload
  obtain ⟨hstart, hrest⟩ := hrest
  have howned := Chip.owned_of_started hstart hidle hflags
  rw [hcount] at howned
  obtain ⟨c₂, hpolled, -, -, rfl⟩ := Replays.split hrest
  have hseen := hrounds.seen rfl howned hpolled
  exact (Chip.writer_seen.trans Chip.writer_seen).trans hseen

end OwnTransmission

section Totality

variable {ω : Type} {port : SpiPort ω} {readings : ℕ → ℤ} {ticks : ℕ}

structure AtTick (port : SpiPort ω) (readings : ℕ → ℤ) (ticks : ℕ) (m : Machine (Recorded ω)) : Prop where
  bench : Bench port m
  readings : m.world.readings = readings
  ticks : m.world.ticks = ticks

lemma write_total (reg : UInt8) (data : List UInt8) :
    Total (AtTick port readings ticks) (spiBurstWriteReg reg data) fun _ => AtTick port readings ticks :=
  fun _ hm => ⟨_, _, hm.bench.write reg data, hm.bench.accessed _ _, hm.readings, hm.ticks⟩

lemma readByte_total (reg data : UInt8) :
    Total (AtTick port readings ticks) (spiReadByte reg data) fun _ => AtTick port readings ticks :=
  fun _ hm => ⟨_, _, hm.bench.readByte reg data, hm.bench.accessed _ _, hm.readings, hm.ticks⟩

lemma time_total : Total (AtTick port readings ticks) sx127xTimerGetTimeUs fun us t =>
    us = readings ticks ∧ AtTick port readings (ticks + 1) t := by
  intro m hm
  refine ⟨_, _, hm.bench.time, ?_, hm.bench.timed, hm.readings, congrArg (· + 1) hm.ticks⟩
  rw [hm.readings, hm.ticks]

lemma delay_total (ms : ℕ) :
    Total (AtTick port readings ticks) (sx127xTaskDelayMs ms) fun _ => AtTick port readings ticks :=
  fun _ hm => ⟨_, _, hm.bench.delay ms, hm.bench.accessed _ _, hm.readings, hm.ticks⟩

def OnBench (port : SpiPort ω) (_ : Sx127xErr) (m : Machine (Recorded ω)) : Prop := ∃ readings ticks,
  AtTick port readings ticks m

lemma cleanup_total (cleanup : Bool) (ret : Sx127xErr) :
    Total (AtTick port readings ticks) (irqCleanup cleanup >>= fun _ => pure ret) (OnBench port) := by
  have hclean : Total (AtTick port readings ticks) (irqCleanup cleanup) fun _ => AtTick port readings ticks := by
    cases cleanup with
    | true => exact .bind (write_total _ _) fun _ => .pure fun _ hm => hm
    | false => exact .pure fun _ hm => hm
  exact hclean.bind fun _ => .pure fun m hm => ⟨_, _, hm⟩

lemma pollLoop_total {start timeoutUs : ℤ} {interval fuel n : ℕ} {mask : UInt8} {cleanup : Bool}
    (hlate : readings (ticks + n) - start > timeoutUs) (hn : n < fuel) (irq : UInt8) :
    Total (AtTick port readings ticks)
      (pollForIrqFlagLoop start timeoutUs interval mask cleanup fuel irq) (OnBench port) := by
  induction fuel generalizing n ticks irq with
  | zero => exact absurd hn (Nat.not_lt_zero n)
  | succ fuel ih =>
    refine .bind (readByte_total _ _) fun out => ?_
    refine .ite (fun _ => cleanup_total _ _) fun _ => .ite (fun _ => cleanup_total _ _) fun _ => ?_
    refine .bind time_total fun us m hm => ?_
    obtain ⟨rfl, hm⟩ := hm
    refine Total.ite (fun _ => cleanup_total _ _) (fun hearly => ?_) m hm
    -- the deadline has not passed, so it passes at a later reading
    obtain ⟨j, rfl⟩ : ∃ j, n = j + 1 := by
      refine Nat.exists_eq_succ_of_ne_zero fun hzero => hearly ?_
      rwa [hzero] at hlate
    have hlate' : readings (ticks + 1 + j) - start > timeoutUs := by
      rwa [Nat.add_assoc, Nat.add_comm 1 j]
    exact .bind (delay_total _) fun _ => ih hlate' (by omega) out.2

lemma onBench_write (reg : UInt8) (data : List UInt8) (code : Sx127xErr) :
    Total (OnBench port code) (spiBurstWriteReg reg data) (OnBench port) := by
  rintro m ⟨readings, ticks, hm⟩
  obtain ⟨ret, t, hrun, ht⟩ := write_total reg data m hm
  exact ⟨ret, t, hrun, readings, ticks, ht⟩

lemma sendPayload_total {fuel n : ℕ} (hlate : readings (ticks + 1 + n) - readings ticks > 3000000)
    (hn : n < fuel) (buf : List UInt8) (len : UInt8) (switchToRxAfterTx : Bool) :
    Total (AtTick port readings ticks) (sx1278SendPayload fuel buf len switchToRxAfterTx) fun _ _ => True := by
  have hpoll : Total (AtTick port readings ticks) (pollForIrqFlag fuel 3000 3 ((1 : UInt8) <<< 3) true)
      (OnBench port) := by
    refine .bind time_total fun us m hm => ?_
    obtain ⟨rfl, hm⟩ := hm
    exact pollLoop_total hlate hn 0 m hm
  refine .bind (write_total _ _) fun _ => .ite (fun _ => .pure fun _ _ => trivial) fun _ => ?_
  refine .bind (readByte_total _ _) fun _ => .ite (fun _ => .pure fun _ _ => trivial) fun _ => ?_
  refine .bind (write_total _ _) fun _ => .ite (fun _ => .pure fun _ _ => trivial) fun _ => ?_
  refine .bind (write_total _ _) fun _ => .ite (fun _ => .pure fun _ _ => trivial) fun _ => ?_
  refine .bind (write_total _ _) fun _ => .ite (fun _ => .pure fun _ _ => trivial) fun _ => ?_
  refine .bind (write_total _ _) fun _ => .ite (fun _ => .pure fun _ _ => trivial) fun _ => ?_
  refine .bind (write_total _ _) fun _ => .ite (fun _ => .pure fun _ _ => trivial) fun _ => ?_
  refine .bind hpoll fun _ => .ite (fun _ => .pure fun _ _ => trivial) fun _ => ?_
  refine .bind (onBench_write _ _ _) fun _ => .ite (fun _ => .pure fun _ _ => trivial) fun _ => ?_
  exact .bind (onBench_write _ _ _) fun _ => .ite (fun _ => .pure fun _ _ => trivial) fun _ =>
    .pure fun _ _ => trivial

end Totality

theorem send_payload_completed (m : Machine (Recorded Chip)) (i : Bool)
    (hport : m.sx127xSpiPort = (Chip.port i).recorded) (htimer : m.sx127xTimerCtx = stopwatch)
    (fuel : ℕ) (buf : List UInt8) (len : UInt8) (switchToRxAfterTx : Bool) :
    (∀ ret t, sx1278SendPayload fuel buf len switchToRxAfterTx m = .ok (ret, t) →
      ∃ es, t.world.log = m.world.log ++ es ∧
        (∀ pre access post, es = pre ++ access :: post → access.StartsTx →
          pre = loading [some (m.world.world.regs 0x0E)] len buf) ∧
        (ret = .sxOk ↔ Completed len buf (modeAfterTx switchToRxAfterTx) es) ∧
        (ret ≠ .sxOk → i = true → Stopped len buf ret es) ∧
        (ret = .sxOk → t.world.world.seen = some (m.world.world.transactions + 6))) ∧
    ∀ n, m.world.readings (m.world.ticks + 1 + n) - m.world.readings m.world.ticks > 3000000 → n < fuel →
      ∃ ret t, sx1278SendPayload fuel buf len switchToRxAfterTx m = .ok (ret, t) := by
  cases i with
  | false =>
    have hoff : m.sx127xSpiPort.initialized = false := by rw [hport]; rfl
    have hwrite : spiBurstWriteReg 0x01 [modeLora ||| modeStdby] m = .ok (.sxUnitUnitialized, m) :=
      congrArg Except.ok (if_pos hoff)
    have hrun : sx1278SendPayload fuel buf len switchToRxAfterTx m = .ok (.sxUnitUnitialized, m) :=
      Prog.bind_of_ok hwrite
    refine ⟨fun ret t h => ?_, fun _ _ _ => ⟨_, _, hrun⟩⟩
    obtain ⟨rfl, rfl⟩ : .sxUnitUnitialized = ret ∧ m = t := by simpa [hrun] using h
    have hnot : ¬ Completed len buf (modeAfterTx switchToRxAfterTx) [] := fun hcompleted =>
      absurd hcompleted.last (by simp)
    exact ⟨[], (List.append_nil _).symm, by simp, iff_of_false (by decide) hnot, by simp, by simp⟩
  | true =>
    have hbench : Bench (Chip.port true) m := ⟨hport, htimer, rfl⟩
    refine ⟨fun ret t h => ?_, fun n hlate hn => ?_⟩
    · obtain ⟨es, hran, hes⟩ := sendPayload_emits fuel buf len switchToRxAfterTx m ret t hbench h
      refine ⟨es, hran.log, fun pre access post hsplit hstarts => ?_, hes.completed_iff,
        fun hret _ => hes.stopped hret, fun hret => (hes.completed_iff.mp hret).seen hran.replays⟩
      obtain ⟨stored, rfl⟩ := hes.loaded pre access post hsplit hstarts
      obtain ⟨c, hload, -⟩ := Replays.split (hsplit ▸ hran.replays)
      rw [(loading_replays hload).1]
    · obtain ⟨ret, t, hrun, -⟩ := sendPayload_total hlate hn buf len switchToRxAfterTx m ⟨hbench, rfl, rfl⟩
      exact ⟨ret, t, hrun⟩

def staleTxDone : Machine (Recorded Chip) where
  world :=
    { world :=
        { regs := fun reg => if reg = 0x12 then txDone else 0
          fifo := fun _ => 0
          results := fun _ => .sxOk
          leftovers := fun _ => []
          raised := fun k => if k = 8 then txDone else 0
          transactions := 0
          transmission := none
          txDoneFrom := some 99
          seen := some 99 }
      readings := fun i => 2000000 * i
      ticks := 0
      log := [] }
  sx127xSpiPort := (Chip.port true).recorded
  sx127xTimerCtx := stopwatch
  loraBandwidthHz := 125000
  spreadingFactor := 12

theorem send_payload_completed_stale :
    (∃ ret t, sx1278SendPayload 2 [1, 2, 3] 3 true staleTxDone = .ok (ret, t)) ∧
      ∃ t, sx1278SendPayload 2 [1, 2, 3] 3 true staleTxDone = .ok (.sxOk, t) ∧
        Completed 3 [1, 2, 3] (modeAfterTx true) t.world.log ∧ t.world.world.seen = some 6 := by
  obtain ⟨hreturns, htotal⟩ := send_payload_completed staleTxDone true rfl rfl 2 [1, 2, 3] 3 true
  refine ⟨htotal 1 (by decide) (by decide), ?_⟩
  have hrun : ∃ ret t, sx1278SendPayload 2 [1, 2, 3] 3 true staleTxDone = .ok (ret, t) ∧ ret = .sxOk := by
    apply Prog.returns fun (ret : Sx127xErr) (_ : Machine (Recorded Chip)) => ret = .sxOk
    decide +kernel
  obtain ⟨ret, t, hrun, rfl⟩ := hrun
  obtain ⟨es, hlog, -, hcompleted, -, hseen⟩ := hreturns _ t hrun
  have hes : t.world.log = es := hlog
  exact ⟨t, hrun, hes ▸ hcompleted.mp rfl, hseen rfl⟩

end LoraNetworking
