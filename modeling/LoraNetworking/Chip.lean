import LoraNetworking.BusTrace
import LoraNetworking.Sx127xConfig

/-! The radio behind the bus: registers, FIFO and interrupt flags. A transaction that fails
changes nothing; what a failed read leaves in the destination is arbitrary. -/

namespace LoraNetworking

def txDone : UInt8 := (1 : UInt8) <<< 3

structure Chip where
  regs : UInt8 → UInt8
  fifo : UInt8 → UInt8
  results : ℕ → Sx127xErr
  leftovers : ℕ → List (Option UInt8)
  -- the flags that the hardware would raise before a transaction
  raised : ℕ → UInt8
  transactions : ℕ
  -- the transaction that started the transmission under way
  transmission : Option ℕ
  -- the one that started the transmission of the last TxDone
  txDoneFrom : Option ℕ
  -- the same for the last TxDone that was read
  seen : Option ℕ

def store (bank : UInt8 → UInt8) (first : UInt8) (data : List UInt8) : UInt8 → UInt8 := fun a =>
  (data[(a - first).toNat]?).getD (bank a)

def load (bank : UInt8 → UInt8) (first : UInt8) (len : ℕ) : List (Option UInt8) :=
  (List.range len).map fun i => some (bank (first + UInt8.ofNat i))

namespace Chip

def result (c : Chip) : Sx127xErr := c.results c.transactions

/-- TxDone is raised only while a transmission is under way, and ends it. -/
def tick (c : Chip) : Chip :=
  let flags := c.raised c.transactions
  if c.transmission.isSome ∧ flags &&& txDone ≠ 0 then
    { c with
      regs := Function.update c.regs 0x12 (c.regs 0x12 ||| flags)
      transmission := none
      txDoneFrom := c.transmission }
  else { c with regs := Function.update c.regs 0x12 (c.regs 0x12 ||| flags &&& ~~~txDone) }

def written (reg : UInt8) (data : List UInt8) (c : Chip) : Chip :=
  if reg = 0x00 then
    { c with
      fifo := store c.fifo (c.regs 0x0D) data
      regs := Function.update c.regs 0x0D (c.regs 0x0D + UInt8.ofNat data.length) }
  -- a flag is cleared by writing a one to it
  else if reg = 0x12 then
    { c with regs := Function.update c.regs 0x12 (c.regs 0x12 &&& ~~~(data.headD 0)) }
  else if reg = 0x01 then
    { c with
      regs := store c.regs 0x01 data
      transmission := if data = [modeLora ||| modeTx] then some c.transactions else none }
  else { c with regs := store c.regs reg data }

def writer (reg : UInt8) (data : List UInt8) (c : Chip) : Sx127xErr × Chip :=
  (c.result,
    { (if c.result = .sxOk then c.tick.written reg data else c.tick) with
      transactions := c.transactions + 1 })

def readOut (reg : UInt8) (len : ℕ) (c : Chip) : Chip :=
  if reg = 0x00 then { c with regs := Function.update c.regs 0x0D (c.regs 0x0D + UInt8.ofNat len) }
  else if reg = 0x12 ∧ c.regs 0x12 &&& txDone ≠ 0 then { c with seen := c.txDoneFrom }
  else c

def answer (reg : UInt8) (len : ℕ) (c : Chip) : List (Option UInt8) :=
  if reg = 0x00 then load c.fifo (c.regs 0x0D) len else load c.regs reg len

def reader (reg : UInt8) (len : ℕ) (c : Chip) : (Sx127xErr × List (Option UInt8)) × Chip :=
  ((c.result, if c.result = .sxOk then c.tick.answer reg len else c.leftovers c.transactions),
    { (if c.result = .sxOk then c.tick.readOut reg len else c.tick) with
      transactions := c.transactions + 1 })

def port (initialized : Bool) : SpiPort Chip := ⟨writer, reader, initialized⟩

section Frames

variable {c : Chip} {reg r b : UInt8} {data : List UInt8} {len : ℕ}

@[simp] lemma tick_results : c.tick.results = c.results := by
  rw [tick]
  split_ifs
  · rfl
  · rfl

@[simp] lemma tick_transactions : c.tick.transactions = c.transactions := by
  rw [tick]
  split_ifs
  · rfl
  · rfl

@[simp] lemma tick_fifo : c.tick.fifo = c.fifo := by
  rw [tick]
  split_ifs
  · rfl
  · rfl

lemma tick_regs (h : r ≠ 0x12) : c.tick.regs r = c.regs r := by
  rw [tick]
  split_ifs
  · exact Function.update_of_ne h _ _
  · exact Function.update_of_ne h _ _

lemma store_single (bank : UInt8 → UInt8) (first b : UInt8) :
    store bank first [b] = Function.update bank first b := by
  funext a
  by_cases h : a = first
  · simp [store, h]
  · have hpos : (a - first).toNat ≠ 0 := by
      intro hzero
      have hdiff : a - first = 0 := UInt8.toNat_inj.mp hzero
      have hsum := UInt8.sub_add_cancel a first
      rw [hdiff, UInt8.zero_add] at hsum
      exact h hsum.symm
    obtain ⟨k, hk⟩ := Nat.exists_eq_succ_of_ne_zero hpos
    simp [store, h, hk]

lemma written_regs (hfifo : reg ≠ 0x00) (hflags : reg ≠ 0x12) :
    (c.written reg [b]).regs = Function.update c.regs reg b := by
  rw [written, if_neg hfifo, if_neg hflags, ← store_single]
  by_cases hmode : reg = 0x01
  · rw [if_pos hmode, hmode]
  · rw [if_neg hmode]

lemma written_regs_of_ne (hfifo : reg ≠ 0x00) (hr : r ≠ reg) : (c.written reg [b]).regs r = c.regs r := by
  by_cases hflags : reg = 0x12
  · rw [written, if_neg hfifo, if_pos hflags]
    exact Function.update_of_ne (hflags ▸ hr) _ _
  · rw [written_regs hfifo hflags]
    exact Function.update_of_ne hr _ _

lemma written_regs_self (hfifo : reg ≠ 0x00) (hflags : reg ≠ 0x12) : (c.written reg [b]).regs reg = b := by
  rw [written_regs hfifo hflags]
  exact Function.update_self _ _ _

lemma written_fifo (hfifo : reg ≠ 0x00) : (c.written reg data).fifo = c.fifo := by
  rw [written, if_neg hfifo]
  split
  · rfl
  · split
    · rfl
    · rfl

lemma written_frame :
    (c.written reg data).results = c.results ∧ (c.written reg data).seen = c.seen := by
  rw [written]
  split
  · exact ⟨rfl, rfl⟩
  · split
    · exact ⟨rfl, rfl⟩
    · split
      · exact ⟨rfl, rfl⟩
      · exact ⟨rfl, rfl⟩

lemma readOut_frame : (c.readOut reg len).results = c.results ∧ (c.readOut reg len).fifo = c.fifo ∧
    (c.readOut reg len).transmission = c.transmission := by
  rw [readOut]
  split_ifs
  · exact ⟨rfl, rfl, rfl⟩
  · exact ⟨rfl, rfl, rfl⟩
  · exact ⟨rfl, rfl, rfl⟩

@[simp] lemma writer_results : (writer reg data c).2.results = c.results := by
  simp only [writer]
  split_ifs
  · exact written_frame.1.trans tick_results
  · exact tick_results

lemma writer_fifo (hfifo : reg ≠ 0x00) : (writer reg data c).2.fifo = c.fifo := by
  simp only [writer]
  split_ifs
  · exact (written_fifo hfifo).trans tick_fifo
  · exact tick_fifo

lemma writer_regs_of_ne (hfifo : reg ≠ 0x00) (hr : r ≠ reg) (hflags : r ≠ 0x12) :
    (writer reg [b] c).2.regs r = c.regs r := by
  simp only [writer]
  split_ifs
  · exact (written_regs_of_ne hfifo hr).trans (tick_regs hflags)
  · exact tick_regs hflags

lemma writer_regs_self (hok : c.result = .sxOk) (hfifo : reg ≠ 0x00) (hflags : reg ≠ 0x12) :
    (writer reg [b] c).2.regs reg = b := by
  simp only [writer, if_pos hok]
  exact written_regs_self hfifo hflags

lemma reader_results : (reader reg len c).2.results = c.results := by
  simp only [reader]
  split_ifs
  · exact readOut_frame.1.trans tick_results
  · exact tick_results

lemma reader_fifo : (reader reg len c).2.fifo = c.fifo := by
  simp only [reader]
  split_ifs
  · exact readOut_frame.2.1.trans tick_fifo
  · exact tick_fifo

lemma reader_regs (hfifo : reg ≠ 0x00) (hflags : r ≠ 0x12) : (reader reg len c).2.regs r = c.regs r := by
  simp only [reader, readOut, if_neg hfifo]
  split_ifs
  · exact tick_regs hflags
  · exact tick_regs hflags
  · exact tick_regs hflags

lemma reader_result {ret : Sx127xErr} {stored : List (Option UInt8)}
    (h : (reader reg len c).1 = (ret, stored)) : c.result = ret := congrArg Prod.fst h

lemma reader_answer {stored : List (Option UInt8)} (h : (reader reg len c).1 = (.sxOk, stored)) :
    stored = c.tick.answer reg len := by
  have hok := reader_result h
  rw [reader, if_pos hok] at h
  exact (congrArg Prod.snd h).symm

lemma reader_byte (hok : c.result = .sxOk) (hfifo : reg ≠ 0x00) :
    (reader reg 1 c).1 = (.sxOk, [some (c.tick.regs reg)]) := by
  simp [reader, hok, answer, hfifo, load]

end Frames

section Transmission

variable {c : Chip} {reg : UInt8} {data : List UInt8} {len k : ℕ}

lemma masked_flags (f r t : UInt8) : (f ||| r &&& ~~~t) &&& t = f &&& t := by
  apply UInt8.eq_of_toBitVec_eq
  ext i hi
  simp only [UInt8.toBitVec_and, UInt8.toBitVec_or, UInt8.toBitVec_not, BitVec.getElem_and,
    BitVec.getElem_or, BitVec.getElem_not]
  cases t.toBitVec[i] <;> simp

lemma tick_seen : c.tick.seen = c.seen := by
  rw [tick]
  split_ifs
  · rfl
  · rfl

lemma writer_seen : (writer reg data c).2.seen = c.seen := by
  simp only [writer]
  split_ifs
  · exact written_frame.2.trans tick_seen
  · exact tick_seen

lemma written_transmission (hmode : reg ≠ 0x01) : (c.written reg data).transmission = c.transmission := by
  rw [written]
  split
  · rfl
  · split
    · rfl
    · rfl

lemma written_mode (data : List UInt8) : c.written 0x01 data =
    { c with
      regs := store c.regs 0x01 data
      transmission := if data = [modeLora ||| modeTx] then some c.transactions else none } := by
  rw [written, if_neg (by decide), if_neg (by decide), if_pos rfl]

lemma written_flags (data : List UInt8) : c.written 0x12 data =
    { c with regs := Function.update c.regs 0x12 (c.regs 0x12 &&& ~~~(data.headD 0)) } := by
  rw [written, if_neg (by decide), if_pos rfl]

lemma writer_ok (hok : c.result = .sxOk) :
    (writer reg data c).2 = { c.tick.written reg data with transactions := c.transactions + 1 } := by
  rw [writer, if_pos hok]

/-- Only the transmission that transaction `k` started can be under way, and only it can have
raised the TxDone that is set. -/
structure Owned (k : ℕ) (c : Chip) : Prop where
  transmission : c.transmission = none ∨ c.transmission = some k
  flag : c.regs 0x12 &&& txDone ≠ 0 → c.txDoneFrom = some k

lemma Owned.tick (h : Owned k c) : Owned k c.tick := by
  rw [Chip.tick]
  split_ifs with hraise
  · refine ⟨Or.inl rfl, fun _ => ?_⟩
    cases h.transmission with
    | inl hnone => exact absurd hraise.1 (by simp [hnone])
    | inr hsome => exact hsome
  · refine ⟨h.transmission, fun hflag => h.flag ?_⟩
    simpa [masked_flags] using hflag

lemma Owned.reader (h : Owned k c) (hfifo : reg ≠ 0x00) : Owned k (Chip.reader reg len c).2 := by
  have htick := h.tick
  simp only [Chip.reader, readOut, if_neg hfifo]
  split_ifs
  · exact ⟨htick.transmission, htick.flag⟩
  · exact ⟨htick.transmission, htick.flag⟩
  · exact ⟨htick.transmission, htick.flag⟩

lemma Owned.seen (h : Owned k c) (hok : c.result = .sxOk) (hflag : c.tick.regs 0x12 &&& txDone ≠ 0) :
    (Chip.reader 0x12 len c).2.seen = some k := by
  have hfrom := h.tick.flag hflag
  simp only [Chip.reader, if_pos hok, readOut]
  rw [if_neg (by decide), if_pos ⟨trivial, hflag⟩]
  exact hfrom

def Idle (c : Chip) : Prop := c.transmission = none

lemma Idle.tick (h : Idle c) : Idle c.tick := by
  rw [Chip.tick, if_neg (by simp [show c.transmission = none from h])]
  exact h

lemma Idle.writer (h : Idle c) (hmode : reg ≠ 0x01) : Idle (Chip.writer reg data c).2 := by
  simp only [Chip.writer]
  split_ifs
  · exact (written_transmission hmode).trans h.tick
  · exact h.tick

lemma Idle.reader (h : Idle c) : Idle (Chip.reader reg len c).2 := by
  simp only [Chip.reader]
  split_ifs
  · exact readOut_frame.2.2.trans h.tick
  · exact h.tick

lemma idle_of_mode {modeRegister : UInt8} (hok : c.result = .sxOk)
    (hmode : modeRegister ≠ modeLora ||| modeTx) : Idle (Chip.writer 0x01 [modeRegister] c).2 := by
  have hdata : [modeRegister] ≠ [modeLora ||| modeTx] := fun h => hmode (List.singleton_inj.mp h)
  rw [writer_ok hok, written_mode, if_neg hdata]
  rfl

lemma writer_cleared (hok : c.result = .sxOk) : (Chip.writer 0x12 [0xFF] c).2.regs 0x12 = 0 := by
  have hmask : ~~~(0xFF : UInt8) = 0 := by decide
  rw [writer_ok hok, written_flags]
  simp [hmask]

lemma owned_of_started (hok : c.result = .sxOk) (hidle : Idle c) (hclear : c.regs 0x12 = 0) :
    Owned c.transactions (Chip.writer 0x01 [modeLora ||| modeTx] c).2 := by
  have htick : c.tick.regs 0x12 &&& txDone = 0 := by
    rw [Chip.tick, if_neg (by simp [show c.transmission = none from hidle])]
    simp only [Function.update_self, masked_flags, hclear]
    rfl
  rw [writer_ok hok, written_mode, if_pos rfl]
  refine ⟨Or.inr (congrArg some tick_transactions), fun hflag => absurd htick ?_⟩
  rw [← show store c.tick.regs 0x01 [modeLora ||| modeTx] 0x12 = c.tick.regs 0x12 by
    rw [store_single]
    exact Function.update_of_ne (by decide) _ _]
  exact hflag

end Transmission

end Chip

end LoraNetworking
