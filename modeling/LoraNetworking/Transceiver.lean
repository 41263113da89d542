import LoraNetworking.Chip
import LoraNetworking.PayloadAtomicity

/-! The radio between the bus and the air. Its bus works; what arrives, when, where in the FIFO and
in which state, when a transmission ends, and what the clock shows are arbitrary. -/

namespace LoraNetworking

open StateProg

structure Reception where
  frame : List UInt8
  damaged : Bool
  address : UInt8
  bounded : frame.length ≤ 255
  deriving DecidableEq

inductive AirEvent
  | heard (r : Reception)
  | sent (frame : List UInt8)
  deriving DecidableEq

structure Transceiver where
  regs : UInt8 → UInt8
  fifo : UInt8 → UInt8
  -- what arrives before a transaction, if the radio listens then
  arrivals : ℕ → Option Reception
  -- whether a transmission, or the wait of a single reception, ends before it
  ends : ℕ → Bool
  transactions : ℕ
  clock : ℕ → ℤ
  readings : ℕ
  transmission : Option (List UInt8)
  log : List AirEvent

def irqRxTimeout : UInt8 := 0b10000000

def Reception.flags (r : Reception) : UInt8 :=
  if r.damaged then irqRxDone ||| irqPayloadCrcError else irqRxDone

namespace Transceiver

def Listening (t : Transceiver) : Prop :=
  t.regs 0x01 = modeLora ||| modeRxContinuous ∨ t.regs 0x01 = modeLora ||| modeRxSingle

instance (t : Transceiver) : Decidable t.Listening := inferInstanceAs (Decidable (_ ∨ _))

/-- After a single reception the radio is in standby. -/
def modeAfterRx (mode : UInt8) : UInt8 :=
  if mode = modeLora ||| modeRxSingle then modeLora ||| modeStdby else mode

def received (r : Reception) (t : Transceiver) : Transceiver :=
  { t with
    regs := fun a =>
      if a = 0x01 then modeAfterRx (t.regs 0x01)
      else if a = 0x10 then r.address
      else if a = 0x12 then t.regs 0x12 ||| r.flags
      else if a = 0x13 then UInt8.ofNat r.frame.length
      else t.regs a
    fifo := store t.fifo r.address r.frame
    log := t.log ++ [.heard r] }

def interrupted (flag : UInt8) (t : Transceiver) : Transceiver :=
  { t with
    regs := fun a =>
      if a = 0x01 then modeLora ||| modeStdby
      else if a = 0x12 then t.regs 0x12 ||| flag
      else t.regs a }

def transmitted (frame : List UInt8) (t : Transceiver) : Transceiver :=
  { t.interrupted txDone with
    transmission := none
    log := t.log ++ [.sent frame] }

def elapse (t : Transceiver) : Transceiver :=
  match t.transmission with
  | some frame => if t.ends t.transactions then t.transmitted frame else t
  | none =>
    if t.Listening then
      match t.arrivals t.transactions with
      | some r => t.received r
      | none =>
        if t.regs 0x01 = modeLora ||| modeRxSingle ∧ t.ends t.transactions then t.interrupted irqRxTimeout
        else t
    else t

def loaded (t : Transceiver) : List UInt8 :=
  (List.range (t.regs 0x22).toNat).map fun i => t.fifo (t.regs 0x0E + UInt8.ofNat i)

def written (reg : UInt8) (data : List UInt8) (t : Transceiver) : Transceiver :=
  if reg = 0x00 then
    { t with
      fifo := store t.fifo (t.regs 0x0D) data
      regs := Function.update t.regs 0x0D (t.regs 0x0D + UInt8.ofNat data.length) }
  else if reg = 0x12 then
    { t with regs := Function.update t.regs 0x12 (t.regs 0x12 &&& ~~~(data.headD 0)) }
  else if reg = 0x01 then
    { t with
      regs := store t.regs 0x01 data
      transmission := if data = [modeLora ||| modeTx] then some t.loaded else none }
  else { t with regs := store t.regs reg data }

def next (t : Transceiver) : Transceiver := { t with transactions := t.transactions + 1 }

def writer (reg : UInt8) (data : List UInt8) (t : Transceiver) : Sx127xErr × Transceiver :=
  (.sxOk, (t.elapse.written reg data).next)

def readOut (reg : UInt8) (len : ℕ) (t : Transceiver) : Transceiver :=
  if reg = 0x00 then { t with regs := Function.update t.regs 0x0D (t.regs 0x0D + UInt8.ofNat len) }
  else t

def answer (reg : UInt8) (len : ℕ) (t : Transceiver) : List (Option UInt8) :=
  if reg = 0x00 then load t.fifo (t.regs 0x0D) len else load t.regs reg len

def reader (reg : UInt8) (len : ℕ) (t : Transceiver) :
    (Sx127xErr × List (Option UInt8)) × Transceiver :=
  ((.sxOk, t.elapse.answer reg len), (t.elapse.readOut reg len).next)

def port : SpiPort Transceiver := ⟨writer, reader, true⟩

/-- Time passes at the transactions, so a delay is not seen by itself. -/
def timer : Sx127xTimerCtx Transceiver where
  timer t := (t.clock t.readings, { t with readings := t.readings + 1 })
  delayer _ t := t

section Time

variable {t : Transceiver} {r : Reception} {flag : UInt8} {frame : List UInt8}

inductive Elapsed (t : Transceiver) : Prop
  | nothing (h : t.elapse = t)
  | transmitted (frame : List UInt8) (sending : t.transmission = some frame) (h : t.elapse = t.transmitted frame)
  | received (r : Reception) (idle : t.transmission = none) (h : t.elapse = t.received r)
  | expired (idle : t.transmission = none) (h : t.elapse = t.interrupted irqRxTimeout)

lemma elapsed (t : Transceiver) : Elapsed t := by
  cases hsending : t.transmission with
  | some frame =>
    by_cases hends : t.ends t.transactions
    · exact .transmitted frame hsending (by simp [elapse, hsending, hends])
    · exact .nothing (by simp [elapse, hsending, hends])
  | none =>
    by_cases hlisten : t.Listening
    · cases harrival : t.arrivals t.transactions with
      | some r => exact .received r hsending (by simp [elapse, hsending, hlisten, harrival])
      | none =>
        by_cases hexpired : t.regs 0x01 = modeLora ||| modeRxSingle ∧ t.ends t.transactions
        · exact .expired hsending (by simp [elapse, hsending, hlisten, harrival, hexpired])
        · exact .nothing (by simp [elapse, hsending, hlisten, harrival, hexpired])
    · exact .nothing (by simp [elapse, hsending, hlisten])

lemma elapse_quiet (hidle : t.transmission = none) (hquiet : ¬ t.Listening) : t.elapse = t := by
  simp [elapse, hidle, hquiet]

lemma load_store (bank : UInt8 → UInt8) (first : UInt8) {data : List UInt8} (h : data.length ≤ 255) :
    load (store bank first data) first data.length = data.map some := by
  apply List.ext_getElem
  · simp [load]
  · intro i hi hi'
    have hlt : i < data.length := by simpa [load] using hi
    have hindex : (first + UInt8.ofNat i - first).toNat = i := by
      rw [UInt8.add_comm, UInt8.add_sub_cancel, UInt8.toNat_ofNat']
      omega
    simp only [load, List.getElem_map, List.getElem_range]
    rw [store, hindex, List.getElem?_eq_getElem hlt]
    rfl

end Time

/-- The radio holds what it received since the flags were last cleared: the flags of all of it, and
the last frame. -/
structure Pending (base : List AirEvent) (hs : List Reception) (t : Transceiver) : Prop where
  log : t.log = base ++ hs.map .heard
  idle : t.transmission = none
  done : t.regs 0x12 &&& irqRxDone ≠ 0 ↔ hs ≠ []
  crc : t.regs 0x12 &&& irqPayloadCrcError ≠ 0 ↔ ∃ r ∈ hs, r.damaged = true
  last : ∀ r, hs.getLast? = some r → t.regs 0x10 = r.address ∧
    t.regs 0x13 = UInt8.ofNat r.frame.length ∧ load t.fifo r.address r.frame.length = r.frame.map some

structure Silent (base : List AirEvent) (t : Transceiver) : Prop where
  log : t.log = base
  idle : t.transmission = none
  quiet : ¬ t.Listening

section Receptions

variable {t u : Transceiver} {base : List AirEvent} {hs : List Reception} {r : Reception} {reg mode : UInt8}

lemma Pending.congr (h : Pending base hs t) (hlog : u.log = t.log) (hidle : u.transmission = none)
    (hfifo : u.fifo = t.fifo) (hregs : ∀ a, a = 0x10 ∨ a = 0x12 ∨ a = 0x13 → u.regs a = t.regs a) :
    Pending base hs u where
  log := hlog.trans h.log
  idle := hidle
  done := by
    rw [hregs 0x12 (by simp)]
    exact h.done
  crc := by
    rw [hregs 0x12 (by simp)]
    exact h.crc
  last r hr := by
    rw [hregs 0x10 (by simp), hregs 0x13 (by simp), hfifo]
    exact h.last r hr

lemma or_and_ne (x f m : UInt8) : (x ||| f) &&& m ≠ 0 ↔ x &&& m ≠ 0 ∨ f &&& m ≠ 0 := by
  have hsplit : (x ||| f) &&& m = (x &&& m) ||| (f &&& m) := UInt8.toBitVec_inj.mp BitVec.and_or_distrib_right
  rw [hsplit, ← not_and_or, not_iff_not]
  simp

lemma Pending.received (h : Pending base hs t) (r : Reception) : Pending base (hs ++ [r]) (t.received r) where
  log := by simp [Transceiver.received, h.log]
  idle := h.idle
  done := by
    have hflag : r.flags &&& irqRxDone ≠ 0 := by
      cases hr : r.damaged
      · rw [Reception.flags, hr]; decide
      · rw [Reception.flags, hr]; decide
    simp [Transceiver.received, or_and_ne, hflag]
  crc := by
    have hflag : r.flags &&& irqPayloadCrcError ≠ 0 ↔ r.damaged = true := by
      cases hr : r.damaged
      · rw [Reception.flags, hr]; decide
      · rw [Reception.flags, hr]; decide
    have hregs : (t.received r).regs 0x12 = t.regs 0x12 ||| r.flags := rfl
    rw [hregs, or_and_ne, h.crc, hflag]
    simp [or_and_right, exists_or]
  last q hq := by
    obtain rfl : r = q := by simpa using hq
    exact ⟨rfl, rfl, load_store _ _ r.bounded⟩

lemma Pending.elapse (h : Pending base hs t) : ∃ hs', Pending base (hs ++ hs') t.elapse := by
  cases t.elapsed with
  | nothing ht =>
    rw [ht]
    exact ⟨[], by rwa [List.append_nil]⟩
  | transmitted frame hsending ht => simp [h.idle] at hsending
  | received r hidle ht =>
    rw [ht]
    exact ⟨[r], h.received r⟩
  | expired hidle ht =>
    rw [ht]
    have hmask : irqRxTimeout &&& irqRxDone = 0 ∧ irqRxTimeout &&& irqPayloadCrcError = 0 := by decide
    refine ⟨[], ?_⟩
    rw [List.append_nil]
    exact ⟨h.log, hidle, by simp [interrupted, or_and_ne, hmask, h.done],
      by simp [interrupted, or_and_ne, hmask, h.crc], h.last⟩

end Receptions

def On (P : Transceiver → Prop) (m : Machine Transceiver) : Prop :=
  m.sx127xSpiPort = port ∧ m.sx127xTimerCtx = timer ∧ P m.world

section Transactions

variable {P Q : Transceiver → Prop} {reg data mode : UInt8} {bytes : List UInt8} {len : ℕ}
  {base : List AirEvent} {hs : List Reception} {t : Transceiver}

lemma on_write (h : ∀ t, P t → Q (writer reg bytes t).2) :
    Triple (On P) (spiBurstWriteReg reg bytes) fun ret m => ret = .sxOk ∧ On Q m := by
  rintro ⟨world, _, _, bandwidth, sf⟩ ret m ⟨rfl, rfl, hP⟩ hrun
  obtain ⟨rfl, rfl⟩ : Sx127xErr.sxOk = ret ∧ _ = m := by simpa [spiBurstWriteReg, port, writer] using hrun
  exact ⟨rfl, rfl, rfl, h world hP⟩

lemma on_write_exists {ι : Type} {Q : ι → Transceiver → Prop} (h : ∀ t, P t → ∃ i, Q i (writer reg bytes t).2) :
    Triple (On P) (spiBurstWriteReg reg bytes) fun ret m => ret = .sxOk ∧ ∃ i, On (Q i) m := by
  refine (on_write (Q := fun t => ∃ i, Q i t) h).mono (fun _ hm => hm) ?_
  rintro ret m ⟨hret, hport, htimer, i, hi⟩
  exact ⟨hret, i, hport, htimer, hi⟩

lemma on_given {α : Type} {C : Prop} {x : Radio Transceiver α} {post : α → Machine Transceiver → Prop}
    (h : C → Triple (On P) x post) : Triple (On fun t => C ∧ P t) x post :=
  fun m a m' hm hrun => h hm.2.2.1 m a m' ⟨hm.1, hm.2.1, hm.2.2.2⟩ hrun

lemma On.mono {m : Machine Transceiver} (hm : On P m) (h : ∀ t, P t → Q t) : On Q m := ⟨hm.1, hm.2.1, h _ hm.2.2⟩

lemma answer_take (t : Transceiver) (reg : UInt8) (len : ℕ) :
    (t.answer reg len).take len = t.answer reg len := by
  apply List.take_of_length_le
  rw [answer]
  split_ifs
  · simp [load]
  · simp [load]

lemma on_read {Q : List (Option UInt8) → Transceiver → Prop}
    (h : ∀ t, P t → Q (t.elapse.answer reg len) (reader reg len t).2) :
    Triple (On P) (spiBurstReadReg reg len) fun out m => out.1 = .sxOk ∧ On (Q out.2) m := by
  rintro ⟨world, _, _, bandwidth, sf⟩ out m ⟨rfl, rfl, hP⟩ hrun
  obtain ⟨rfl, rfl⟩ : (Sx127xErr.sxOk, world.elapse.answer reg len) = out ∧ _ = m := by
    simpa [spiBurstReadReg, port, reader, answer_take] using hrun
  exact ⟨rfl, rfl, rfl, h world hP⟩

lemma on_readByte {Q : UInt8 → Transceiver → Prop} (hreg : reg ≠ 0x00)
    (h : ∀ t, P t → Q (t.elapse.regs reg) t.elapse.next) :
    Triple (On P) (spiReadByte reg data) fun out m => out.1 = .sxOk ∧ On (Q out.2) m := by
  have hread : Triple (On P) (spiBurstReadReg reg 1) fun out m =>
      out.1 = .sxOk ∧ On (fun t => Q ((out.2.head?.join).getD data) t) m := by
    refine on_read (Q := fun stored t => Q ((stored.head?.join).getD data) t) fun t ht => ?_
    simpa [answer, hreg, load, reader, readOut] using h t ht
  refine Triple.bind hread fun out => ?_
  exact .pure fun m hm => hm

lemma on_time (h : ∀ t, P t → P { t with readings := t.readings + 1 }) :
    Triple (On P) sx127xTimerGetTimeUs fun _ m => On P m := by
  rintro ⟨world, _, _, bandwidth, sf⟩ us m ⟨rfl, rfl, hP⟩ hrun
  obtain ⟨rfl, rfl⟩ : _ = us ∧ _ = m := by simpa [sx127xTimerGetTimeUs, timer] using hrun
  exact ⟨rfl, rfl, h world hP⟩

lemma on_delay (ms : ℕ) : Triple (On P) (sx127xTaskDelayMs ms) fun _ m => On P m := by
  rintro ⟨world, _, _, bandwidth, sf⟩ _ m ⟨rfl, rfl, hP⟩ hrun
  obtain rfl : _ = m := by simpa [sx127xTaskDelayMs, timer] using hrun
  exact ⟨rfl, rfl, hP⟩

lemma writer_mode (mode : UInt8) (t : Transceiver) : (writer 0x01 [mode] t).2 =
    { t.elapse with
      regs := Function.update t.elapse.regs 0x01 mode
      transmission := if [mode] = [modeLora ||| modeTx] then some t.elapse.loaded else none
      transactions := t.elapse.transactions + 1 } := by
  rw [writer, written, if_neg (by decide), if_neg (by decide), if_pos rfl, Chip.store_single]
  rfl

lemma writer_flags (t : Transceiver) : (writer 0x12 [0xFF] t).2 =
    { t.elapse with
      regs := Function.update t.elapse.regs 0x12 0
      transactions := t.elapse.transactions + 1 } := by
  have hmask : ~~~(0xFF : UInt8) = 0 := by decide
  rw [writer, written, if_neg (by decide), if_pos rfl]
  simp [next, hmask]

end Transactions

end Transceiver

end LoraNetworking
