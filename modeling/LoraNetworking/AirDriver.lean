import LoraNetworking.SendCompletion
import LoraNetworking.Sx127xUtils
import LoraNetworking.Transceiver
import LoraNetworking.WorkingRadio

/-! The driver on a radio in the air: what it has received and sent when a call returns. -/

namespace LoraNetworking.Transceiver

open StateProg

section Modes

variable {base : List AirEvent} {hs : List Reception} {mode : UInt8} {quiet : Prop} {t : Transceiver}

/-- No transmission is under way, and under the condition `quiet` the radio does not listen. -/
structure Begun (quiet : Prop) (base : List AirEvent) (t : Transceiver) : Prop where
  log : t.log = base
  idle : t.transmission = none
  silent : quiet → ¬ t.Listening

lemma Silent.begun (h : Silent base t) (quiet : Prop) : Begun quiet base t := ⟨h.log, h.idle, fun _ => h.quiet⟩

lemma Pending.begun (h : Pending base hs t) : Begun False (base ++ hs.map .heard) t := ⟨h.log, h.idle, False.elim⟩

lemma Silent.elapse_eq (h : Silent base t) : t.elapse = t := elapse_quiet h.idle h.quiet

lemma Begun.elapse (h : Begun quiet base t) : ∃ lost : List Reception, (quiet → lost = []) ∧
    t.elapse.log = base ++ lost.map .heard ∧ t.elapse.transmission = none := by
  by_cases hlisten : t.Listening
  · have hloud : ¬ quiet := fun hq => h.silent hq hlisten
    cases t.elapsed with
    | nothing ht => exact ⟨[], by simp, by simp [ht, h.log], by rw [ht, h.idle]⟩
    | transmitted frame hsending ht => simp [h.idle] at hsending
    | received r hidle ht =>
      exact ⟨[r], fun hq => absurd hq hloud, by simp [ht, received, h.log], by rw [ht]; exact hidle⟩
    | expired hidle ht => exact ⟨[], by simp, by simp [ht, interrupted, h.log], by rw [ht]; exact hidle⟩
  · rw [elapse_quiet h.idle hlisten]
    exact ⟨[], by simp, by simp [h.log], h.idle⟩

lemma quiet_of_mode (hmode : mode = modeLora ||| modeStdby ∨ mode = modeLora ||| modeSleep)
    (h : t.regs 0x01 = mode) : ¬ t.Listening := by
  rw [Listening, h]
  rcases hmode with rfl | rfl
  · decide
  · decide

lemma begun_mode (hmode : mode = modeLora ||| modeStdby ∨ mode = modeLora ||| modeSleep) :
    Triple (On (Begun quiet base)) (sx1278SwitchMode mode) fun ret m => ret = .sxOk ∧
      ∃ lost : List Reception, On (fun t => (quiet → lost = []) ∧ Silent (base ++ lost.map .heard) t) m := by
  apply on_write_exists
  intro t ht
  obtain ⟨lost, hlost, hlog, hidle⟩ := ht.elapse
  have hdata : [mode] ≠ [modeLora ||| modeTx] := by
    rcases hmode with rfl | rfl
    · decide
    · decide
  rw [writer_mode, if_neg hdata]
  exact ⟨lost, hlost, hlog, rfl, quiet_of_mode hmode (by simp)⟩

lemma begun_listen : Triple (On (Begun quiet base)) (sx1278SwitchMode (modeLora ||| modeRxContinuous)) fun ret m =>
    ret = .sxOk ∧ ∃ lost : List Reception, On (Begun False (base ++ lost.map .heard)) m := by
  apply on_write_exists
  intro t ht
  obtain ⟨lost, -, hlog, hidle⟩ := ht.elapse
  have hdata : [modeLora ||| modeRxContinuous] ≠ [modeLora ||| modeTx] := by decide
  rw [writer_mode, if_neg hdata]
  exact ⟨lost, hlog, rfl, False.elim⟩

lemma pending_mode (hmode : mode ≠ modeLora ||| modeTx) :
    Triple (On (Pending base hs)) (sx1278SwitchMode mode) fun ret m => ret = .sxOk ∧
      ∃ hs', On (fun t => Pending base (hs ++ hs') t ∧ t.regs 0x01 = mode) m := by
  apply on_write_exists
  intro t ht
  obtain ⟨hs', hpending⟩ := ht.elapse
  have hdata : [mode] ≠ [modeLora ||| modeTx] := fun h => hmode (List.singleton_inj.mp h)
  rw [writer_mode, if_neg hdata]
  refine ⟨hs', hpending.congr rfl rfl rfl ?_, by simp⟩
  rintro a (rfl | rfl | rfl)
  · simp
  · simp
  · simp

lemma cleared_pending (hlog : t.log = base) (hidle : t.transmission = none) (hflags : t.regs 0x12 = 0) :
    Pending base [] t where
  log := by simpa using hlog
  idle := hidle
  done := by simp [hflags]
  crc := by simp [hflags]
  last := by simp

lemma begun_clear : Triple (On (Begun quiet base)) sx1278ClearIrq fun ret m => ret = .sxOk ∧
    ∃ lost : List Reception, On (fun t => (quiet → lost = []) ∧ Begun quiet (base ++ lost.map .heard) t ∧
      Pending (base ++ lost.map .heard) [] t) m := by
  apply on_write_exists
  intro t ht
  obtain ⟨lost, hlost, hlog, hidle⟩ := ht.elapse
  rw [writer_flags]
  refine ⟨lost, hlost, ⟨hlog, hidle, fun hquiet hlisten => ht.silent hquiet ?_⟩, cleared_pending hlog hidle (by simp)⟩
  rw [elapse_quiet ht.idle (ht.silent hquiet)] at hlisten
  simpa [Listening] using hlisten

lemma silent_clear : Triple (On (Silent base)) sx1278ClearIrq fun ret m =>
    ret = .sxOk ∧ On (fun t => Pending base [] t ∧ Silent base t) m := by
  refine on_write fun t ht => ?_
  rw [writer_flags, ht.elapse_eq]
  refine ⟨cleared_pending ht.log ht.idle (by simp), ht.log, ht.idle, fun hlisten => ht.quiet ?_⟩
  simpa [Listening] using hlisten

end Modes

section Reading

/-- What is read of a batch: the last frame, and nothing if one of them was damaged. -/
def batchFrame (hs : List Reception) : List UInt8 :=
  if hs.any Reception.damaged then [] else (hs.getLast?.map Reception.frame).getD []

def readBatch (behind : ℕ → UInt8) (hs : List Reception) : Packet := decodeFrame behind (batchFrame hs)

structure Settled (base : List AirEvent) (hs : List Reception) (t : Transceiver) : Prop where
  pending : Pending base hs t
  quiet : ¬ t.Listening

variable {base : List AirEvent} {hs : List Reception} {r : Reception} {reg data a : UInt8} {t : Transceiver}

lemma Settled.silent (h : Settled base hs t) : Silent (base ++ hs.map .heard) t :=
  ⟨h.pending.log, h.pending.idle, h.quiet⟩

lemma batchFrame_damaged (h : ∃ r ∈ hs, r.damaged = true) : batchFrame hs = [] := if_pos (List.any_eq_true.mpr h)

lemma batchFrame_last (h : ¬ ∃ r ∈ hs, r.damaged = true) (hr : hs.getLast? = some r) : batchFrame hs = r.frame := by
  rw [batchFrame, if_neg (fun hany => h (List.any_eq_true.mp hany)), hr]
  rfl

lemma pending_standby : Triple (On (Pending base hs)) (sx1278SwitchMode (modeLora ||| modeStdby)) fun ret m =>
    ret = .sxOk ∧ ∃ hs', On (Settled base (hs ++ hs')) m := by
  refine (pending_mode (by decide)).mono (fun _ hm => hm) ?_
  rintro ret m ⟨hret, hs', hm⟩
  exact ⟨hret, hs', hm.mono fun t ht => ⟨ht.1, quiet_of_mode (Or.inl rfl) ht.2⟩⟩

lemma settled_byte (hreg : reg ≠ 0x00) : Triple (On (Settled base hs)) (spiReadByte reg data) fun out m =>
    out.1 = .sxOk ∧ On (fun t => t.regs reg = out.2 ∧ Settled base hs t) m := by
  refine on_readByte (Q := fun b t => t.regs reg = b ∧ Settled base hs t) hreg fun t ht => ?_
  rw [ht.silent.elapse_eq]
  exact ⟨rfl, ht.pending.congr rfl ht.pending.idle rfl fun _ _ => rfl, ht.quiet⟩

lemma settled_irq : Triple (On (Settled base hs)) (sx1278ReadIrq data) fun out m => out.1 = .sxOk ∧
    On (fun t => ((out.2 &&& irqRxDone ≠ 0 ↔ hs ≠ []) ∧
      (out.2 &&& irqPayloadCrcError ≠ 0 ↔ ∃ r ∈ hs, r.damaged = true)) ∧ Settled base hs t) m := by
  refine (settled_byte (by decide)).mono (fun _ hm => hm) ?_
  rintro out m ⟨hret, hm⟩
  refine ⟨hret, hm.mono fun t ht => ⟨?_, ht.2⟩⟩
  rw [← ht.1]
  exact ⟨ht.2.pending.done, ht.2.pending.crc⟩

lemma settled_last (hreg : reg ≠ 0x00) (hval : ∀ t, Settled base hs t → t.regs reg = a) :
    Triple (On (Settled base hs)) (spiReadByte reg data) fun out m => out = (.sxOk, a) ∧ On (Settled base hs) m := by
  refine (settled_byte hreg).mono (fun _ hm => hm) ?_
  rintro ⟨ret, b⟩ m ⟨rfl, hm⟩
  obtain rfl : b = a := hm.2.2.1.symm.trans (hval _ hm.2.2.2)
  exact ⟨rfl, hm.mono fun t ht => ht.2⟩

lemma settled_pointer : Triple (On (Settled base hs)) (spiBurstWriteReg 0x0D [a]) fun ret m =>
    ret = .sxOk ∧ On (fun t => t.regs 0x0D = a ∧ Settled base hs t) m := by
  refine on_write fun t ht => ?_
  have hwritten : (writer 0x0D [a] t).2 = ({ t with regs := Function.update t.regs 0x0D a }).next := by
    rw [writer, ht.silent.elapse_eq, written, if_neg (by decide), if_neg (by decide), if_neg (by decide),
      Chip.store_single]
  rw [hwritten]
  refine ⟨by simp [next], ht.pending.congr rfl ht.pending.idle rfl ?_, fun hlisten => ht.quiet ?_⟩
  · rintro b (rfl | rfl | rfl)
    · simp [next]
    · simp [next]
    · simp [next]
  · simpa [Listening, next] using hlisten

lemma settled_fifo (hr : hs.getLast? = some r) :
    Triple (On fun t => t.regs 0x0D = r.address ∧ Settled base hs t)
      (spiBurstReadReg 0x00 (UInt8.ofNat r.frame.length).toNat) fun out m =>
        out.1 = .sxOk ∧ On (fun t => out.2 = r.frame.map some ∧ Settled base hs t) m := by
  have hlen : (UInt8.ofNat r.frame.length).toNat = r.frame.length := by
    rw [UInt8.toNat_ofNat']
    have := r.bounded
    omega
  rw [hlen]
  refine on_read (Q := fun stored t => stored = r.frame.map some ∧ Settled base hs t) ?_
  rintro t ⟨hpointer, ht⟩
  simp only [ht.silent.elapse_eq, reader, answer, readOut, if_true, hpointer]
  refine ⟨(ht.pending.last r hr).2.2, ht.pending.congr rfl ht.pending.idle rfl ?_, fun hlisten => ht.quiet ?_⟩
  · rintro b (rfl | rfl | rfl)
    · simp [next]
    · simp [next]
    · simp [next]
  · simpa [Listening, next] using hlisten

def BatchRead (base : List AirEvent) (hs : List Reception) (payload : PayloadRead) (m : Machine Transceiver) : Prop :=
  payload.stored = (batchFrame hs).map some ∧ On (Silent (base ++ hs.map .heard)) m

lemma settled_cleared {payload : PayloadRead} (h : payload.stored = (batchFrame hs).map some) :
    Triple (On (Settled base hs)) (sx1278ClearIrq >>= fun _ => pure payload) (BatchRead base hs) := by
  have hclear : Triple (On (Settled base hs)) sx1278ClearIrq fun _ m => On (Silent (base ++ hs.map .heard)) m := by
    refine silent_clear.mono (fun m hm => hm.mono fun t ht => ht.silent) ?_
    rintro ret m ⟨-, hm⟩
    exact hm.mono fun t ht => ht.2
  refine hclear.bind fun _ => .pure ?_
  intro m hm
  exact ⟨h, hm⟩

lemma readLastPayload_pending : Triple (On (Pending base hs)) sx1278ReadLastPayload fun payload m =>
    ∃ hs', BatchRead base (hs ++ hs') payload m := by
  refine .passed pending_standby (.exists_pre fun hs' => ?_)
  refine Triple.mono ?_ (fun _ hm => hm) fun _ _ hm => ⟨hs', hm⟩
  generalize hs ++ hs' = batch
  refine .bind settled_irq fun out => ?_
  obtain ⟨ret, flags⟩ := out
  refine .given fun hret => on_given fun ⟨hdone, hcrc⟩ => ?_
  dsimp only at hret hdone hcrc ⊢
  rw [if_neg (not_not.mpr hret)]
  refine .ite (fun hnone => settled_cleared ?_) fun hsome => .ite (fun hdamaged => settled_cleared ?_) fun hwhole => ?_
  · obtain rfl : batch = [] := by
      by_contra hne
      exact hdone.mpr hne hnone
    rfl
  · rw [batchFrame_damaged (hcrc.mp hdamaged)]
    rfl
  -- the last frame is whole and its length and address are in the registers
  · obtain ⟨r, hr⟩ : ∃ r, batch.getLast? = some r := ⟨_, List.getLast?_eq_some_getLast (hdone.mp hsome)⟩
    have hframe : batchFrame batch = r.frame := batchFrame_last (fun h => hwhole (hcrc.mpr h)) hr
    refine .bind (settled_last (by decide) fun t ht => (ht.pending.last r hr).2.1) fun out => ?_
    obtain ⟨_, n⟩ := out
    refine .given fun hn => ?_
    obtain ⟨rfl, rfl⟩ := Prod.mk.inj hn
    refine .bind (settled_last (by decide) fun t ht => (ht.pending.last r hr).1) fun out => ?_
    obtain ⟨ret, a⟩ := out
    refine .given fun ha => ?_
    obtain ⟨rfl, rfl⟩ := Prod.mk.inj ha
    refine .ite (fun hne => absurd rfl hne) fun _ => .passed settled_pointer ?_
    refine .bind (settled_fifo hr) fun out => ?_
    obtain ⟨ret, stored⟩ := out
    refine .given fun hret => on_given fun hstored => ?_
    dsimp only at hret hstored ⊢
    rw [if_neg (not_not.mpr hret)]
    exact settled_cleared (by rw [hstored, hframe])

end Reading

section Polling

variable {P Met : Transceiver → Prop} {mask irq : UInt8} {start timeoutUs : ℤ} {interval timeout fuel : ℕ}
  {cleanup : Bool}

/-- `P` is kept while a flag is polled, and gives `Met` once the flag is seen. -/
structure Watched (mask : UInt8) (cleanup : Bool) (P Met : Transceiver → Prop) : Prop where
  next : ∀ t, P t → P t.elapse.next
  met : ∀ t, P t → t.regs 0x12 &&& mask ≠ 0 → Met t
  time : ∀ t, P t → P { t with readings := t.readings + 1 }
  clear : cleanup = true → ∀ t, P t → P (writer 0x12 [0xFF] t).2
  clearMet : cleanup = true → ∀ t, Met t → Met (writer 0x12 [0xFF] t).2

lemma cleanup_triple {ret : Sx127xErr} (h : cleanup = true → ∀ t, P t → P (writer 0x12 [0xFF] t).2) :
    Triple (On P) (irqCleanup cleanup >>= fun _ => pure ret) fun code m => code = ret ∧ On P m := by
  cases cleanup with
  | true =>
    have hclean : Triple (On P) (irqCleanup true) fun _ m => On P m := by
      refine (on_write (h rfl)).bind fun _ => .pure ?_
      intro m hm
      exact hm.2
    exact hclean.bind fun _ => .pure fun m hm => ⟨rfl, hm⟩
  | false => exact .pure fun m hm => ⟨rfl, hm⟩

lemma Watched.read (h : Watched mask cleanup P Met) :
    Triple (On P) (spiReadByte 0x12 irq) fun out m =>
      out.1 = .sxOk ∧ On (fun t => (out.2 &&& mask ≠ 0 → Met t) ∧ P t) m := by
  refine on_readByte (Q := fun b t => (b &&& mask ≠ 0 → Met t) ∧ P t) (by decide) fun t ht => ?_
  exact ⟨fun hflag => h.met _ (h.next t ht) hflag, h.next t ht⟩

lemma Watched.loop (h : Watched mask cleanup P Met) (irq : UInt8) :
    Triple (On P) (pollForIrqFlagLoop start timeoutUs interval mask cleanup fuel irq) fun ret m =>
      (ret = .sxOk ∧ On Met m) ∨ (ret = .sxTimeout ∧ On P m) := by
  induction fuel generalizing irq with
  | zero => exact .stop
  | succ fuel ih =>
    refine .bind h.read fun out => ?_
    obtain ⟨ret, irq'⟩ := out
    refine .given fun hret => ?_
    dsimp only at hret ⊢
    rw [if_neg (not_not.mpr hret)]
    refine .ite (fun hflag => ?_) fun _ => ?_
    · exact (cleanup_triple h.clearMet).mono (fun m hm => hm.mono fun t ht => ht.1 hflag) fun _ _ hm => Or.inl hm
    · refine Triple.mono ?_ (fun m hm => hm.mono fun t ht => ht.2) fun _ _ hm => hm
      refine .bind (on_time h.time) fun now => .ite (fun _ => ?_) fun _ => .bind (on_delay _) fun _ => ih irq'
      exact (cleanup_triple h.clear).mono (fun _ hm => hm) fun _ _ hm => Or.inr hm

lemma Watched.poll (h : Watched mask cleanup P Met) :
    Triple (On P) (pollForIrqFlag fuel timeout interval mask cleanup) fun ret m =>
      (ret = .sxOk ∧ On Met m) ∨ (ret = .sxTimeout ∧ On P m) :=
  .bind (on_time h.time) fun _ => h.loop 0

lemma Watched.pollNoTimeout (h : Watched mask cleanup P Met) (irq : UInt8) :
    Triple (On P) (pollForIrqFlagNoTimeout interval mask cleanup fuel irq) fun ret m => ret = .sxOk ∧ On Met m := by
  induction fuel generalizing irq with
  | zero => exact .stop
  | succ fuel ih =>
    refine .bind h.read fun out => ?_
    obtain ⟨ret, irq'⟩ := out
    refine .given fun hret => ?_
    dsimp only at hret ⊢
    rw [if_neg (not_not.mpr hret)]
    refine .ite (fun hflag => ?_) fun _ => ?_
    · exact (cleanup_triple h.clearMet).mono (fun m hm => hm.mono fun t ht => ht.1 hflag) fun _ _ hm => hm
    · refine Triple.mono ?_ (fun m hm => hm.mono fun t ht => ht.2) fun _ _ hm => hm
      exact .bind (on_delay _) fun _ => ih irq'

end Polling

section Sending

variable {base : List AirEvent} {frame : List UInt8} {t : Transceiver} {reg b mode : UInt8} {quiet : Prop}
  {fuel : ℕ}

inductive OnAir (base : List AirEvent) (frame : List UInt8) (t : Transceiver) : Prop
  | sending (transmission : t.transmission = some frame) (log : t.log = base)
      (flag : t.regs 0x12 &&& txDone = 0)
  | sent (silent : Silent (base ++ [.sent frame]) t)

lemma OnAir.elapse (h : OnAir base frame t) : OnAir base frame t.elapse := by
  cases h with
  | sending htransmission hlog hflag =>
    cases t.elapsed with
    | nothing ht =>
      rw [ht]
      exact .sending htransmission hlog hflag
    | transmitted frame' hsending ht =>
      obtain rfl : frame = frame' := Option.some.inj (htransmission.symm.trans hsending)
      rw [ht]
      exact .sent ⟨by simp [transmitted, hlog], rfl, quiet_of_mode (Or.inl rfl) rfl⟩
    | received r hidle ht => simp [hidle] at htransmission
    | expired hidle ht => simp [hidle] at htransmission
  | sent hsilent =>
    rw [hsilent.elapse_eq]
    exact .sent hsilent

lemma Silent.congr {u : Transceiver} (h : Silent base t) (hlog : u.log = t.log)
    (hidle : u.transmission = t.transmission) (hmode : u.regs 0x01 = t.regs 0x01) : Silent base u where
  log := hlog.trans h.log
  idle := hidle.trans h.idle
  quiet := by
    rw [Listening, hmode]
    exact h.quiet

lemma Silent.cleared (h : Silent base t) : Silent base (writer 0x12 [0xFF] t).2 := by
  rw [writer_flags, h.elapse_eq]
  exact h.congr rfl rfl (by simp)

lemma OnAir.cleared (h : OnAir base frame t) : OnAir base frame (writer 0x12 [0xFF] t).2 := by
  rw [writer_flags]
  cases h.elapse with
  | sending htransmission hlog hflag => exact .sending htransmission hlog (by simp)
  | sent hsilent => exact .sent (hsilent.congr rfl rfl (by simp))

lemma onAir_watched : Watched txDone true (OnAir base frame) (Silent (base ++ [.sent frame])) where
  next t ht := by
    cases ht.elapse with
    | sending htransmission hlog hflag => exact .sending htransmission hlog hflag
    | sent hsilent => exact .sent (hsilent.congr rfl rfl rfl)
  met t ht hdone := by
    cases ht with
    | sending htransmission hlog hflag => exact absurd hflag hdone
    | sent hsilent => exact hsilent
  time t ht := by
    cases ht with
    | sending htransmission hlog hflag => exact .sending htransmission hlog hflag
    | sent hsilent => exact .sent (hsilent.congr rfl rfl rfl)
  clear _ _ ht := ht.cleared
  clearMet _ _ ht := ht.cleared

lemma silent_byte {data : UInt8} (hreg : reg ≠ 0x00) : Triple (On (Silent base)) (spiReadByte reg data) fun out m =>
    out.1 = .sxOk ∧ On (fun t => t.regs reg = out.2 ∧ Silent base t) m := by
  refine on_readByte (Q := fun b t => t.regs reg = b ∧ Silent base t) hreg fun t ht => ?_
  rw [ht.elapse_eq]
  exact ⟨rfl, ht.congr rfl rfl rfl⟩

lemma silent_store {P Q : Transceiver → Prop} (hfifo : reg ≠ 0x00) (hflags : reg ≠ 0x12) (hmode : reg ≠ 0x01)
    (h : ∀ t, P t → Q ({ t with regs := Function.update t.regs reg b }).next) :
    Triple (On fun t => P t ∧ Silent base t) (spiBurstWriteReg reg [b]) fun ret m =>
      ret = .sxOk ∧ On (fun t => Q t ∧ Silent base t) m := by
  apply on_write
  rintro t ⟨hP, ht⟩
  have hwritten : (writer reg [b] t).2 = ({ t with regs := Function.update t.regs reg b }).next := by
    rw [writer, ht.elapse_eq, written, if_neg hfifo, if_neg hflags, if_neg hmode, Chip.store_single]
  rw [hwritten]
  exact ⟨h t hP, ht.congr rfl rfl (Function.update_of_ne (Ne.symm hmode) _ _)⟩

lemma loaded_store (first : UInt8) (hbase : t.regs 0x0E = first) (hlen : (t.regs 0x22).toNat = frame.length)
    (bank : UInt8 → UInt8) (hfifo : t.fifo = store bank first frame) : t.loaded = frame := by
  have hbound : frame.length ≤ 255 := by
    have := (t.regs 0x22).toNat_lt
    omega
  have hload : t.loaded.map some = load t.fifo first frame.length := by
    rw [loaded, hbase, hlen, load, List.map_map]
    rfl
  rw [hfifo, load_store _ _ hbound] at hload
  exact List.map_injective_iff.mpr (Option.some_injective _) hload

lemma silent_fifo {a : UInt8} : Triple
    (On fun t => (t.regs 0x0E = a ∧ t.regs 0x0D = a ∧ (t.regs 0x22).toNat = frame.length) ∧ Silent base t)
    (spiBurstWriteReg 0x00 frame) fun ret m => ret = .sxOk ∧ On (fun t => t.loaded = frame ∧ Silent base t) m := by
  apply on_write
  rintro t ⟨⟨hbase, hpointer, hlen⟩, ht⟩
  rw [writer, ht.elapse_eq, written, if_pos rfl]
  refine ⟨loaded_store a ?_ ?_ t.fifo ?_, ht.congr rfl rfl ?_⟩
  · simpa [next] using hbase
  · simpa [next] using hlen
  · simp [next, hpointer]
  · simp [next]

lemma loaded_clear : Triple (On fun t => t.loaded = frame ∧ Silent base t) sx1278ClearIrq fun ret m =>
    ret = .sxOk ∧ On (fun t => (t.loaded = frame ∧ t.regs 0x12 = 0) ∧ Silent base t) m := by
  apply on_write
  rintro t ⟨hloaded, ht⟩
  refine ⟨⟨?_, ?_⟩, ht.cleared⟩
  · rw [writer_flags, ht.elapse_eq]
    simpa [loaded] using hloaded
  · rw [writer_flags]
    simp

lemma silent_start : Triple (On fun t => (t.loaded = frame ∧ t.regs 0x12 = 0) ∧ Silent base t)
    (sx1278SwitchMode (modeLora ||| modeTx)) fun ret m => ret = .sxOk ∧ On (OnAir base frame) m := by
  apply on_write
  rintro t ⟨⟨hloaded, hflags⟩, ht⟩
  rw [writer_mode, if_pos rfl, ht.elapse_eq]
  exact .sending (congrArg some hloaded) ht.log (by simp [hflags])

lemma silent_mode (hmode : mode ≠ modeLora ||| modeTx) :
    Triple (On fun t => Pending base [] t ∧ Silent base t) (sx1278SwitchMode mode) fun ret m =>
      ret = .sxOk ∧ On (fun t => Pending base [] t ∧ t.regs 0x01 = mode) m := by
  apply on_write
  rintro t ⟨hpending, ht⟩
  have hdata : [mode] ≠ [modeLora ||| modeTx] := fun h => hmode (List.singleton_inj.mp h)
  rw [writer_mode, if_neg hdata, ht.elapse_eq]
  refine ⟨hpending.congr rfl rfl rfl ?_, by simp⟩
  rintro a (rfl | rfl | rfl)
  · simp
  · simp
  · simp

def SendEnds (base : List AirEvent) (frame : List UInt8) (mode : UInt8) (ret : Sx127xErr)
    (m : Machine Transceiver) : Prop :=
  (ret = .sxOk ∧ On (fun t => Pending (base ++ [.sent frame]) [] t ∧ t.regs 0x01 = mode) m) ∨
    (ret = .sxTimeout ∧ On (OnAir base frame) m)

lemma modeAfterTx_ne (switchToRxAfterTx : Bool) : modeAfterTx switchToRxAfterTx ≠ modeLora ||| modeTx := by
  cases switchToRxAfterTx
  · decide
  · decide

lemma sent_finish (mode : UInt8) (hmode : mode ≠ modeLora ||| modeTx) :
    Triple (On (Silent (base ++ [.sent frame]))) (do
      let ret ← sx1278ClearIrq
      if ret ≠ .sxOk then return ret
      let ret ← sx1278SwitchMode mode
      if ret ≠ .sxOk then return ret
      return .sxOk) (SendEnds base frame mode) := by
  refine .passed silent_clear (.passed (silent_mode hmode) (.pure ?_))
  intro m hm
  exact Or.inl ⟨rfl, hm⟩

lemma sendPayload_begun {buf : List UInt8} {len : UInt8} {switchToRxAfterTx : Bool} (hlen : len.toNat ≤ buf.length) :
    Triple (On (Begun quiet base)) (sx1278SendPayload fuel buf len switchToRxAfterTx) fun ret m =>
      ∃ lost : List Reception, (quiet → lost = []) ∧
        SendEnds (base ++ lost.map .heard) (buf.take len.toNat) (modeAfterTx switchToRxAfterTx) ret m := by
  have hframe : len.toNat = (buf.take len.toNat).length := by simp [hlen]
  refine .passed (begun_mode (Or.inl rfl)) (.exists_pre fun lost => on_given fun hlost => ?_)
  refine Triple.mono ?_ (fun _ hm => hm) fun _ _ hm => ⟨lost, hlost, hm⟩
  generalize base ++ lost.map AirEvent.heard = base'
  refine .bind (silent_byte (by decide)) fun out => ?_
  obtain ⟨ret, a⟩ := out
  refine .given fun hret => ?_
  dsimp only at hret ⊢
  rw [if_neg (not_not.mpr hret)]
  refine .passed (silent_store (Q := fun t => t.regs 0x0E = a ∧ t.regs 0x0D = a) (by decide) (by decide)
    (by decide) fun t ht => ⟨by simpa [next] using ht, by simp [next]⟩) ?_
  refine .passed (silent_store
    (Q := fun t => t.regs 0x0E = a ∧ t.regs 0x0D = a ∧ (t.regs 0x22).toNat = (buf.take len.toNat).length)
    (by decide) (by decide) (by decide) fun t ht => ⟨?_, ?_, ?_⟩) ?_
  · simpa [next] using ht.1
  · simpa [next] using ht.2
  · simpa [next] using hframe
  refine .passed silent_fifo (.passed loaded_clear (.passed silent_start (.bind onAir_watched.poll fun ret => ?_)))
  refine .or (.given fun hret => ?_) (.given fun hret => ?_)
  · rw [if_neg (not_not.mpr hret)]
    exact sent_finish _ (modeAfterTx_ne _)
  · rw [if_pos (by simp [hret])]
    exact .pure fun m hm => Or.inr ⟨hret, hm⟩

end Sending

end LoraNetworking.Transceiver
