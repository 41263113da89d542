import LoraNetworking.Sx127xConfig

/-! The shadows of the configuration against the registers of the radio: what every
configuration call does to both, and when they keep telling the same. -/

namespace LoraNetworking

open StateProg

structure RegisterFile where
  regs : UInt8 → UInt8
  results : ℕ → Sx127xErr
  transactions : ℕ

namespace RegisterFile

def result (w : RegisterFile) : Sx127xErr := w.results w.transactions

def writer (reg : UInt8) (data : List UInt8) (w : RegisterFile) : Sx127xErr × RegisterFile :=
  (w.result,
    { w with
      transactions := w.transactions + 1
      regs :=
        if w.result = .sxOk then Function.update w.regs reg (data.getLast?.getD (w.regs reg))
        else w.regs })

def reader (reg : UInt8) (len : ℕ) (w : RegisterFile) :
    (Sx127xErr × List (Option UInt8)) × RegisterFile :=
  ((w.result, if w.result = .sxOk then List.replicate len (some (w.regs reg)) else []),
    { w with transactions := w.transactions + 1 })

def port (initialized : Bool) : SpiPort RegisterFile := ⟨writer, reader, initialized⟩

end RegisterFile

inductive ConfigCall
  | initializeSx1278 (initialized : Bool) (timer : Sx127xTimerCtx RegisterFile)
  | sx1278SetBandwidth (bw : Bandwidths) (cr : CodingRate) (enableExplicitHeaders : Bool)
  | sx1278SetSpreadingFactor (sf : UInt8)
  | sx1278SwitchToNthChannel (n : ℕ)

def ConfigCall.run : ConfigCall → Radio RegisterFile Sx127xErr
  | .initializeSx1278 initialized timer =>
    LoraNetworking.initializeSx1278 (RegisterFile.port initialized) timer
  | .sx1278SetBandwidth bw cr enableExplicitHeaders =>
    LoraNetworking.sx1278SetBandwidth bw cr enableExplicitHeaders
  | .sx1278SetSpreadingFactor sf => LoraNetworking.sx1278SetSpreadingFactor sf
  | .sx1278SwitchToNthChannel n => LoraNetworking.sx1278SwitchToNthChannel n

structure Matched (m : Machine RegisterFile) : Prop where
  bandwidth : ∃ bw : Bandwidths, bw.code = m.world.regs 0x1D >>> 4 ∧ m.loraBandwidthHz = getBwValue bw
  factor : m.spreadingFactor = m.world.regs 0x1E >>> 4

def ReachesModemConfig (initialized : Bool) (w : RegisterFile) : Prop :=
  initialized = true ∧ w.regs 0x42 = 0x12 ∧ ∀ i < 13, w.results (w.transactions + i) = .sxOk

/-- Initialisation always codes 125 kHz, and it does not look at the result of the
fifteenth transaction, which writes `0x1E`. -/
def Safe (m : Machine RegisterFile) : ConfigCall → Prop
  | .initializeSx1278 initialized _ =>
    (ReachesModemConfig initialized m.world → m.loraBandwidthHz = 125000) ∧
      (m.world.results (m.world.transactions + 14) = .sxOk ∨
        m.spreadingFactor = m.world.regs 0x1E >>> 4)
  | _ => True

def ProgramStart (m : Machine RegisterFile) : Prop :=
  m.loraBandwidthHz = 125000 ∧ m.spreadingFactor = 12

structure Untouched (s t : Machine RegisterFile) : Prop where
  bandwidth : t.loraBandwidthHz = s.loraBandwidthHz
  factor : t.spreadingFactor = s.spreadingFactor
  modemConfig1 : t.world.regs 0x1D = s.world.regs 0x1D
  modemConfig2 : t.world.regs 0x1E = s.world.regs 0x1E
  port : t.sx127xSpiPort = s.sx127xSpiPort

structure Advanced (s : Machine RegisterFile) (k : ℕ) (t : Machine RegisterFile) : Prop
    extends Untouched s t where
  version : t.world.regs 0x42 = s.world.regs 0x42
  results : t.world.results = s.world.results
  count : t.world.transactions = s.world.transactions + k
  succeeded : ∀ i < k, s.world.results (s.world.transactions + i) = .sxOk

def checkedWrites (ws : List (UInt8 × UInt8)) (rest : Radio RegisterFile Sx127xErr) :
    Radio RegisterFile Sx127xErr :=
  match ws with
  | [] => rest
  | w :: ws => do
    let ret ← spiBurstWriteReg w.1 [w.2]
    if ret ≠ .sxOk then return ret
    checkedWrites ws rest

def Plain (reg : UInt8) : Prop := reg ≠ 0x1D ∧ reg ≠ 0x1E ∧ reg ≠ 0x42

instance (reg : UInt8) : Decidable (Plain reg) := inferInstanceAs (Decidable (_ ∧ _ ∧ _))

section Steps

variable {s t u : Machine RegisterFile} {k : ℕ} {a : Sx127xErr} {reg b : UInt8}

lemma Untouched.refl (s : Machine RegisterFile) : Untouched s s := ⟨rfl, rfl, rfl, rfl, rfl⟩

lemma Untouched.trans (h : Untouched s t) (h' : Untouched t u) : Untouched s u :=
  ⟨h'.bandwidth.trans h.bandwidth, h'.factor.trans h.factor, h'.modemConfig1.trans h.modemConfig1,
    h'.modemConfig2.trans h.modemConfig2, h'.port.trans h.port⟩

lemma Untouched.matched (h : Untouched s t) (hm : Matched s) : Matched t := by
  obtain ⟨⟨bw, hcode, hbw⟩, hsf⟩ := hm
  exact ⟨⟨bw, by rw [h.modemConfig1, hcode], by rw [h.bandwidth, hbw]⟩,
    by rw [h.factor, h.modemConfig2, hsf]⟩

lemma write_cases {i : Bool} (hport : u.sx127xSpiPort = RegisterFile.port i)
    (h : spiBurstWriteReg reg [b] u = .ok (a, t)) :
    (a ≠ .sxOk ∧ (∃ n, t = { u with world := { u.world with transactions := n } })
      ∧ (i = true → u.world.results u.world.transactions ≠ .sxOk)) ∨
    (a = .sxOk ∧ i = true ∧ u.world.results u.world.transactions = .sxOk ∧
      t = { u with world :=
        { u.world with
          regs := Function.update u.world.regs reg b
          transactions := u.world.transactions + 1 } }) := by
  obtain ⟨world, port, timer, bw, sf⟩ := u
  obtain rfl : port = RegisterFile.port i := hport
  cases i with
  | false =>
    obtain ⟨rfl, rfl⟩ : Sx127xErr.sxUnitUnitialized = a ∧ _ = t := by
      simpa [spiBurstWriteReg, RegisterFile.port] using h
    exact Or.inl ⟨by decide, ⟨world.transactions, rfl⟩, by simp⟩
  | true =>
    simp only [spiBurstWriteReg, Prog.step_apply, Except.ok.injEq, RegisterFile.port,
      Bool.true_eq_false, if_false, RegisterFile.writer, Prod.mk.injEq] at h
    obtain ⟨ha, rfl⟩ := h
    by_cases hok : world.result = .sxOk
    · exact Or.inr ⟨ha.symm.trans hok, rfl, hok, by simp [hok, RegisterFile.port]⟩
    · exact Or.inl ⟨fun he => hok (ha.trans he), ⟨world.transactions + 1, by
        simp [hok, RegisterFile.port]⟩, fun _ => hok⟩

lemma Untouched.write {i : Bool} (hport : u.sx127xSpiPort = RegisterFile.port i) (hreg : Plain reg)
    (h : spiBurstWriteReg reg [b] u = .ok (a, t)) : Untouched u t := by
  obtain ⟨h₁, h₂, -⟩ := hreg
  rcases write_cases hport h with ⟨-, ⟨n, rfl⟩, -⟩ | ⟨-, -, -, rfl⟩
  · exact ⟨rfl, rfl, rfl, rfl, rfl⟩
  · exact ⟨rfl, rfl, Function.update_of_ne h₁.symm _ _, Function.update_of_ne h₂.symm _ _, rfl⟩

lemma Untouched.checked {i : Bool} {rest : Radio RegisterFile Sx127xErr}
    (hport : s.sx127xSpiPort = RegisterFile.port i) (h : Untouched s u) (hreg : Plain reg)
    (hrun : (spiBurstWriteReg reg [b] >>= fun ret => if ret ≠ .sxOk then pure ret else rest) u =
      .ok (a, t)) :
    Untouched s t ∨ ∃ v, Untouched s v ∧ rest v = .ok (a, t) := by
  have huport := h.port.trans hport
  rcases Prog.checked_ok.mp hrun with ⟨hfail, -⟩ | ⟨v, hok, hrest⟩
  · exact Or.inl (h.trans (Untouched.write huport hreg hfail))
  · exact Or.inr ⟨v, h.trans (Untouched.write huport hreg hok), hrest⟩

lemma Untouched.checked_all {i : Bool} {ws : List (UInt8 × UInt8)} {rest : Radio RegisterFile Sx127xErr}
    (hport : s.sx127xSpiPort = RegisterFile.port i) (h : Untouched s u) (hplain : ∀ w ∈ ws, Plain w.1)
    (hrun : checkedWrites ws rest u = .ok (a, t)) :
    Untouched s t ∨ ∃ v, Untouched s v ∧ rest v = .ok (a, t) := by
  induction ws generalizing u with
  | nil => exact Or.inr ⟨u, h, hrun⟩
  | cons w ws ih =>
    obtain ⟨hw, hws⟩ := List.forall_mem_cons.mp hplain
    cases h.checked hport hw hrun with
    | inl hstopped => exact Or.inl hstopped
    | inr hpassed =>
      obtain ⟨v, hv, hrest⟩ := hpassed
      exact ih hv hws hrest

lemma Untouched.channel {i : Bool} {n : ℕ} (hport : u.sx127xSpiPort = RegisterFile.port i)
    (hrun : sx1278SwitchToNthChannel n u = .ok (a, t)) : Untouched u t := by
  rw [sx1278SwitchToNthChannel, Prog.bind_of_ok rfl] at hrun
  split_ifs at hrun with hn
  · obtain ⟨rfl, rfl⟩ : Sx127xErr.sxInvalidArgument = a ∧ u = t := by simpa using hrun
    exact .refl u
  let frf := channelFrf u.loraBandwidthHz n
  have hwrites : checkedWrites [(0x06, UInt8.ofNat (frf >>> 16)), (0x07, UInt8.ofNat (frf >>> 8))]
      (spiBurstWriteReg 0x08 [UInt8.ofNat frf]) u = .ok (a, t) := hrun
  cases (Untouched.refl u).checked_all hport (by simp [Plain]) hwrites with
  | inl hstopped => exact hstopped
  | inr hpassed =>
    obtain ⟨v, hv, hlast⟩ := hpassed
    exact hv.trans (Untouched.write (hv.port.trans hport) (by decide) hlast)

def Stage (s : Machine RegisterFile) (k : ℕ) (a : Sx127xErr) (t : Machine RegisterFile) : Prop :=
  (a ≠ .sxOk ∧ Untouched s t) ∨ (a = .sxOk ∧ Advanced s k t)

variable (hport : s.sx127xSpiPort = RegisterFile.port true)
include hport

lemma Advanced.write (h : Advanced s k u) (hreg : Plain reg)
    (hrun : spiBurstWriteReg reg [b] u = .ok (a, t)) : Stage s (k + 1) a t := by
  have huport := h.port.trans hport
  have hut := Untouched.write huport hreg hrun
  rcases write_cases huport hrun with ⟨ha, -, -⟩ | ⟨rfl, -, hok, rfl⟩
  · exact Or.inl ⟨ha, h.toUntouched.trans hut⟩
  refine Or.inr ⟨rfl, ⟨h.toUntouched.trans hut, ?_, h.results, ?_, ?_⟩⟩
  · exact (Function.update_of_ne hreg.2.2.symm _ _).trans h.version
  · simp [h.count, Nat.add_assoc]
  · intro i hi
    rw [h.results, h.count] at hok
    rcases Nat.lt_succ_iff_lt_or_eq.mp hi with hlt | rfl
    · exact h.succeeded i hlt
    · exact hok

omit hport in
lemma Stage.checked {x rest : Radio RegisterFile Sx127xErr}
    (hx : ∀ b v, x u = .ok (b, v) → Stage s k b v)
    (hrun : (x >>= fun ret => if ret ≠ .sxOk then pure ret else rest) u = .ok (a, t)) :
    (a ≠ .sxOk ∧ Untouched s t) ∨ ∃ v, Advanced s k v ∧ rest v = .ok (a, t) := by
  rcases Prog.checked_ok.mp hrun with ⟨hfail, ha⟩ | ⟨v, hok, hrest⟩
  · rcases hx a t hfail with ⟨-, hut⟩ | ⟨rfl, -⟩
    · exact Or.inl ⟨ha, hut⟩
    · exact absurd rfl ha
  · rcases hx _ v hok with ⟨hne, -⟩ | ⟨-, hadv⟩
    · exact absurd rfl hne
    · exact Or.inr ⟨v, hadv, hrest⟩

lemma Advanced.checked {rest : Radio RegisterFile Sx127xErr} (h : Advanced s k u) (hreg : Plain reg)
    (hrun : (spiBurstWriteReg reg [b] >>= fun ret => if ret ≠ .sxOk then pure ret else rest) u =
      .ok (a, t)) :
    (a ≠ .sxOk ∧ Untouched s t) ∨ ∃ v, Advanced s (k + 1) v ∧ rest v = .ok (a, t) :=
  Stage.checked (fun _ _ hx => h.write hport hreg hx) hrun

lemma Advanced.checked_all {ws : List (UInt8 × UInt8)} {rest : Radio RegisterFile Sx127xErr}
    (h : Advanced s k u) (hplain : ∀ w ∈ ws, Plain w.1) (hrun : checkedWrites ws rest u = .ok (a, t)) :
    (a ≠ .sxOk ∧ Untouched s t) ∨ ∃ v, Advanced s (k + ws.length) v ∧ rest v = .ok (a, t) := by
  induction ws generalizing k u with
  | nil => exact Or.inr ⟨u, h, hrun⟩
  | cons w ws ih =>
    obtain ⟨hw, hws⟩ := List.forall_mem_cons.mp hplain
    cases h.checked hport hw hrun with
    | inl hstopped => exact Or.inl hstopped
    | inr hpassed =>
      obtain ⟨v, hv, hrest⟩ := hpassed
      rw [List.length_cons, Nat.add_comm ws.length, ← Nat.add_assoc]
      exact ih hv hws hrest

lemma Advanced.channel {n : ℕ} (h : Advanced s k u)
    (hrun : sx1278SwitchToNthChannel n u = .ok (a, t)) : Stage s (k + 3) a t := by
  rw [sx1278SwitchToNthChannel, Prog.bind_of_ok rfl] at hrun
  split_ifs at hrun with hn
  · obtain ⟨rfl, rfl⟩ : Sx127xErr.sxInvalidArgument = a ∧ u = t := by simpa using hrun
    exact Or.inl ⟨by decide, h.toUntouched⟩
  let frf := channelFrf u.loraBandwidthHz n
  have hwrites : checkedWrites
      [(0x06, UInt8.ofNat (frf >>> 16)), (0x07, UInt8.ofNat (frf >>> 8))]
      (spiBurstWriteReg 0x08 [UInt8.ofNat frf]) u = .ok (a, t) := hrun
  cases h.checked_all hport (by simp [Plain]) hwrites with
  | inl hstopped => exact Or.inl hstopped
  | inr hpassed =>
    obtain ⟨v, hv, hlast⟩ := hpassed
    exact hv.write hport (by decide) hlast

lemma Advanced.checked_channel {n : ℕ} {rest : Radio RegisterFile Sx127xErr} (h : Advanced s k u)
    (hrun : (sx1278SwitchToNthChannel n >>= fun ret => if ret ≠ .sxOk then pure ret else rest) u =
      .ok (a, t)) :
    (a ≠ .sxOk ∧ Untouched s t) ∨ ∃ v, Advanced s (k + 3) v ∧ rest v = .ok (a, t) :=
  Stage.checked (fun _ _ hx => h.channel hport hx) hrun

omit hport

lemma factor_nibble {sf : UInt8} (h : ¬ (sf < 6 ∨ sf > 12)) :
    ((0b00000100 : UInt8) ||| sf <<< 4) >>> 4 = sf := by
  simp only [not_or, gt_iff_lt, UInt8.lt_iff_toNat_lt, UInt8.reduceToNat] at h
  have hsf : sf.toNat = 6 ∨ sf.toNat = 7 ∨ sf.toNat = 8 ∨ sf.toNat = 9 ∨ sf.toNat = 10 ∨
      sf.toNat = 11 ∨ sf.toNat = 12 := by omega
  rcases hsf with hsf | hsf | hsf | hsf | hsf | hsf | hsf <;>
    rw [← UInt8.ofNat_toNat (x := sf), hsf] <;> rfl

lemma modemConfig_nibble (bw : Bandwidths) (cr : CodingRate) (enableExplicitHeaders : Bool) :
    modemConfig bw cr enableExplicitHeaders >>> 4 = bw.code := by
  cases bw <;> cases cr <;> cases enableExplicitHeaders <;> rfl

lemma setSpreadingFactor_cases {i : Bool} {sf : UInt8} (hport : u.sx127xSpiPort = RegisterFile.port i)
    (h : sx1278SetSpreadingFactor sf u = .ok (a, t)) :
    t.loraBandwidthHz = u.loraBandwidthHz ∧ t.world.regs 0x1D = u.world.regs 0x1D ∧
      t.sx127xSpiPort = u.sx127xSpiPort ∧
      ((t.spreadingFactor = u.spreadingFactor ∧ t.world.regs 0x1E = u.world.regs 0x1E ∧
          (a = .sxOk → sf < 6 ∨ sf > 12 ∨ u.world.results (u.world.transactions + 1) ≠ .sxOk)) ∨
        (t.spreadingFactor = sf ∧ sf = t.world.regs 0x1E >>> 4 ∧
          u.world.results (u.world.transactions + 1) = .sxOk)) := by
  rw [sx1278SetSpreadingFactor] at h
  rcases Prog.checked_ok.mp h with ⟨hmode, ha⟩ | ⟨v, hmode, h⟩
  · have hut := Untouched.write hport (by decide) hmode
    exact ⟨hut.bandwidth, hut.modemConfig1, hut.port, Or.inl ⟨hut.factor, hut.modemConfig2,
      fun he => absurd he ha⟩⟩
  rcases write_cases hport hmode with ⟨hne, -, -⟩ | ⟨-, hi, -, rfl⟩
  · exact absurd rfl hne
  split_ifs at h with hsf
  · obtain ⟨rfl, rfl⟩ : Sx127xErr.sxInvalidArgument = a ∧ _ = t := by simpa using h
    exact ⟨rfl, rfl, rfl, Or.inl ⟨rfl, rfl, fun _ => by tauto⟩⟩
  obtain ⟨ret, w, hwrite, h⟩ := Prog.bind_ok.mp h
  rcases write_cases (by exact hport) hwrite with ⟨hne, ⟨n, rfl⟩, hfail⟩ | ⟨rfl, -, hok, rfl⟩
  · rw [if_neg hne] at h
    have hut := Untouched.write (by exact hport) (by decide) h
    exact ⟨hut.bandwidth, hut.modemConfig1, hut.port, Or.inl ⟨hut.factor, hut.modemConfig2,
      fun _ => Or.inr (Or.inr (hfail hi))⟩⟩
  · rw [if_pos rfl, Prog.bind_of_ok rfl] at h
    have hut := Untouched.write (by exact hport) (by decide) h
    refine ⟨hut.bandwidth, hut.modemConfig1, hut.port, Or.inr ⟨hut.factor, ?_, hok⟩⟩
    rw [hut.modemConfig2]
    exact (factor_nibble hsf).symm

lemma setBandwidth_matched {i : Bool} {bw : Bandwidths} {cr : CodingRate} {enableExplicitHeaders : Bool}
    (hport : u.sx127xSpiPort = RegisterFile.port i) (hm : Matched u)
    (h : sx1278SetBandwidth bw cr enableExplicitHeaders u = .ok (a, t)) :
    Matched t ∧ t.sx127xSpiPort = RegisterFile.port i := by
  rw [sx1278SetBandwidth] at h
  rcases (Untouched.refl u).checked hport (by decide) h with hut | ⟨v, hut, h⟩
  · exact ⟨hut.matched hm, hut.port.trans hport⟩
  have hvport := hut.port.trans hport
  obtain ⟨ret, w, hwrite, h⟩ := Prog.bind_ok.mp h
  rcases write_cases hvport hwrite with ⟨hne, ⟨n, rfl⟩, -⟩ | ⟨rfl, -, -, rfl⟩
  · rw [if_neg hne] at h
    have hsleep := Untouched.write (by exact hvport) (by decide) h
    have hv : Matched { v with world := { v.world with transactions := n } } :=
      let ⟨hbw, hsf⟩ := hut.matched hm
      ⟨hbw, hsf⟩
    exact ⟨hsleep.matched hv, hsleep.port.trans hvport⟩
  rw [if_pos rfl, Prog.bind_of_ok rfl] at h
  have hv : Matched { v with
      world := { v.world with
        regs := Function.update v.world.regs 0x1D (modemConfig bw cr enableExplicitHeaders)
        transactions := v.world.transactions + 1 }
      loraBandwidthHz := getBwValue bw } := by
    refine ⟨⟨bw, ?_, rfl⟩, (hut.matched hm).factor⟩
    exact (modemConfig_nibble bw cr enableExplicitHeaders).symm
  rcases Prog.checked_ok.mp h with ⟨hchannel, -⟩ | ⟨w, hchannel, h⟩
  · have hch := Untouched.channel (by exact hvport) hchannel
    exact ⟨hch.matched hv, hch.port.trans hvport⟩
  · have hch := Untouched.channel (by exact hvport) hchannel
    have hsleep := Untouched.write (hch.port.trans hvport) (by decide) h
    exact ⟨hsleep.matched (hch.matched hv), hsleep.port.trans (hch.port.trans hvport)⟩

lemma readByte_cases {i : Bool} {x d : UInt8} (hport : u.sx127xSpiPort = RegisterFile.port i)
    (h : spiReadByte reg d u = .ok ((a, x), t)) :
    (a ≠ .sxOk ∧ ∃ n, t = { u with world := { u.world with transactions := n } }) ∨
    (a = .sxOk ∧ i = true ∧ x = u.world.regs reg ∧
      u.world.results u.world.transactions = .sxOk ∧
      t = { u with world := { u.world with transactions := u.world.transactions + 1 } }) := by
  obtain ⟨world, port, timer, bw, sf⟩ := u
  obtain rfl : port = RegisterFile.port i := hport
  obtain ⟨⟨ret, stored⟩, v, hread, h⟩ := Prog.bind_ok.mp h
  obtain ⟨⟨rfl, hx⟩, rfl⟩ : (ret = a ∧ (stored.head?.join).getD d = x) ∧ v = t := by simpa using h
  cases i with
  | false =>
    obtain ⟨⟨rfl, rfl⟩, rfl⟩ : (Sx127xErr.sxUnitUnitialized = ret ∧ [] = stored) ∧ _ = v := by
      simpa [spiBurstReadReg, RegisterFile.port] using hread
    exact Or.inl ⟨by decide, world.transactions, rfl⟩
  | true =>
    simp only [spiBurstReadReg, Prog.step_apply, Except.ok.injEq, RegisterFile.port,
      Bool.true_eq_false, if_false, RegisterFile.reader, Prod.mk.injEq] at hread
    obtain ⟨⟨ha, hstored⟩, rfl⟩ := hread
    by_cases hok : world.result = .sxOk
    · rw [if_pos hok] at hstored
      subst hstored
      exact Or.inr ⟨ha.symm.trans hok, rfl, hx.symm, hok, rfl⟩
    · exact Or.inl ⟨fun he => hok (ha.trans he), world.transactions + 1, rfl⟩

structure InitializeResult (i : Bool) (u : Machine RegisterFile) (a : Sx127xErr)
    (t : Machine RegisterFile) : Prop where
  port : t.sx127xSpiPort = RegisterFile.port i
  bandwidth : t.loraBandwidthHz = u.loraBandwidthHz
  factor : t.spreadingFactor = u.spreadingFactor
  modem : (a ≠ .sxOk ∧ t.world.regs 0x1D = u.world.regs 0x1D ∧
      t.world.regs 0x1E = u.world.regs 0x1E) ∨
    (ReachesModemConfig i u.world ∧ t.world.regs 0x1D = 0b01110010 ∧
      ((t.world.regs 0x1E = u.world.regs 0x1E ∧ (a = .sxOk → u.spreadingFactor < 6 ∨
          u.spreadingFactor > 12 ∨ u.world.results (u.world.transactions + 14) ≠ .sxOk)) ∨
        (u.spreadingFactor = t.world.regs 0x1E >>> 4 ∧
          u.world.results (u.world.transactions + 14) = .sxOk)))

lemma restoreFactor_cases {i : Bool} {sf : UInt8} (hport : u.sx127xSpiPort = RegisterFile.port i)
    (h : (sx1278SetSpreadingFactor sf >>= fun ret => if ret ≠ .sxOk then pure ret else
      checkedWrites [(0x1F, 0xFF), (0x20, 0x00), (0x21, 0x18)] (spiBurstWriteReg 0x39 [0b11010011])) u =
      .ok (a, t)) :
    ∃ b z, sx1278SetSpreadingFactor sf u = .ok (b, z) ∧ Untouched z t ∧ (a = .sxOk → b = .sxOk) := by
  rcases Prog.checked_ok.mp h with ⟨hset, -⟩ | ⟨z, hset, hrest⟩
  · exact ⟨a, t, hset, .refl t, id⟩
  refine ⟨_, z, hset, ?_, fun _ => rfl⟩
  have hzport := (setSpreadingFactor_cases hport hset).2.2.1.trans hport
  cases (Untouched.refl z).checked_all hzport (by simp [Plain]) hrest with
  | inl hstopped => exact hstopped
  | inr hpassed =>
    obtain ⟨y, hy, hlast⟩ := hpassed
    exact hy.trans (Untouched.write (hy.port.trans hzport) (by decide) hlast)

lemma initialize_result {i : Bool} {timer : Sx127xTimerCtx RegisterFile}
    (h : initializeSx1278 (RegisterFile.port i) timer u = .ok (a, t)) : InitializeResult i u a t := by
  rw [initializeSx1278, Prog.bind_of_ok (Prog.update_apply _ _)] at h
  set s : Machine RegisterFile :=
    { u with sx127xSpiPort := RegisterFile.port i, sx127xTimerCtx := timer } with hs
  obtain ⟨⟨ret, data⟩, v, hread, h⟩ := Prog.bind_ok.mp h
  rcases readByte_cases (u := s) rfl hread with ⟨hne, n, hv⟩ | ⟨rfl, rfl, rfl, hok, hv⟩
  · obtain ⟨rfl, rfl⟩ : ret = a ∧ v = t := by simpa [hne] using h
    rw [hv]
    exact ⟨rfl, rfl, rfl, Or.inl ⟨hne, rfl, rfl⟩⟩
  by_cases hversion : s.world.regs 0x42 = 0x12
  swap
  · obtain ⟨rfl, rfl⟩ : Sx127xErr.sxInvalidResponse = a ∧ v = t := by simpa [hversion] using h
    rw [hv]
    exact ⟨rfl, rfl, rfl, Or.inl ⟨by decide, rfl, rfl⟩⟩
  have hport : s.sx127xSpiPort = RegisterFile.port true := rfl
  have h₁ : Advanced s 1 v := by
    rw [hv]
    refine ⟨⟨rfl, rfl, rfl, rfl, rfl⟩, rfl, rfl, rfl, fun j hj => ?_⟩
    obtain rfl : j = 0 := by omega
    exact hok
  clear hv hread
  dsimp only at h
  rw [if_neg (not_not.mpr rfl), if_neg (not_not.mpr hversion)] at h
  have hstop : a ≠ .sxOk ∧ Untouched s t → InitializeResult true u a t := fun ⟨ha, hut⟩ =>
    ⟨hut.port, hut.bandwidth, hut.factor, Or.inl ⟨ha, hut.modemConfig1, hut.modemConfig2⟩⟩
  have hsetup : checkedWrites [(0x01, modeLora ||| modeSleep), (0x0D, 0x00), (0x0F, 0x00), (0x0E, 0x00),
      (0x01, modeLora ||| modeStdby)] _ v = .ok (a, t) := h
  rcases h₁.checked_all hport (by simp [Plain]) hsetup with hf | ⟨v, h₆, h⟩
  · exact hstop hf
  rcases h₆.checked_channel hport h with hf | ⟨v, h₉, h⟩
  · exact hstop hf
  have hmodem : checkedWrites [(0x09, 0b11111100), (0x2B, 0b00101011), (0x4D, 0x84)] _ v = .ok (a, t) := h
  rcases h₉.checked_all hport (by simp [Plain]) hmodem with hf | ⟨v, h₁₂, h⟩
  · exact hstop hf
  have hvport := h₁₂.port.trans hport
  rcases Prog.checked_ok.mp h with ⟨hwrite, ha⟩ | ⟨w, hwrite, h⟩
  · rcases write_cases hvport hwrite with ⟨-, ⟨n, rfl⟩, -⟩ | ⟨rfl, -⟩
    · exact hstop ⟨ha, h₁₂.toUntouched.trans ⟨rfl, rfl, rfl, rfl, rfl⟩⟩
    · exact absurd rfl ha
  rcases write_cases hvport hwrite with ⟨hne, -, -⟩ | ⟨-, -, hok, hw⟩
  · exact absurd rfl hne
  have hreach : ReachesModemConfig true u.world := by
    refine ⟨rfl, hversion, fun j hj => ?_⟩
    rcases Nat.lt_succ_iff_lt_or_eq.mp hj with hlt | rfl
    · exact h₁₂.succeeded j hlt
    · rwa [h₁₂.results, h₁₂.count] at hok
  have hwport : w.sx127xSpiPort = RegisterFile.port true := by
    rw [hw]
    exact hvport
  have hwfactor : w.spreadingFactor = u.spreadingFactor := by
    rw [hw]
    exact h₁₂.factor
  have hmodem₁ : w.world.regs 0x1D = 0b01110010 := by
    rw [hw]
    simp
  have hmodem₂ : w.world.regs 0x1E = u.world.regs 0x1E := by
    rw [hw]
    exact h₁₂.modemConfig2
  have hcount : w.world.results (w.world.transactions + 1) =
      u.world.results (u.world.transactions + 14) := by
    rw [hw]
    change v.world.results (v.world.transactions + 1 + 1) = _
    rw [h₁₂.results, h₁₂.count]
    rfl
  rw [Prog.bind_of_ok (Prog.read_apply _), hwfactor] at h
  obtain ⟨b, z, hset, hz, hb⟩ := restoreFactor_cases hwport h
  obtain ⟨hbw, hreg, hzport, hset⟩ := setSpreadingFactor_cases hwport hset
  have hwbw : w.loraBandwidthHz = u.loraBandwidthHz := by
    rw [hw]
    exact h₁₂.bandwidth
  rw [hwfactor, hmodem₂, hcount, ← hz.factor, ← hz.modemConfig2] at hset
  refine ⟨hz.port.trans (hzport.trans hwport), hz.bandwidth.trans (hbw.trans hwbw), ?_,
    Or.inr ⟨hreach, hz.modemConfig1.trans (hreg.trans hmodem₁), ?_⟩⟩
  · rcases hset with ⟨hsf, -⟩ | ⟨hsf, -⟩
    · exact hsf
    · exact hsf
  · rcases hset with ⟨-, hkept, hfail⟩ | ⟨-, hsf, hok⟩
    · exact Or.inl ⟨hkept, fun ha => hfail (hb ha)⟩
    · exact Or.inr ⟨hsf, hok⟩

lemma bandwidth_of_reset {bandwidthHz : UInt32} :
    (∃ bw : Bandwidths, bw.code = (0b01110010 : UInt8) >>> 4 ∧ bandwidthHz = getBwValue bw) ↔
      bandwidthHz = 125000 := by
  constructor
  · rintro ⟨bw, hcode, rfl⟩
    cases bw
    · exact absurd hcode (by decide)
    · rfl
    · exact absurd hcode (by decide)
    · exact absurd hcode (by decide)
  · rintro rfl
    exact ⟨.b125k, rfl, rfl⟩

lemma InitializeResult.matched {i : Bool} {timer : Sx127xTimerCtx RegisterFile}
    (h : InitializeResult i u a t) (hm : Matched u) (hsafe : Safe u (.initializeSx1278 i timer)) :
    Matched t := by
  obtain ⟨⟨bw, hcode, hbw⟩, hsf⟩ := hm
  rcases h.modem with ⟨-, h₁, h₂⟩ | ⟨hreach, h₁, h₂⟩
  · exact ⟨⟨bw, by rw [h₁, hcode], by rw [h.bandwidth, hbw]⟩, by rw [h.factor, h₂, hsf]⟩
  · refine ⟨?_, ?_⟩
    · rw [h₁, h.bandwidth]
      exact bandwidth_of_reset.mpr (hsafe.1 hreach)
    · rw [h.factor]
      rcases h₂ with ⟨hkept, -⟩ | ⟨hnew, -⟩
      · rw [hkept, hsf]
      · exact hnew

end Steps

def Synced (m : Machine RegisterFile) : Prop :=
  (∃ i, m.sx127xSpiPort = RegisterFile.port i) ∧ Matched m

section Calls

variable {m t : Machine RegisterFile} {c : ConfigCall} {a : Sx127xErr}

lemma run_synced (hm : Synced m) (h : c.run m = .ok (a, t)) (hsafe : Safe m c) : Synced t := by
  obtain ⟨⟨i, hport⟩, hm⟩ := hm
  cases c with
  | initializeSx1278 j timer =>
    have hres := initialize_result h
    exact ⟨⟨j, hres.port⟩, hres.matched hm hsafe⟩
  | sx1278SetBandwidth bw cr e =>
    obtain ⟨hmt, hport'⟩ := setBandwidth_matched hport hm h
    exact ⟨⟨i, hport'⟩, hmt⟩
  | sx1278SetSpreadingFactor sf =>
    obtain ⟨hbw, hreg, hport', hcases⟩ := setSpreadingFactor_cases hport h
    refine ⟨⟨i, hport'.trans hport⟩, ⟨?_, ?_⟩⟩
    · rw [hbw, hreg]
      exact hm.bandwidth
    · rcases hcases with ⟨hsf, hkept, -⟩ | ⟨hsf, hnew, -⟩
      · rw [hsf, hkept]
        exact hm.factor
      · rw [hsf]
        exact hnew
  | sx1278SwitchToNthChannel n =>
    have hut := Untouched.channel hport h
    exact ⟨⟨i, hut.port.trans hport⟩, hut.matched hm⟩

lemma safe_of_matched (hm : Matched m) (h : c.run m = .ok (.sxOk, t)) (ht : Matched t) : Safe m c := by
  cases c with
  | initializeSx1278 i timer =>
    have hres := initialize_result h
    refine ⟨fun _ => ?_, Or.inr hm.factor⟩
    rcases hres.modem with ⟨hne, -⟩ | ⟨-, h₁, -⟩
    · exact absurd rfl hne
    · have hbw := ht.bandwidth
      rw [h₁, hres.bandwidth] at hbw
      exact bandwidth_of_reset.mp hbw
  | sx1278SetBandwidth bw cr e => trivial
  | sx1278SetSpreadingFactor sf => trivial
  | sx1278SwitchToNthChannel n => trivial

lemma start_synced_iff {i : Bool} {timer : Sx127xTimerCtx RegisterFile} (hstart : ProgramStart m)
    (h : (ConfigCall.initializeSx1278 i timer).run m = .ok (.sxOk, t)) :
    Synced t ↔ Safe m (.initializeSx1278 i timer) := by
  obtain ⟨hbw, hsf⟩ := hstart
  have hres := initialize_result h
  rcases hres.modem with ⟨hne, -⟩ | ⟨-, h₁, h₂⟩
  · exact absurd rfl hne
  have hmatched : Synced t ↔ (12 : UInt8) = t.world.regs 0x1E >>> 4 := by
    constructor
    · rintro ⟨-, -, hfactor⟩
      rwa [hres.factor, hsf] at hfactor
    · intro hfactor
      refine ⟨⟨i, hres.port⟩, ?_, by rw [hres.factor, hsf, hfactor]⟩
      rw [h₁, hres.bandwidth]
      exact bandwidth_of_reset.mpr hbw
  rw [hmatched]
  simp only [Safe, hbw, hsf, implies_true, true_and]
  rcases h₂ with ⟨hkept, hfail⟩ | ⟨hnew, hok⟩
  · rw [hkept, or_iff_right]
    rcases hfail rfl with hlow | hhigh | hne
    · exact absurd (hsf ▸ hlow) (by decide)
    · exact absurd (hsf ▸ hhigh) (by decide)
    · exact hne
  · exact ⟨fun _ => Or.inl hok, fun _ => hsf ▸ hnew⟩

lemma synced_throughout {i : Bool} {timer : Sx127xTimerCtx RegisterFile} {rest : List ConfigCall}
    {P : Machine RegisterFile → ConfigCall → Sx127xErr → Machine RegisterFile → Prop}
    (hstart : ProgramStart m) (hinit : ∃ t, (ConfigCall.initializeSx1278 i timer).run m = .ok (.sxOk, t))
    (hsafe : Throughout ConfigCall.run (fun s c _ _ => Safe s c) m (.initializeSx1278 i timer :: rest))
    (hfirst : ∀ t, (ConfigCall.initializeSx1278 i timer).run m = .ok (.sxOk, t) → Synced t →
      P m (.initializeSx1278 i timer) .sxOk t)
    (hnext : ∀ s c a t, Synced s → c.run s = .ok (a, t) → Synced t → P s c a t) :
    Throughout ConfigCall.run P m (.initializeSx1278 i timer :: rest) := by
  obtain ⟨t, hinit⟩ := hinit
  intro a t' h
  obtain ⟨rfl, rfl⟩ : a = .sxOk ∧ t' = t := by simpa [h] using hinit
  obtain ⟨hsafeFirst, hrest⟩ := hsafe _ _ h
  have ht := (start_synced_iff hstart h).mpr hsafeFirst
  refine ⟨hfirst _ h ht, Throughout.of_invariant ?_ ht hrest⟩
  intro s c a t hs hc hsafe
  have hsync := run_synced hs hc hsafe
  exact ⟨hnext s c a t hs hc hsync, hsync⟩

end Calls

/-- As long as every call is safe, the shadows match after every call; and where every call
succeeds, they do not match otherwise. -/
theorem shadows_match_of_safe (m : Machine RegisterFile) (i : Bool) (timer : Sx127xTimerCtx RegisterFile)
    (rest : List ConfigCall) (hstart : ProgramStart m)
    (hinit : ∃ t, (ConfigCall.initializeSx1278 i timer).run m = .ok (.sxOk, t)) :
    let calls := .initializeSx1278 i timer :: rest
    (Throughout ConfigCall.run (fun s c _ _ => Safe s c) m calls →
      Throughout ConfigCall.run (fun _ _ a t => a = .sxOk → Matched t) m calls) ∧
    (Throughout ConfigCall.run (fun _ _ a _ => a = .sxOk) m calls →
      (Throughout ConfigCall.run (fun _ _ _ t => Matched t) m calls ↔
        Throughout ConfigCall.run (fun s c _ _ => Safe s c) m calls)) := by
  intro calls
  have hsynced : Throughout ConfigCall.run (fun s c _ _ => Safe s c) m calls →
      Throughout ConfigCall.run (fun _ _ _ t => Matched t) m calls := by
    intro hsafe
    apply synced_throughout hstart hinit hsafe
    · intro t _ ht
      exact ht.2
    · intro s c a t _ _ ht
      exact ht.2
  obtain ⟨t, hinit⟩ := hinit
  refine ⟨fun hsafe => ?_, fun hok => ⟨fun hmatched => ?_, hsynced⟩⟩
  · have hmatched := hsynced hsafe
    apply hmatched.mono
    intro s c a t ht _
    exact ht
  · intro a t' h
    obtain ⟨rfl, rfl⟩ : a = .sxOk ∧ t' = t := by simpa [h] using hinit
    obtain ⟨⟨-, ht⟩, hrest⟩ := hok.and hmatched _ _ h
    have hres := initialize_result h
    refine ⟨(start_synced_iff hstart h).mp ⟨⟨i, hres.port⟩, ht⟩, Throughout.of_invariant ?_ ht hrest⟩
    rintro s c _ t hs hc ⟨rfl, ht⟩
    exact ⟨safe_of_matched hs hc ht, ht⟩

def healthyRadio : Machine RegisterFile where
  world := ⟨fun reg => if reg = 0x42 then 0x12 else 0, fun _ => .sxOk, 0⟩
  sx127xSpiPort := RegisterFile.port false
  sx127xTimerCtx := ⟨fun w => (0, w), fun _ w => w⟩
  loraBandwidthHz := 125000
  spreadingFactor := 12

theorem shadows_match_of_safe_restart :
    let calls : List ConfigCall := [.initializeSx1278 true healthyRadio.sx127xTimerCtx,
      .sx1278SetBandwidth .b250k .cr4d5 true, .sx1278SetBandwidth .b125k .cr4d8 true,
      .initializeSx1278 true healthyRadio.sx127xTimerCtx]
    Throughout ConfigCall.run (fun _ _ a t => a = .sxOk → Matched t) healthyRadio calls := by
  intro calls
  refine (shadows_match_of_safe healthyRadio true _ _ ⟨rfl, rfl⟩ ⟨_, rfl⟩).1 ?_
  rintro _ _ ⟨⟩
  refine ⟨⟨fun _ => rfl, Or.inl rfl⟩, ?_⟩
  rintro _ _ ⟨⟩
  refine ⟨trivial, ?_⟩
  rintro _ _ ⟨⟩
  refine ⟨trivial, ?_⟩
  rintro _ _ ⟨⟩
  exact ⟨⟨fun _ => rfl, Or.inl rfl⟩, trivial⟩

theorem shadows_differ_after_restart :
    ∃ t, (ConfigCall.initializeSx1278 true healthyRadio.sx127xTimerCtx).run healthyRadio = .ok (.sxOk, t) ∧
      ¬ Throughout ConfigCall.run (fun _ _ a t => a = .sxOk → Matched t) t
        [.sx1278SetBandwidth .b250k .cr4d5 true,
          .initializeSx1278 true healthyRadio.sx127xTimerCtx] := by
  refine ⟨_, rfl, fun h => ?_⟩
  have hmatched := ((h _ _ rfl).2 _ _ rfl).1 rfl
  obtain ⟨bw, hcode, hbw⟩ := hmatched.bandwidth
  cases bw with
  | b62k5 => exact absurd hbw (by decide)
  | b125k => exact absurd hbw (by decide)
  | b250k => exact absurd hcode (by decide)
  | b500k => exact absurd hbw (by decide)

end LoraNetworking
