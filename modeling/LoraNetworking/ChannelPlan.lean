import LoraNetworking.BusTrace
import LoraNetworking.ConfigFailures
import LoraNetworking.Lib.Quantizer

/-! The channel plan: which channels there are at a bandwidth, where they lie, and what the
frequency registers hold for each of them. -/

namespace LoraNetworking

open StateProg

def channelCentre (b n : ℕ) : ℕ := loraFrequencyLf + n * b + b / 2

def channelBand (b n : ℕ) : Set ℚ := Quantizer.slot (loraFrequencyLf : ℚ) b n

def insideBand (b n : ℕ) : Set ℚ := Quantizer.inner (loraFrequencyLf : ℚ) b n

def tunedFrequency (frf : ℕ) : ℚ := frf * fxosc / (2 ^ 19 : ℕ)

/-- The intermediate results of `calculate_channel_num` and `sx_1278_switch_to_nth_channel`, each
inside the type in which the source computes it. -/
structure Unwrapped (b n : ℕ) : Prop where
  twice : 2 * b < 2 ^ 32
  band : 2 * b ≤ loraFrequencyHf - loraFrequencyLf
  offset : n * b < 2 ^ 64
  start : loraFrequencyLf + n * b < 2 ^ 64
  centre : channelCentre b n < 2 ^ 64
  shifted : channelCentre b n * 2 ^ 19 < 2 ^ 64
  quotient : channelCentre b n * 2 ^ 19 / fxosc < 2 ^ 32

structure Planned (b : UInt32) (n : ℕ) : Prop where
  unwrapped : Unwrapped b.toNat n
  frf_eq : channelFrf b n = channelCentre b.toNat n * 2 ^ 19 / fxosc
  frf_lt : channelFrf b n < 2 ^ 24
  centre_mem : (channelCentre b.toNat n : ℚ) ∈ channelBand b.toNat n
  within : channelBand b.toNat n ⊆ Set.Icc (loraFrequencyLf : ℚ) loraFrequencyHf
  apart : ∀ k, k ≠ n → Disjoint (insideBand b.toNat n) (channelBand b.toNat k)
  tuned : tunedFrequency (channelFrf b n) ∈
    Set.Ioc ((channelCentre b.toNat n : ℚ) - 62) (channelCentre b.toNat n)
  increasing : ∀ k < n, channelFrf b k < channelFrf b n
  distinct : ∀ k < calculateChannelNum b, k ≠ n → channelWrites b k ≠ channelWrites b n

def BigEndianFrf (b : UInt32) (n : ℕ) : Prop :=
  ∃ msb mid lsb : UInt8, channelWrites b n = [(0x06, msb), (0x07, mid), (0x08, lsb)] ∧
    msb.toNat * 2 ^ 16 + mid.toNat * 2 ^ 8 + lsb.toNat = channelFrf b n

section Arithmetic

variable {b : UInt32} {k n : ℕ}

lemma calculateChannelNum_eq (hmin : 62 ≤ b.toNat) (hmax : b.toNat ≤ 1000000) :
    calculateChannelNum b = (loraFrequencyHf - loraFrequencyLf - 2 * b.toNat) / b.toNat := by
  have htwice : (2 * b).toNat = 2 * b.toNat := by
    rw [UInt32.toNat_mul]
    exact Nat.mod_eq_of_lt (by simp only [UInt32.reduceToNat]; omega)
  have hwidth : (UInt32.ofNat loraFrequencyHf - UInt32.ofNat loraFrequencyLf).toNat = 2000000 := by decide
  have hle : 2 * b ≤ UInt32.ofNat loraFrequencyHf - UInt32.ofNat loraFrequencyLf := by
    rw [UInt32.le_iff_toNat_le, htwice, hwidth]
    omega
  rw [calculateChannelNum, UInt32.toNat_div, UInt32.toNat_sub_of_le _ _ hle, htwice, hwidth]
  rfl

lemma channel_end_le (hmin : 62 ≤ b.toNat) (hmax : b.toNat ≤ 1000000) (hn : n < calculateChannelNum b) :
    (n + 1) * b.toNat ≤ loraFrequencyHf - loraFrequencyLf - 2 * b.toNat := by
  rw [calculateChannelNum_eq hmin hmax] at hn
  exact (Nat.le_div_iff_mul_le (by omega)).mp hn

lemma channelCentre_lt (hmin : 62 ≤ b.toNat) (hmax : b.toNat ≤ 1000000)
    (hn : n < calculateChannelNum b) : channelCentre b.toNat n < loraFrequencyHf := by
  have hend := channel_end_le hmin hmax hn
  simp only [Nat.add_mul, Nat.one_mul, channelCentre, loraFrequencyHf, loraFrequencyLf] at hend ⊢
  omega

lemma unwrapped (hmin : 62 ≤ b.toNat) (hmax : b.toNat ≤ 1000000) (hn : n < calculateChannelNum b) :
    Unwrapped b.toNat n := by
  have hend := channel_end_le hmin hmax hn
  have hcentre := channelCentre_lt hmin hmax hn
  have hquotient : channelCentre b.toNat n * 2 ^ 19 / fxosc < 2 ^ 32 := by
    apply Quantizer.quantize_lt
    simp only [loraFrequencyHf, fxosc] at hcentre ⊢
    omega
  simp only [Nat.add_mul, Nat.one_mul, loraFrequencyHf, loraFrequencyLf] at hend hcentre
  exact {
    twice := by omega
    band := by simp only [loraFrequencyHf, loraFrequencyLf]; omega
    offset := by omega
    start := by simp only [loraFrequencyLf]; omega
    centre := by omega
    shifted := by omega
    quotient := hquotient }

lemma channelFrf_eq (h : Unwrapped b.toNat n) :
    channelFrf b n = channelCentre b.toNat n * 2 ^ 19 / fxosc := by
  have hraw : (loraFrequencyLf + n * b.toNat + b.toNat / 2) % 2 ^ 64 = channelCentre b.toNat n :=
    Nat.mod_eq_of_lt h.centre
  rw [channelFrf, hraw, Nat.shiftLeft_eq, Nat.mod_eq_of_lt h.shifted, Nat.mod_eq_of_lt h.quotient]

lemma channelFrf_digits (hmin : 62 ≤ b.toNat) (hmax : b.toNat ≤ 1000000)
    (hn : n < calculateChannelNum b) : channelFrf b n < 2 ^ 24 := by
  have hcentre := channelCentre_lt hmin hmax hn
  rw [channelFrf_eq (unwrapped hmin hmax hn)]
  apply Quantizer.quantize_lt
  simp only [loraFrequencyHf, fxosc] at hcentre ⊢
  omega

lemma centre_mem_band (b n : ℕ) : (channelCentre b n : ℚ) ∈ channelBand b n := by
  have hlow : loraFrequencyLf + n * b ≤ channelCentre b n := Nat.le_add_right _ _
  have hhigh : channelCentre b n ≤ loraFrequencyLf + (n + 1) * b := by
    rw [channelCentre, Nat.add_mul, Nat.one_mul, ← Nat.add_assoc]
    exact Nat.add_le_add_left (Nat.div_le_self b 2) _
  constructor
  · exact_mod_cast hlow
  · exact_mod_cast hhigh

lemma channel_within (hmin : 62 ≤ b.toNat) (hmax : b.toNat ≤ 1000000) (hn : n < calculateChannelNum b) :
    channelBand b.toNat n ⊆ Set.Icc (loraFrequencyLf : ℚ) loraFrequencyHf := by
  have hslot : channelBand b.toNat n ⊆ Set.Icc (loraFrequencyLf : ℚ)
      (loraFrequencyLf + ((n + 1 : ℕ) : ℚ) * b.toNat) :=
    Quantizer.slot_subset (Nat.cast_nonneg _) (Nat.lt_succ_self n)
  have hend : loraFrequencyLf + (n + 1) * b.toNat ≤ loraFrequencyHf := by
    have hle := channel_end_le hmin hmax hn
    simp only [loraFrequencyHf, loraFrequencyLf] at hle ⊢
    omega
  apply hslot.trans
  apply Set.Icc_subset_Icc_right
  exact_mod_cast hend

lemma tuned_mem (f : ℕ) :
    tunedFrequency (f * 2 ^ 19 / fxosc) ∈ Set.Ioc ((f : ℚ) - 62) f := by
  have hstep : (fxosc : ℚ) / (2 ^ 19 : ℕ) ≤ 62 := by norm_num [fxosc]
  have hlow : (f : ℚ) - fxosc / (2 ^ 19 : ℕ) < tunedFrequency (f * 2 ^ 19 / fxosc) :=
    Quantizer.lt_tuned (by norm_num) (by norm_num [fxosc])
  constructor
  · exact (sub_le_sub_left hstep _).trans_lt hlow
  · exact Quantizer.tuned_le (by norm_num)

lemma channelFrf_lt (hmin : 62 ≤ b.toNat) (hmax : b.toNat ≤ 1000000) (hn : n < calculateChannelNum b)
    (hk : k < n) : channelFrf b k < channelFrf b n := by
  rw [channelFrf_eq (unwrapped hmin hmax hn), channelFrf_eq (unwrapped hmin hmax (hk.trans hn))]
  apply Quantizer.quantize_strict (by norm_num [fxosc])
  have hspacing : channelCentre b.toNat k + b.toNat ≤ channelCentre b.toNat n := by
    have hnext : (k + 1) * b.toNat ≤ n * b.toNat := Nat.mul_le_mul_right _ hk
    rw [Nat.add_mul, Nat.one_mul] at hnext
    simp only [channelCentre]
    omega
  -- a bandwidth of 62 Hz is the first one above the step of the synthesiser
  simp only [fxosc]
  omega

lemma bigEndianFrf (h : channelFrf b n < 2 ^ 24) : BigEndianFrf b n := by
  refine ⟨_, _, _, rfl, ?_⟩
  simp only [UInt8.toNat_ofNat', Nat.shiftRight_eq_div_pow]
  omega

lemma channelWrites_ne (hk : channelFrf b k < 2 ^ 24) (hn : channelFrf b n < 2 ^ 24)
    (hne : channelFrf b k ≠ channelFrf b n) : channelWrites b k ≠ channelWrites b n := by
  obtain ⟨msb, mid, lsb, hwrites, hdigits⟩ := bigEndianFrf hk
  obtain ⟨msb', mid', lsb', hwrites', hdigits'⟩ := bigEndianFrf hn
  rw [hwrites, hwrites']
  intro heq
  obtain ⟨rfl, rfl, rfl⟩ : msb = msb' ∧ mid = mid' ∧ lsb = lsb' := by simpa using heq
  exact hne (hdigits.symm.trans hdigits')

lemma planned (hmin : 62 ≤ b.toNat) (hmax : b.toNat ≤ 1000000) (hn : n < calculateChannelNum b) :
    Planned b n := by
  have hunwrapped := unwrapped hmin hmax hn
  have hdigits : ∀ k, k < calculateChannelNum b → channelFrf b k < 2 ^ 24 :=
    fun k hk => channelFrf_digits hmin hmax hk
  exact {
    unwrapped := hunwrapped
    frf_eq := channelFrf_eq hunwrapped
    frf_lt := hdigits n hn
    centre_mem := centre_mem_band b.toNat n
    within := channel_within hmin hmax hn
    apart := fun k hk => Quantizer.inner_disjoint (Nat.cast_nonneg _) hk.symm
    tuned := by
      rw [channelFrf_eq hunwrapped]
      exact tuned_mem _
    increasing := fun k hk => channelFrf_lt hmin hmax hn hk
    distinct := fun k hk hne => by
      apply channelWrites_ne (hdigits k hk) (hdigits n hn)
      cases Nat.lt_or_gt_of_ne hne with
      | inl hlt => exact (channelFrf_lt hmin hmax hn hlt).ne
      | inr hgt => exact (channelFrf_lt hmin hmax hk hgt).ne' }

end Arithmetic

section Run

variable {ω : Type} {port : SpiPort ω} {m : Machine (Recorded ω)}

def Writes (x : Radio (Recorded ω) Sx127xErr) (m : Machine (Recorded ω)) (ws : List (UInt8 × UInt8)) : Prop :=
  ∃ ret t es, x m = .ok (ret, t) ∧ t.world.log = m.world.log ++ es ∧
    ((∀ access ∈ es, access.Returned .sxOk) →
      ret = .sxOk ∧ es = ws.map .succeeded)

lemma Writes.last (hm : Bench port m) (reg data : UInt8) :
    Writes (spiBurstWriteReg reg [data]) m [(reg, data)] := by
  refine ⟨_, _, _, hm.write reg [data], rfl, fun hall => ?_⟩
  have hret : (port.writer reg [data] m.world.world).1 = .sxOk := hall _ (List.mem_singleton_self _)
  exact ⟨hret, by rw [hret]; rfl⟩

lemma Writes.checked {reg data : UInt8} {rest : Radio (Recorded ω) Sx127xErr} {ws : List (UInt8 × UInt8)}
    (hm : Bench port m) (hrest : ∀ t, Bench port t → Writes rest t ws) :
    Writes (spiBurstWriteReg reg [data] >>= fun ret => if ret ≠ .sxOk then pure ret else rest) m
      ((reg, data) :: ws) := by
  obtain ⟨code, world, hstep⟩ : ∃ code world, spiBurstWriteReg reg [data] m =
    .ok (code, m.accessed world (.write reg [data] code)) := ⟨_, _, hm.write reg [data]⟩
  by_cases hok : code = .sxOk
  · subst hok
    obtain ⟨ret, t, es, hrun, hlog, hes⟩ := hrest _ (hm.accessed world (.write reg [data] .sxOk))
    refine ⟨ret, t, .write reg [data] .sxOk :: es, ?_, ?_, fun hall => ?_⟩
    · rw [Prog.bind_of_ok hstep, if_neg (not_not.mpr rfl)]
      exact hrun
    · rw [hlog, accessed_log, List.append_assoc]
      rfl
    · obtain ⟨hret, rfl⟩ := hes fun access haccess => hall access (List.mem_cons_of_mem _ haccess)
      exact ⟨hret, rfl⟩
  · refine ⟨code, m.accessed world _, [.write reg [data] code], ?_, accessed_log, fun hall => ?_⟩
    · rw [Prog.bind_of_ok hstep, if_pos hok]
      rfl
    · exact absurd (hall _ (List.mem_singleton_self _)) hok

lemma switchToNthChannel_writes (hm : Bench port m) {n : ℕ} (hn : n < calculateChannelNum m.loraBandwidthHz) :
    Writes (sx1278SwitchToNthChannel n) m (channelWrites m.loraBandwidthHz n) := by
  have hrun : Writes _ m (channelWrites m.loraBandwidthHz n) :=
    .checked hm fun _ ht => .checked ht fun _ hu => .last hu _ _
  obtain ⟨ret, t, es, heq, hes⟩ := hrun
  refine ⟨ret, t, es, ?_, hes⟩
  rw [sx1278SwitchToNthChannel, Prog.bind_of_ok (Prog.read_apply m), if_neg (not_le.mpr hn)]
  exact heq

end Run

theorem channel_plan {ω : Type} (m : Machine (Recorded ω))
    (hb : 62 ≤ m.loraBandwidthHz.toNat ∧ m.loraBandwidthHz.toNat ≤ 1000000) (n : ℕ) :
    calculateChannelNum m.loraBandwidthHz =
        (loraFrequencyHf - loraFrequencyLf - 2 * m.loraBandwidthHz.toNat) / m.loraBandwidthHz.toNat ∧
      (calculateChannelNum m.loraBandwidthHz ≤ n →
        sx1278SwitchToNthChannel n m = .ok (.sxInvalidArgument, m)) ∧
      (n < calculateChannelNum m.loraBandwidthHz →
        Planned m.loraBandwidthHz n ∧ BigEndianFrf m.loraBandwidthHz n ∧
          ∀ port, Bench port m →
            Writes (sx1278SwitchToNthChannel n) m (channelWrites m.loraBandwidthHz n)) := by
  obtain ⟨hmin, hmax⟩ := hb
  refine ⟨calculateChannelNum_eq hmin hmax, fun hn => ?_, fun hn => ?_⟩
  · rw [sx1278SwitchToNthChannel, Prog.bind_of_ok (Prog.read_apply m), if_pos hn]
    rfl
  · have hplanned := planned hmin hmax hn
    exact ⟨hplanned, bigEndianFrf hplanned.frf_lt, fun port hm => switchToNthChannel_writes hm hn⟩

def narrowRadio : Machine (Recorded RegisterFile) where
  world := ⟨healthyRadio.world, fun _ => 0, 0, []⟩
  sx127xSpiPort := (RegisterFile.port true).recorded
  sx127xTimerCtx := stopwatch
  loraBandwidthHz := 62
  spreadingFactor := 12

theorem channel_plan_narrow :
    (Planned 62 32255 ∧ Writes (sx1278SwitchToNthChannel 32255) narrowRadio (channelWrites 62 32255)) ∧
      sx1278SwitchToNthChannel 32256 narrowRadio = .ok (.sxInvalidArgument, narrowRadio) := by
  have hbench : Bench (RegisterFile.port true) narrowRadio := ⟨rfl, rfl, rfl⟩
  have hlast := (channel_plan narrowRadio ⟨by decide, by decide⟩ 32255).2.2 (by decide)
  have hnext := (channel_plan narrowRadio ⟨by decide, by decide⟩ 32256).2.1 (by decide)
  exact ⟨⟨hlast.1, hlast.2.2 _ hbench⟩, hnext⟩

end LoraNetworking
