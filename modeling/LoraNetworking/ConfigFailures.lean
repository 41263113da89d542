import LoraNetworking.ShadowState

/-! What a configuration call that returns `SX_OK` says about its transactions: every failure is
reported but one, that of a write whose result the next call overwrites. -/

namespace LoraNetworking

open StateProg

/-- The machine after a number of transactions: writes that succeeded, and others, which change
no register. -/
def Machine.after (s : Machine RegisterFile) (effects : List (Option (UInt8 × UInt8))) :
    Machine RegisterFile :=
  { s with
    world :=
      { s.world with
        regs := (effects.filterMap id).foldl (fun regs w => Function.update regs w.1 w.2) s.world.regs
        transactions := s.world.transactions + effects.length } }

def Machine.withBandwidth (s : Machine RegisterFile) (loraBandwidthHz : UInt32) : Machine RegisterFile :=
  { s with loraBandwidthHz := loraBandwidthHz }

def AllSucceeded (s t : Machine RegisterFile) : Prop :=
  ∀ k, s.world.transactions ≤ k → k < t.world.transactions → s.world.results k = .sxOk

def channelWrites (loraBandwidthHz : UInt32) (n : ℕ) : List (UInt8 × UInt8) :=
  let frf := channelFrf loraBandwidthHz n
  [(0x06, UInt8.ofNat (frf >>> 16)), (0x07, UInt8.ofNat (frf >>> 8)), (0x08, UInt8.ofNat frf)]

def factorWrite (sf : UInt8) : UInt8 × UInt8 := (0x1E, (0b00000100 : UInt8) ||| sf <<< 4)

def configuration (loraBandwidthHz : UInt32) (sf : UInt8) : List (UInt8 × UInt8) :=
  [(0x0D, 0x00), (0x0F, 0x00), (0x0E, 0x00)] ++ channelWrites loraBandwidthHz 0 ++
    [(0x09, 0b11111100), (0x2B, 0b00101011), (0x4D, 0x84), (0x1D, 0b01110010), factorWrite sf,
      (0x1F, 0xFF), (0x20, 0x00), (0x21, 0x18), (0x39, 0b11010011)]

def Configured (s t : Machine RegisterFile) : ConfigCall → Prop
  | .initializeSx1278 _ _ => ∀ w ∈ configuration s.loraBandwidthHz s.spreadingFactor, t.world.regs w.1 = w.2
  | _ => True

def ReportsFailures (s : Machine RegisterFile) (c : ConfigCall) : Prop :=
  ∀ t, c.run s = .ok (.sxOk, t) → AllSucceeded s t ∧ Configured s t c

def OnlyFailure (w : RegisterFile) (k n : ℕ) : Prop :=
  w.results (w.transactions + k) ≠ .sxOk ∧ ∀ i < n, i ≠ k → w.results (w.transactions + i) = .sxOk

def FailureOverwritten (s : Machine RegisterFile) : ConfigCall → Prop
  | .initializeSx1278 initialized _ =>
    (initialized = true ∧ s.world.regs 0x42 = 0x12 ∧ 0 < calculateChannelNum s.loraBandwidthHz ∧
      ¬ (s.spreadingFactor < 6 ∨ s.spreadingFactor > 12)) ∧ OnlyFailure s.world 14 20
  | .sx1278SetBandwidth _ _ _ => s.sx127xSpiPort.initialized = true ∧ OnlyFailure s.world 1 3
  | .sx1278SetSpreadingFactor sf =>
    (s.sx127xSpiPort.initialized = true ∧ ¬ (sf < 6 ∨ sf > 12)) ∧ OnlyFailure s.world 1 3
  | .sx1278SwitchToNthChannel _ => False

structure TunedTo (bw : Bandwidths) (n : ℕ) (m : Machine RegisterFile) : Prop where
  known : n < calculateChannelNum (getBwValue bw)
  frequency : ∀ w ∈ channelWrites (getBwValue bw) n, m.world.regs w.1 = w.2

/-- The channel a call leaves the radio on. `sx1278_set_bandwidth` switches it only after its
write of the modem configuration has succeeded. -/
def Tuned (bw : Bandwidths) (s t : Machine RegisterFile) : ConfigCall → Prop
  | .initializeSx1278 _ _ => TunedTo bw 0 t
  | .sx1278SetBandwidth _ _ _ => s.world.results (s.world.transactions + 1) = .sxOk → TunedTo bw 0 t
  | .sx1278SetSpreadingFactor _ => True
  | .sx1278SwitchToNthChannel n => TunedTo bw n t

@[simp] lemma channelWrites_length (loraBandwidthHz : UInt32) (n : ℕ) :
    (channelWrites loraBandwidthHz n).length = 3 := rfl

section Calls

variable {s t : Machine RegisterFile} {i : Bool} {a : Sx127xErr}

def Granted (s : Machine RegisterFile) (i : Bool) (k : ℕ) : Prop :=
  i = true ∧ s.world.results (s.world.transactions + k) = .sxOk

lemma write_run (hport : s.sx127xSpiPort = RegisterFile.port true) (es : List (Option (UInt8 × UInt8)))
    (reg b : UInt8) :
    spiBurstWriteReg reg [b] (s.after es) =
      .ok (s.world.results (s.world.transactions + es.length),
        s.after (es ++ [if s.world.results (s.world.transactions + es.length) = .sxOk then some (reg, b)
          else none])) := by
  obtain ⟨world, port, timer, bw, sf⟩ := s
  obtain rfl : port = RegisterFile.port true := hport
  by_cases hok : world.results (world.transactions + es.length) = .sxOk
  · simp [spiBurstWriteReg, RegisterFile.port, RegisterFile.writer, RegisterFile.result, Machine.after, hok,
      Nat.add_assoc]
  · simp [spiBurstWriteReg, RegisterFile.port, RegisterFile.writer, RegisterFile.result, Machine.after, hok,
      Nat.add_assoc]

lemma write_returnsIff (hport : s.sx127xSpiPort = RegisterFile.port i)
    (es : List (Option (UInt8 × UInt8))) (reg b : UInt8) :
    ReturnsIff (spiBurstWriteReg reg [b]) (s.after es) .sxOk (Granted s i es.length)
      (s.after (es ++ [some (reg, b)])) := by
  intro u
  cases i with
  | false =>
    have hrun : spiBurstWriteReg reg [b] (s.after es) = .ok (.sxUnitUnitialized, s.after es) := by
      simp [spiBurstWriteReg, Machine.after, hport, RegisterFile.port]
    simp [hrun, Granted]
  | true =>
    rw [write_run hport]
    by_cases hok : s.world.results (s.world.transactions + es.length) = .sxOk
    · simp [hok, Granted, eq_comm]
    · simp [hok, Granted]

lemma switchMode_returnsIff (hport : s.sx127xSpiPort = RegisterFile.port i)
    (es : List (Option (UInt8 × UInt8))) (modeRegister : UInt8) :
    ReturnsIff (sx1278SwitchMode modeRegister) (s.after es) .sxOk (Granted s i es.length)
      (s.after (es ++ [some (0x01, modeRegister)])) :=
  write_returnsIff hport es 0x01 modeRegister

lemma switchToNthChannel_returnsIff (hport : s.sx127xSpiPort = RegisterFile.port i)
    (es : List (Option (UInt8 × UInt8))) (n : ℕ) :
    ReturnsIff (sx1278SwitchToNthChannel n) (s.after es) .sxOk
      (n < calculateChannelNum s.loraBandwidthHz ∧ Granted s i es.length ∧ Granted s i (es.length + 1) ∧
        Granted s i (es.length + 2))
      (s.after (es ++ (channelWrites s.loraBandwidthHz n).map some)) := by
  let frf := channelFrf s.loraBandwidthHz n
  have hwrites := (write_returnsIff hport es 0x06 (UInt8.ofNat (frf >>> 16))).checked fun _ =>
    (write_returnsIff hport _ 0x07 (UInt8.ofNat (frf >>> 8))).checked fun _ =>
      write_returnsIff hport _ 0x08 (UInt8.ofNat frf)
  have hrun := ReturnsIff.guarded (c := n ≥ calculateChannelNum s.loraBandwidthHz)
    (by decide : Sx127xErr.sxInvalidArgument ≠ .sxOk) fun _ => hwrites
  simp only [List.append_assoc, List.length_append, List.length_singleton, not_le, ge_iff_le] at hrun
  intro u
  rw [sx1278SwitchToNthChannel, Prog.bind_of_ok rfl]
  exact hrun u

lemma setSpreadingFactor_returnsIff (hport : s.sx127xSpiPort = RegisterFile.port i)
    (es : List (Option (UInt8 × UInt8))) (sf : UInt8) :
    ReturnsIff (sx1278SetSpreadingFactor sf) (s.after es) .sxOk
      (Granted s i es.length ∧ ¬ (sf < 6 ∨ sf > 12) ∧ Granted s i (es.length + 2))
      (if s.world.results (s.world.transactions + (es.length + 1)) = .sxOk then
        { s with spreadingFactor := sf }.after (es ++ [some (0x01, modeLora ||| modeStdby),
          some (factorWrite sf), some (0x01, modeLora ||| modeSleep)])
      else s.after (es ++ [some (0x01, modeLora ||| modeStdby), none, some (0x01, modeLora ||| modeSleep)])) := by
  refine (switchMode_returnsIff hport es _).checked fun hon => .guarded (by decide) fun _ => ?_
  obtain rfl := hon.1
  intro u
  rw [Prog.bind_of_ok (write_run hport _ _ _)]
  simp only [List.length_append, List.length_singleton]
  split_ifs with hok
  · have hsleep := write_returnsIff (s := { s with spreadingFactor := sf }) (by exact hport)
      (es ++ [some (0x01, modeLora ||| modeStdby)] ++ [some (factorWrite sf)]) 0x01 (modeLora ||| modeSleep) u
    simpa only [List.append_assoc, List.length_append, List.length_singleton] using! hsleep
  · have hsleep := write_returnsIff hport (es ++ [some (0x01, modeLora ||| modeStdby)] ++ [none]) 0x01
      (modeLora ||| modeSleep) u
    simpa only [List.append_assoc, List.length_append, List.length_singleton] using! hsleep

lemma setBandwidth_returnsIff_written (hport : s.sx127xSpiPort = RegisterFile.port i) (bw : Bandwidths)
    (cr : CodingRate) (enableExplicitHeaders : Bool)
    (hok : s.world.results (s.world.transactions + 1) = .sxOk) :
    ReturnsIff (sx1278SetBandwidth bw cr enableExplicitHeaders) s .sxOk
      (Granted s i 0 ∧ (0 < calculateChannelNum (getBwValue bw) ∧ Granted s i 2 ∧ Granted s i 3 ∧
        Granted s i 4) ∧ Granted s i 5)
      ((s.withBandwidth (getBwValue bw)).after
        ([some (0x01, modeLora ||| modeStdby)] ++ [some (0x1D, modemConfig bw cr enableExplicitHeaders)] ++
          (channelWrites (getBwValue bw) 0).map some ++ [some (0x01, modeLora ||| modeSleep)])) := by
  refine (switchMode_returnsIff hport [] _).checked fun hon => ?_
  obtain rfl := hon.1
  intro u
  rw [Prog.bind_of_ok (write_run hport _ _ _)]
  simp only [List.nil_append, List.length_singleton, if_pos hok]
  generalize modemConfig bw cr enableExplicitHeaders = config
  generalize hs' : s.withBandwidth (getBwValue bw) = s'
  have hport' : s'.sx127xSpiPort = RegisterFile.port true := by rw [← hs']; exact hport
  have hbw : s'.loraBandwidthHz = getBwValue bw := by rw [← hs']; rfl
  have hgranted : ∀ k, Granted s' true k ↔ Granted s true k := fun k => by rw [← hs']; rfl
  have hupdate : Prog.update (fun m : Machine RegisterFile => { m with loraBandwidthHz := getBwValue bw })
      (s.after ([some (0x01, modeLora ||| modeStdby)] ++ [some (0x1D, config)])) =
      .ok ((), s'.after ([some (0x01, modeLora ||| modeStdby)] ++ [some (0x1D, config)])) := by
    rw [← hs']
    rfl
  rw [Prog.bind_of_ok hupdate]
  have hrun := (switchToNthChannel_returnsIff hport'
    ([some (0x01, modeLora ||| modeStdby)] ++ [some (0x1D, config)]) 0).checked fun _ =>
      switchMode_returnsIff hport' _ (modeLora ||| modeSleep)
  simp only [List.length_append, List.length_singleton, List.length_map, channelWrites_length, hbw,
    hgranted, Nat.reduceAdd] at hrun
  exact hrun u

lemma setBandwidth_returnsIff_failed (hport : s.sx127xSpiPort = RegisterFile.port i) (bw : Bandwidths)
    (cr : CodingRate) (enableExplicitHeaders : Bool)
    (hfail : s.world.results (s.world.transactions + 1) ≠ .sxOk) :
    ReturnsIff (sx1278SetBandwidth bw cr enableExplicitHeaders) s .sxOk (Granted s i 0 ∧ Granted s i 2)
      (s.after [some (0x01, modeLora ||| modeStdby), none, some (0x01, modeLora ||| modeSleep)]) := by
  refine (switchMode_returnsIff hport [] _).checked fun hon => ?_
  obtain rfl := hon.1
  intro u
  rw [Prog.bind_of_ok (write_run hport _ _ _)]
  simp only [List.nil_append, List.length_singleton, if_neg hfail]
  exact switchMode_returnsIff hport [some (0x01, modeLora ||| modeStdby), none] _ u

lemma restoreFactor_returnsIff (hport : s.sx127xSpiPort = RegisterFile.port i)
    (es : List (Option (UInt8 × UInt8))) :
    ReturnsIff (sx1278SetSpreadingFactor s.spreadingFactor) (s.after es) .sxOk
      (Granted s i es.length ∧ ¬ (s.spreadingFactor < 6 ∨ s.spreadingFactor > 12) ∧
        Granted s i (es.length + 2))
      (s.after (es ++ [some (0x01, modeLora ||| modeStdby),
        if s.world.results (s.world.transactions + (es.length + 1)) = .sxOk then
          some (factorWrite s.spreadingFactor) else none,
        some (0x01, modeLora ||| modeSleep)])) := by
  have hset := setSpreadingFactor_returnsIff hport es s.spreadingFactor
  split_ifs at hset ⊢ with hok
  · exact hset
  · exact hset

def initializeEffects (s : Machine RegisterFile) : List (Option (UInt8 × UInt8)) :=
  [none, some (0x01, modeLora ||| modeSleep), some (0x0D, 0x00), some (0x0F, 0x00), some (0x0E, 0x00),
    some (0x01, modeLora ||| modeStdby)] ++
  (channelWrites s.loraBandwidthHz 0).map some ++
  [some (0x09, 0b11111100), some (0x2B, 0b00101011), some (0x4D, 0x84), some (0x1D, 0b01110010),
    some (0x01, modeLora ||| modeStdby),
    if s.world.results (s.world.transactions + 14) = .sxOk then some (factorWrite s.spreadingFactor) else none,
    some (0x01, modeLora ||| modeSleep), some (0x1F, 0xFF), some (0x20, 0x00), some (0x21, 0x18),
    some (0x39, 0b11010011)]

lemma read_run (hport : s.sx127xSpiPort = RegisterFile.port true) (reg d : UInt8) :
    spiReadByte reg d s =
      .ok ((s.world.result, if s.world.result = .sxOk then s.world.regs reg else d), s.after [none]) := by
  obtain ⟨world, port, timer, bw, sf⟩ := s
  obtain rfl : port = RegisterFile.port true := hport
  by_cases hok : world.result = .sxOk
  · simp [spiReadByte, spiBurstReadReg, Prog.bind_apply, RegisterFile.port, RegisterFile.reader,
      Machine.after, hok]
  · simp [spiReadByte, spiBurstReadReg, Prog.bind_apply, RegisterFile.port, RegisterFile.reader,
      Machine.after, hok]

lemma version_returnsIff (hport : s.sx127xSpiPort = RegisterFile.port i)
    {rest : Radio RegisterFile Sx127xErr} {C : Prop} (hrest : ReturnsIff rest (s.after [none]) .sxOk C t) :
    ReturnsIff (spiReadByte 0x42 0 >>= fun out =>
        if out.1 ≠ .sxOk then pure out.1 else if out.2 ≠ 0x12 then pure .sxInvalidResponse else rest) s .sxOk
      (Granted s i 0 ∧ ¬ s.world.regs 0x42 ≠ 0x12 ∧ C) t := by
  intro u
  cases i with
  | false =>
    have hrun : spiReadByte 0x42 0 s = .ok ((.sxUnitUnitialized, 0), s) := by
      simp [spiReadByte, spiBurstReadReg, Prog.bind_apply, hport, RegisterFile.port]
    rw [Prog.bind_of_ok hrun]
    simp [Granted]
  | true =>
    rw [Prog.bind_of_ok (read_run hport _ _)]
    by_cases hok : s.world.result = .sxOk
    · simp only [hok, ne_eq, not_true_eq_false, if_false, if_true]
      rw [and_iff_right (show Granted s true 0 from ⟨rfl, hok⟩)]
      exact ReturnsIff.guarded (by decide) (fun _ => hrest) u
    · have hfail : ¬ Granted s true 0 := fun h => hok h.2
      simp [hok, hfail]

lemma initialize_returnsIff (i : Bool) (timer : Sx127xTimerCtx RegisterFile) :
    ReturnsIff (initializeSx1278 (RegisterFile.port i) timer) s .sxOk
      (i = true ∧ s.world.regs 0x42 = 0x12 ∧ 0 < calculateChannelNum s.loraBandwidthHz ∧
        ¬ (s.spreadingFactor < 6 ∨ s.spreadingFactor > 12) ∧
        ∀ k < 20, k ≠ 14 → s.world.results (s.world.transactions + k) = .sxOk)
      ({ s with sx127xSpiPort := RegisterFile.port i, sx127xTimerCtx := timer }.after (initializeEffects s)) := by
  intro u
  rw [initializeSx1278, Prog.bind_of_ok (Prog.update_apply _ _)]
  generalize hs' : ({ s with sx127xSpiPort := RegisterFile.port i, sx127xTimerCtx := timer } :
    Machine RegisterFile) = s'
  have hport : s'.sx127xSpiPort = RegisterFile.port i := by rw [← hs']
  have hgranted : ∀ k, Granted s' i k ↔ Granted s i k := fun k => by rw [← hs']; rfl
  refine ReturnsIff.congr (version_returnsIff hport <|
    (switchMode_returnsIff hport [none] (modeLora ||| modeSleep)).checked fun _ =>
    (write_returnsIff hport _ 0x0D 0x00).checked fun _ =>
    (write_returnsIff hport _ 0x0F 0x00).checked fun _ =>
    (write_returnsIff hport _ 0x0E 0x00).checked fun _ =>
    (switchMode_returnsIff hport _ (modeLora ||| modeStdby)).checked fun _ =>
    (switchToNthChannel_returnsIff hport _ 0).checked fun _ =>
    (write_returnsIff hport _ 0x09 0b11111100).checked fun _ =>
    (write_returnsIff hport _ 0x2B 0b00101011).checked fun _ =>
    (write_returnsIff hport _ 0x4D 0x84).checked fun _ =>
    (write_returnsIff hport _ 0x1D 0b01110010).checked fun _ =>
    .read <| (restoreFactor_returnsIff hport _).checked fun _ =>
    (write_returnsIff hport _ 0x1F 0xFF).checked fun _ =>
    (write_returnsIff hport _ 0x20 0x00).checked fun _ =>
    (write_returnsIff hport _ 0x21 0x18).checked fun _ =>
    write_returnsIff hport _ 0x39 0b11010011) ?_ ?_ u
  · simp only [List.length_append, List.length_cons, List.length_nil, List.length_map,
      channelWrites_length, Nat.reduceAdd, hgranted]
    rw [← hs']
    constructor
    · rintro ⟨h₀, hversion, h₁, h₂, h₃, h₄, h₅, ⟨hchannel, h₆, h₇, h₈⟩, h₉, h₁₀, h₁₁, h₁₂, ⟨h₁₃, hsf, h₁₅⟩, h₁₆,
        h₁₇, h₁₈, h₁₉⟩
      refine ⟨h₀.1, not_not.mp hversion, hchannel, hsf, fun k hk hne => ?_⟩
      apply And.right (a := i = true)
      interval_cases k <;> first | exact absurd rfl hne | assumption
    · rintro ⟨rfl, hversion, hchannel, hsf, hall⟩
      have hall : ∀ k < 20, k ≠ 14 → Granted s true k := fun k hk hne => ⟨rfl, hall k hk hne⟩
      simp [hversion, hchannel, not_or.mp hsf, hall]
  · rw [← hs']
    rfl

lemma allSucceeded_iff {n : ℕ} (h : t.world.transactions = s.world.transactions + n) :
    AllSucceeded s t ↔ ∀ k < n, s.world.results (s.world.transactions + k) = .sxOk := by
  rw [AllSucceeded, h]
  constructor
  · exact fun hall k hk => hall _ (Nat.le_add_right _ _) (Nat.add_lt_add_left hk _)
  · intro hall k hle hlt
    obtain ⟨j, rfl⟩ := Nat.exists_eq_add_of_le hle
    exact hall j (Nat.lt_of_add_lt_add_left hlt)

lemma all_of_not_onlyFailure {w : RegisterFile} {j n : ℕ}
    (hothers : ∀ k < n, k ≠ j → w.results (w.transactions + k) = .sxOk) (h : ¬ OnlyFailure w j n) :
    ∀ k < n, w.results (w.transactions + k) = .sxOk := by
  intro k hk
  by_contra hne
  obtain rfl : k = j := by
    by_contra hkj
    exact hne (hothers k hk hkj)
  exact h ⟨hne, hothers⟩

lemma succeeded_iff {x : Radio RegisterFile Sx127xErr} {C : Prop} {j n : ℕ} (hj : j < n)
    (hrun : ReturnsIff x s .sxOk
      (C ∧ ∀ k < n, k ≠ j → s.world.results (s.world.transactions + k) = .sxOk) t)
    (ht : t.world.transactions = s.world.transactions + n) :
    (∀ u, x s = .ok (.sxOk, u) → AllSucceeded s u) ↔ ¬ (C ∧ OnlyFailure s.world j n) := by
  constructor
  · rintro hall ⟨hC, hfail, hothers⟩
    have hsucceeded := (allSucceeded_iff ht).mp (hall t (hrun.run ⟨hC, hothers⟩))
    exact hfail (hsucceeded j hj)
  · intro hnot u hu
    obtain ⟨⟨hC, hothers⟩, rfl⟩ := (hrun u).mp hu
    exact (allSucceeded_iff ht).mpr (all_of_not_onlyFailure hothers fun h => hnot ⟨hC, h⟩)

lemma granted_others : Granted s i 0 ∧ Granted s i 2 ↔
    i = true ∧ ∀ k < 3, k ≠ 1 → s.world.results (s.world.transactions + k) = .sxOk := by
  constructor
  · rintro ⟨h₀, h₂⟩
    refine ⟨h₀.1, fun k hk hne => ?_⟩
    interval_cases k
    · exact h₀.2
    · exact absurd rfl hne
    · exact h₂.2
  · rintro ⟨hi, hall⟩
    exact ⟨⟨hi, hall 0 (by decide) (by decide)⟩, ⟨hi, hall 2 (by decide) (by decide)⟩⟩

lemma switchToNthChannel_succeeded (hport : s.sx127xSpiPort = RegisterFile.port i) {n : ℕ}
    (h : sx1278SwitchToNthChannel n s = .ok (.sxOk, t)) : AllSucceeded s t := by
  obtain ⟨⟨-, h₀, h₁, h₂⟩, rfl⟩ := (switchToNthChannel_returnsIff hport [] n t).mp h
  rw [allSucceeded_iff (n := 3) rfl]
  intro k hk
  apply And.right (a := i = true)
  interval_cases k <;> assumption

lemma setSpreadingFactor_succeeded_iff (hport : s.sx127xSpiPort = RegisterFile.port i) (sf : UInt8) :
    (∀ u, sx1278SetSpreadingFactor sf s = .ok (.sxOk, u) → AllSucceeded s u) ↔
      ¬ ((i = true ∧ ¬ (sf < 6 ∨ sf > 12)) ∧ OnlyFailure s.world 1 3) := by
  have hrun := setSpreadingFactor_returnsIff hport [] sf
  refine succeeded_iff (by decide) (hrun.congr ?_ rfl) ?_
  · rw [and_assoc, and_left_comm (a := i = true), ← granted_others]
    exact and_left_comm
  · split_ifs
    · rfl
    · rfl

lemma setBandwidth_succeeded_iff (hport : s.sx127xSpiPort = RegisterFile.port i) (bw : Bandwidths)
    (cr : CodingRate) (enableExplicitHeaders : Bool) :
    (∀ u, sx1278SetBandwidth bw cr enableExplicitHeaders s = .ok (.sxOk, u) → AllSucceeded s u) ↔
      ¬ (i = true ∧ OnlyFailure s.world 1 3) := by
  by_cases hok : s.world.results (s.world.transactions + 1) = .sxOk
  · refine ⟨fun _ h => h.2.1 hok, fun _ u hu => ?_⟩
    obtain ⟨⟨h₀, ⟨-, h₂, h₃, h₄⟩, h₅⟩, rfl⟩ :=
      (setBandwidth_returnsIff_written hport bw cr enableExplicitHeaders hok u).mp hu
    rw [allSucceeded_iff (n := 6) rfl]
    have h₁ : Granted s i 1 := ⟨h₀.1, hok⟩
    intro k hk
    apply And.right (a := i = true)
    interval_cases k <;> assumption
  · have hrun := setBandwidth_returnsIff_failed hport bw cr enableExplicitHeaders hok
    exact succeeded_iff (by decide) (hrun.congr granted_others rfl) rfl

lemma initialize_succeeded_iff (i : Bool) (timer : Sx127xTimerCtx RegisterFile) :
    (∀ u, initializeSx1278 (RegisterFile.port i) timer s = .ok (.sxOk, u) → AllSucceeded s u) ↔
      ¬ ((i = true ∧ s.world.regs 0x42 = 0x12 ∧ 0 < calculateChannelNum s.loraBandwidthHz ∧
        ¬ (s.spreadingFactor < 6 ∨ s.spreadingFactor > 12)) ∧ OnlyFailure s.world 14 20) := by
  refine succeeded_iff (by decide) ((initialize_returnsIff i timer).congr ?_ rfl) rfl
  rw [and_assoc, and_assoc, and_assoc]

lemma initialize_configured {timer : Sx127xTimerCtx RegisterFile}
    (h : initializeSx1278 (RegisterFile.port i) timer s = .ok (.sxOk, t)) (hall : AllSucceeded s t) :
    ∀ w ∈ configuration s.loraBandwidthHz s.spreadingFactor, t.world.regs w.1 = w.2 := by
  obtain ⟨-, rfl⟩ := (initialize_returnsIff i timer t).mp h
  have hok := (allSucceeded_iff (n := 20) rfl).mp hall 14 (by decide)
  simp [configuration, initializeEffects, channelWrites, factorWrite, Machine.after, Function.update, hok]

lemma initialize_tuned {timer : Sx127xTimerCtx RegisterFile} {bw : Bandwidths}
    (h : initializeSx1278 (RegisterFile.port i) timer s = .ok (.sxOk, t))
    (hbw : t.loraBandwidthHz = getBwValue bw) : TunedTo bw 0 t := by
  obtain ⟨⟨-, -, hn, -⟩, rfl⟩ := (initialize_returnsIff i timer t).mp h
  rw [show s.loraBandwidthHz = getBwValue bw from hbw] at hn
  refine ⟨hn, ?_⟩
  rw [← hbw]
  by_cases hok : s.world.results (s.world.transactions + 14) = .sxOk
  · simp [initializeEffects, channelWrites, factorWrite, Machine.after, Function.update, hok]
  · simp [initializeEffects, channelWrites, Machine.after, Function.update, hok]

lemma setBandwidth_tuned {new bw : Bandwidths} {cr : CodingRate} {enableExplicitHeaders : Bool}
    (hport : s.sx127xSpiPort = RegisterFile.port i)
    (h : sx1278SetBandwidth new cr enableExplicitHeaders s = .ok (.sxOk, t))
    (hbw : t.loraBandwidthHz = getBwValue bw)
    (hwritten : s.world.results (s.world.transactions + 1) = .sxOk) : TunedTo bw 0 t := by
  obtain ⟨⟨-, ⟨hn, -⟩, -⟩, rfl⟩ := (setBandwidth_returnsIff_written hport _ _ _ hwritten t).mp h
  have hnew : getBwValue new = getBwValue bw := hbw
  rw [hnew] at hn
  refine ⟨hn, ?_⟩
  simp [channelWrites, Machine.after, Function.update, hnew]

lemma switchToNthChannel_tuned {n : ℕ} {bw : Bandwidths} (hport : s.sx127xSpiPort = RegisterFile.port i)
    (h : sx1278SwitchToNthChannel n s = .ok (.sxOk, t)) (hbw : t.loraBandwidthHz = getBwValue bw) :
    TunedTo bw n t := by
  obtain ⟨⟨hn, -⟩, rfl⟩ := (switchToNthChannel_returnsIff hport [] n t).mp h
  rw [show s.loraBandwidthHz = getBwValue bw from hbw] at hn
  refine ⟨hn, ?_⟩
  rw [← hbw]
  simp [channelWrites, Machine.after, Function.update]

end Calls

lemma reportsFailures_iff {s : Machine RegisterFile} {c : ConfigCall} (hconf : ∀ t, Configured s t c) :
    ReportsFailures s c ↔ ∀ t, c.run s = .ok (.sxOk, t) → AllSucceeded s t :=
  forall₂_congr fun t _ => and_iff_left (hconf t)

theorem config_call_reports_iff (s : Machine RegisterFile) (hport : ∃ i, s.sx127xSpiPort = RegisterFile.port i)
    (c : ConfigCall) : ReportsFailures s c ↔ ¬ FailureOverwritten s c := by
  obtain ⟨i, hport⟩ := hport
  have hinit : s.sx127xSpiPort.initialized = i := by rw [hport]; rfl
  cases c with
  | initializeSx1278 j timer =>
    rw [FailureOverwritten, ← initialize_succeeded_iff j timer]
    exact ⟨fun h t ht => (h t ht).1, fun h t ht => ⟨h t ht, initialize_configured ht (h t ht)⟩⟩
  | sx1278SetBandwidth bw cr enableExplicitHeaders =>
    rw [FailureOverwritten, hinit, ← setBandwidth_succeeded_iff hport bw cr enableExplicitHeaders]
    exact reportsFailures_iff fun _ => trivial
  | sx1278SetSpreadingFactor sf =>
    rw [FailureOverwritten, hinit, ← setSpreadingFactor_succeeded_iff hport sf]
    exact reportsFailures_iff fun _ => trivial
  | sx1278SwitchToNthChannel n =>
    exact ⟨fun _ h => h, fun _ t ht => ⟨switchToNthChannel_succeeded hport ht, trivial⟩⟩

/-- In a run of safe calls the number of channels and the frequencies written are those of the
bandwidth that the radio uses. -/
theorem channels_of_radio {m : Machine RegisterFile} {i : Bool} {timer : Sx127xTimerCtx RegisterFile}
    {rest : List ConfigCall} (hstart : ProgramStart m)
    (hinit : ∃ t, (ConfigCall.initializeSx1278 i timer).run m = .ok (.sxOk, t))
    (hsafe : Throughout ConfigCall.run (fun s c _ _ => Safe s c) m (.initializeSx1278 i timer :: rest)) :
    Throughout ConfigCall.run (fun s c a t => ∃ bw : Bandwidths, bw.code = t.world.regs 0x1D >>> 4 ∧
        calculateChannelNum t.loraBandwidthHz = calculateChannelNum (getBwValue bw) ∧
        (a = .sxOk → Tuned bw s t c)) m (.initializeSx1278 i timer :: rest) := by
  apply synced_throughout hstart hinit hsafe
  · intro t ht hsync
    obtain ⟨bw, hcode, hbw⟩ := hsync.2.bandwidth
    exact ⟨bw, hcode, by rw [hbw], fun _ => initialize_tuned ht hbw⟩
  · intro s c a t hs hc hsync
    obtain ⟨⟨j, hport⟩, -⟩ := hs
    obtain ⟨bw, hcode, hbw⟩ := hsync.2.bandwidth
    refine ⟨bw, hcode, by rw [hbw], ?_⟩
    rintro rfl
    cases c with
    | initializeSx1278 j timer => exact initialize_tuned hc hbw
    | sx1278SetBandwidth new cr enableExplicitHeaders =>
      exact fun hwritten => setBandwidth_tuned hport hc hbw hwritten
    | sx1278SetSpreadingFactor sf => trivial
    | sx1278SwitchToNthChannel n => exact switchToNthChannel_tuned hport hc hbw

def deafRegister : Machine RegisterFile :=
  { healthyRadio with
    world := { healthyRadio.world with results := fun k => if k = 14 then .sxTimeout else .sxOk } }

theorem config_call_reports_iff_healthy :
    ReportsFailures healthyRadio (.initializeSx1278 true healthyRadio.sx127xTimerCtx) ∧
      ReportsFailures deafRegister (.sx1278SetBandwidth .b250k .cr4d5 true) := by
  constructor
  · exact (config_call_reports_iff healthyRadio ⟨false, rfl⟩ _).mpr fun h => h.2.1 rfl
  · exact (config_call_reports_iff deafRegister ⟨false, rfl⟩ _).mpr fun h => h.2.1 rfl

theorem not_reportsFailures_deafRegister :
    ∃ t, initializeSx1278 (RegisterFile.port true) healthyRadio.sx127xTimerCtx deafRegister = .ok (.sxOk, t) ∧
      t.world.regs 0x1E = 0 ∧
      ¬ ReportsFailures deafRegister (.initializeSx1278 true healthyRadio.sx127xTimerCtx) := by
  have hrun : ∃ ret t, initializeSx1278 (RegisterFile.port true) healthyRadio.sx127xTimerCtx deafRegister =
      .ok (ret, t) ∧ ret = .sxOk ∧ t.world.transactions = 20 ∧ t.world.regs 0x1E = 0 := by
    apply Prog.returns fun (ret : Sx127xErr) (t : Machine RegisterFile) =>
      ret = .sxOk ∧ t.world.transactions = 20 ∧ t.world.regs 0x1E = 0
    decide +kernel
  obtain ⟨ret, t, hrun, rfl, hcount, hreg⟩ := hrun
  refine ⟨t, hrun, hreg, fun h => ?_⟩
  have hall := (h t hrun).1 14 (Nat.zero_le _) (by rw [hcount]; decide)
  exact absurd hall (by decide)

end LoraNetworking
