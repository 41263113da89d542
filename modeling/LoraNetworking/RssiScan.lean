import LoraNetworking.BusTrace
import LoraNetworking.ConfigFailures
import LoraNetworking.Sx127xUtils

/-! The scan of the channels: which entries of the result are measurements, whatever the radio answers
and whichever transactions fail. -/

namespace LoraNetworking

open StateProg

/-- The radio as a scan sees it: what each transaction of the bus returns, the byte that it reads when
it succeeds and what it leaves in the destination when it fails. -/
structure ReplyStream where
  results : ℕ → Sx127xErr
  answers : ℕ → UInt8
  leftovers : ℕ → List (Option UInt8)
  transactions : ℕ

namespace ReplyStream

def stored (w : ReplyStream) (p : ℕ) : List (Option UInt8) :=
  if w.results p = .sxOk then [some (w.answers p)] else w.leftovers p

def port (initialized : Bool) : SpiPort ReplyStream where
  writer _ _ w := (w.results w.transactions, { w with transactions := w.transactions + 1 })
  reader _ _ w :=
    ((w.results w.transactions, w.stored w.transactions), { w with transactions := w.transactions + 1 })
  initialized := initialized

def channelCost (w : ReplyStream) (p : ℕ) : ℕ :=
  if w.results p ≠ .sxOk then 1
  else if w.results (p + 1) ≠ .sxOk then 2
  else if w.results (p + 2) ≠ .sxOk then 3
  else 4

def afterChannels (w : ReplyStream) : ℕ → ℕ → ℕ
  | 0, p => p
  | rounds + 1, p => afterChannels w rounds (p + w.channelCost p)

def ThreeSucceed (w : ReplyStream) (p : ℕ) : Prop :=
  w.results p = .sxOk ∧ w.results (p + 1) = .sxOk ∧ w.results (p + 2) = .sxOk

instance (w : ReplyStream) (p : ℕ) : Decidable (w.ThreeSucceed p) := inferInstanceAs (Decidable (_ ∧ _ ∧ _))

def reading (w : ReplyStream) (p : ℕ) : Option ℚ :=
  if w.ThreeSucceed p ∧ w.results (p + 3) = .sxOk then some (-((w.answers (p + 3)).toNat : ℚ) / 2) else none

def readings (w : ReplyStream) : ℕ → ℕ → List (Option ℚ)
  | 0, _ => []
  | rounds + 1, p => w.reading p :: readings w rounds (p + w.channelCost p)

section Streams

variable {w : ReplyStream} {p : ℕ}

lemma channelCost_threeSucceed (h : w.ThreeSucceed p) : w.channelCost p = 4 := by
  obtain ⟨h₀, h₁, h₂⟩ := h
  simp [channelCost, h₀, h₁, h₂]

lemma reading_of_not_threeSucceed (h : ¬ w.ThreeSucceed p) : w.reading p = none := if_neg fun hall => h hall.1

lemma first_failure (h : ¬ w.ThreeSucceed p) :
    (w.results p ≠ .sxOk ∧ w.channelCost p = 1) ∨
      (w.results p = .sxOk ∧ w.results (p + 1) ≠ .sxOk ∧ w.channelCost p = 2) ∨
      (w.results p = .sxOk ∧ w.results (p + 1) = .sxOk ∧ w.results (p + 2) ≠ .sxOk ∧ w.channelCost p = 3) := by
  by_cases h₀ : w.results p = .sxOk
  · by_cases h₁ : w.results (p + 1) = .sxOk
    · have h₂ : w.results (p + 2) ≠ .sxOk := fun h₂ => h ⟨h₀, h₁, h₂⟩
      exact Or.inr (Or.inr ⟨h₀, h₁, h₂, by simp [channelCost, h₀, h₁, h₂]⟩)
    · exact Or.inr (Or.inl ⟨h₀, h₁, by simp [channelCost, h₀, h₁]⟩)
  · exact Or.inl ⟨h₀, by simp [channelCost, h₀]⟩

lemma readings_length (rounds p : ℕ) : (w.readings rounds p).length = rounds := by
  induction rounds generalizing p with
  | zero => rfl
  | succ rounds ih => rw [readings, List.length_cons, ih]

lemma readings_measured_iff (rounds p : ℕ) :
    none ∉ w.readings rounds p ↔ ∀ k < 4 * rounds, w.results (p + k) = .sxOk := by
  induction rounds generalizing p with
  | zero => simp [readings]
  | succ rounds ih =>
    rw [readings, List.mem_cons, not_or]
    by_cases hall : w.ThreeSucceed p ∧ w.results (p + 3) = .sxOk
    · have hhead : none ≠ w.reading p := by
        rw [reading, if_pos hall]
        exact (Option.some_ne_none _).symm
      -- a round whose transactions all succeed takes four of them
      obtain ⟨hthree, h₃⟩ := hall
      rw [channelCost_threeSucceed hthree, ih, and_iff_right hhead]
      obtain ⟨h₀, h₁, h₂⟩ := hthree
      constructor
      · intro hrest k hk
        match k, hk with
        | 0, _ => exact h₀
        | 1, _ => exact h₁
        | 2, _ => exact h₂
        | 3, _ => exact h₃
        | k + 4, hk =>
          have hnext := hrest k (by omega)
          rwa [Nat.add_assoc, Nat.add_comm 4 k] at hnext
      · intro hevery k hk
        rw [Nat.add_assoc]
        exact hevery (4 + k) (by omega)
    · have hhead : w.reading p = none := if_neg hall
      refine iff_of_false (fun h => h.1 hhead.symm) fun hevery => hall ?_
      exact ⟨⟨hevery 0 (by omega), hevery 1 (by omega), hevery 2 (by omega)⟩, hevery 3 (by omega)⟩

end Streams

end ReplyStream

structure AtTransaction (w : ReplyStream) (bandwidth : UInt32) (p : ℕ) (m : Machine (Recorded ReplyStream)) : Prop where
  bench : Bench (ReplyStream.port true) m
  world : m.world.world = { w with transactions := p }
  bandwidth : m.loraBandwidthHz = bandwidth

def Runs {α : Type} (w : ReplyStream) (bandwidth : UInt32) (x : Radio (Recorded ReplyStream) α) (p : ℕ)
    (a : α) (q : ℕ) (es : List BusAccess) : Prop :=
  ∀ m, AtTransaction w bandwidth p m → ∃ t, x m = .ok (a, t) ∧ AtTransaction w bandwidth q t ∧
    t.world.log = m.world.log ++ es

section Rules

variable {α β : Type} {w : ReplyStream} {bandwidth : UInt32} {x : Radio (Recorded ReplyStream) α}
  {f : α → Radio (Recorded ReplyStream) β} {rest : Radio (Recorded ReplyStream) Sx127xErr} {p q r : ℕ} {a : α} {b : β}
  {ret : Sx127xErr} {es es' : List BusAccess}

lemma AtTransaction.accessed {m : Machine (Recorded ReplyStream)} (h : AtTransaction w bandwidth p m)
    (access : BusAccess) :
    AtTransaction w bandwidth q (m.accessed { w with transactions := q } access) :=
  ⟨h.bench.accessed _ _, rfl, h.bandwidth⟩

lemma Runs.pure (a : α) : Runs w bandwidth (Pure.pure a) p a p [] :=
  fun m hm => ⟨m, rfl, hm, (List.append_nil _).symm⟩

lemma Runs.bind (hx : Runs w bandwidth x p a q es) (hf : Runs w bandwidth (f a) q b r es') :
    Runs w bandwidth (x >>= f) p b r (es ++ es') := by
  intro m hm
  obtain ⟨t, hrun, ht, hlog⟩ := hx m hm
  obtain ⟨u, hrest, hu, hlog'⟩ := hf t ht
  exact ⟨u, (Prog.bind_of_ok hrun).trans hrest, hu, by rw [hlog', hlog, List.append_assoc]⟩

lemma Runs.write (reg : UInt8) (data : List UInt8) :
    Runs w bandwidth (spiBurstWriteReg reg data) p (w.results p) (p + 1) [.write reg data (w.results p)] := by
  intro m hm
  have hret : ((ReplyStream.port true).writer reg data m.world.world).1 = w.results p := by
    rw [hm.world]
    rfl
  have hworld : ((ReplyStream.port true).writer reg data m.world.world).2 = { w with transactions := p + 1 } := by
    rw [hm.world]
    rfl
  refine ⟨_, ?_, hm.accessed (.write reg data (w.results p)), accessed_log⟩
  rw [hm.bench.write, hret, hworld]

lemma Runs.written (h : w.results p = .sxOk) (reg : UInt8) (data : List UInt8) :
    Runs w bandwidth (spiBurstWriteReg reg data) p .sxOk (p + 1) [.write reg data .sxOk] := by
  have hwrite : Runs w bandwidth _ p _ (p + 1) _ := Runs.write reg data
  rwa [h] at hwrite

lemma Runs.readByte (reg data : UInt8) :
    Runs w bandwidth (spiReadByte reg data) p (w.results p, storedByte (w.stored p) data) (p + 1)
      [.read reg 1 (w.results p) (w.stored p)] := by
  intro m hm
  have hreply : ((ReplyStream.port true).reader reg 1 m.world.world).1 = (w.results p, w.stored p) := by
    rw [hm.world]
    rfl
  have hworld : ((ReplyStream.port true).reader reg 1 m.world.world).2 = { w with transactions := p + 1 } := by
    rw [hm.world]
    rfl
  refine ⟨_, ?_, hm.accessed (.read reg 1 (w.results p) (w.stored p)), accessed_log⟩
  rw [hm.bench.readByte, hreply, hworld]
  rfl

lemma Runs.delay (ms : ℕ) : Runs w bandwidth (sx127xTaskDelayMs ms) p () p [.delay ms] := by
  intro m hm
  refine ⟨_, ?_, hm.accessed (.delay ms), accessed_log⟩
  rw [hm.bench.delay, hm.world]

lemma Runs.read {k : Machine (Recorded ReplyStream) → Radio (Recorded ReplyStream) β}
    (h : ∀ m, m.loraBandwidthHz = bandwidth → Runs w bandwidth (k m) p b q es) :
    Runs w bandwidth (Prog.read >>= k) p b q es :=
  fun m hm => h m hm.bandwidth m hm

lemma Runs.stopped {g : Sx127xErr → β} {next : Radio (Recorded ReplyStream) β}
    (hx : Runs w bandwidth rest p ret q es) (hret : ret ≠ .sxOk) :
    Runs w bandwidth (rest >>= fun ret => if ret ≠ .sxOk then Pure.pure (g ret) else next) p (g ret) q es := by
  have hend : Runs w bandwidth (if ret ≠ .sxOk then Pure.pure (g ret) else next) q (g ret) q [] := by
    rw [if_pos hret]
    exact .pure _
  have hstop := hx.bind (f := fun ret => if ret ≠ .sxOk then Pure.pure (g ret) else next) hend
  rwa [List.append_nil] at hstop

lemma Runs.passed {g : Sx127xErr → Radio (Recorded ReplyStream) β} (hx : Runs w bandwidth rest p .sxOk q es)
    {next : Radio (Recorded ReplyStream) β} (hnext : Runs w bandwidth next q b r es') :
    Runs w bandwidth (rest >>= fun ret => if ret ≠ .sxOk then g ret else next) p b r (es ++ es') :=
  hx.bind (by rw [if_neg (not_not.mpr rfl)]; exact hnext)

end Rules

def BusAccess.SetsFrequency : BusAccess → Prop
  | .write reg _ _ => reg = 0x06 ∨ reg = 0x07 ∨ reg = 0x08
  | _ => False

/-- The value comes from a read of the RSSI register behind writes that set the radio to channel `i`,
before it was set to another one. -/
def MeasuredAt (bandwidth : UInt32) (i : ℕ) (es : List BusAccess) (rssi : ℚ) : Prop :=
  ∃ (pre mid post : List BusAccess) (byte : UInt8),
    es = pre ++ (channelWrites bandwidth i).map .succeeded ++ mid ++ .read 0x11 1 .sxOk [some byte] :: post ∧
      (∀ access ∈ mid, ¬ access.SetsFrequency) ∧ rssi = -(byte.toNat : ℚ) / 2

lemma MeasuredAt.append {bandwidth : UInt32} {i : ℕ} {es : List BusAccess} {rssi : ℚ}
    (h : MeasuredAt bandwidth i es rssi) (before after : List BusAccess) :
    MeasuredAt bandwidth i (before ++ es ++ after) rssi := by
  obtain ⟨pre, mid, post, byte, rfl, hmid, hrssi⟩ := h
  exact ⟨before ++ pre, mid, post ++ after, byte, by simp, hmid, hrssi⟩

section Channels

variable {w : ReplyStream} {bandwidth : UInt32} {p i : ℕ}

def tune (frf : ℕ) : Radio (Recorded ReplyStream) Sx127xErr := do
  let ret ← spiBurstWriteReg 0x06 [UInt8.ofNat (frf >>> 16)]
  if ret ≠ .sxOk then return ret
  let ret ← spiBurstWriteReg 0x07 [UInt8.ofNat (frf >>> 8)]
  if ret ≠ .sxOk then return ret
  spiBurstWriteReg 0x08 [UInt8.ofNat frf]

lemma switchToNthChannel_runs {ret : Sx127xErr} {q : ℕ} {es : List BusAccess}
    (hi : i < calculateChannelNum bandwidth) (h : Runs w bandwidth (tune (channelFrf bandwidth i)) p ret q es) :
    Runs w bandwidth (sx1278SwitchToNthChannel i) p ret q es := by
  intro m hm
  rw [sx1278SwitchToNthChannel, Prog.bind_of_ok (Prog.read_apply m), hm.bandwidth, if_neg (not_le.mpr hi)]
  exact h m hm

lemma tune_succeeds (frf : ℕ) (h : w.ThreeSucceed p) :
    Runs w bandwidth (tune frf) p .sxOk (p + 3)
      [.write 0x06 [UInt8.ofNat (frf >>> 16)] .sxOk, .write 0x07 [UInt8.ofNat (frf >>> 8)] .sxOk,
        .write 0x08 [UInt8.ofNat frf] .sxOk] := by
  obtain ⟨h₀, h₁, h₂⟩ := h
  exact .passed (.written h₀ _ _) (.passed (.written h₁ _ _) (.written h₂ _ _))

lemma tune_fails (frf : ℕ) (h : ¬ w.ThreeSucceed p) :
    ∃ ret es, ret ≠ .sxOk ∧ Runs w bandwidth (tune frf) p ret (p + w.channelCost p) es := by
  obtain ⟨h₀, hcost⟩ | ⟨h₀, h₁, hcost⟩ | ⟨h₀, h₁, h₂, hcost⟩ := ReplyStream.first_failure h
  · have hrun : Runs w bandwidth (tune frf) p (w.results p) (p + 1) _ := .stopped (.write _ _) h₀
    exact ⟨_, _, h₀, hcost ▸ hrun⟩
  · have hrun : Runs w bandwidth (tune frf) p (w.results (p + 1)) (p + 2) _ :=
      .passed (.written h₀ _ _) (.stopped (.write _ _) h₁)
    exact ⟨_, _, h₁, hcost ▸ hrun⟩
  · have hrun : Runs w bandwidth (tune frf) p (w.results (p + 2)) (p + 3) _ :=
      .passed (.written h₀ _ _) (.passed (.written h₁ _ _) (.write _ _))
    exact ⟨_, _, h₂, hcost ▸ hrun⟩

def stored (tempRssiArr : List (Option ℚ)) (i : ℕ) (rssi : Option ℚ) : List (Option ℚ) :=
  match rssi with
  | none => tempRssiArr
  | some rssi => tempRssiArr.set i (some rssi)

lemma stored_next {done : List (Option ℚ)} (hdone : done.length = i) (rounds : ℕ) (rssi : Option ℚ) :
    stored (done ++ List.replicate (rounds + 1) none) i rssi = (done ++ [rssi]) ++ List.replicate rounds none := by
  rw [List.replicate_succ, List.append_assoc]
  cases rssi with
  | none => rfl
  | some rssi =>
    subst hdone
    simp [stored]

lemma measureChannel_skipped {tempRssiArr : List (Option ℚ)} {ret : Sx127xErr} {q : ℕ} {es : List BusAccess}
    (hret : ret ≠ .sxOk) (hswitch : Runs w bandwidth (sx1278SwitchToNthChannel i) p ret q es) :
    Runs w bandwidth (measureChannel i tempRssiArr) p tempRssiArr q es := by
  rw [measureChannel, ← List.append_nil es]
  refine hswitch.bind ?_
  rw [if_pos hret]
  exact .pure _

lemma measureChannel_read {tempRssiArr : List (Option ℚ)} {es : List BusAccess}
    (hswitch : Runs w bandwidth (sx1278SwitchToNthChannel i) p .sxOk (p + 3) es) :
    Runs w bandwidth (measureChannel i tempRssiArr) p
      (stored tempRssiArr i (if w.results (p + 3) = .sxOk then some (-((w.answers (p + 3)).toNat : ℚ) / 2)
        else none)) (p + 4)
      (es ++ [.delay rssiReadDelayMs, .read 0x11 1 (w.results (p + 3)) (w.stored (p + 3))]) := by
  have hdelay : Runs w bandwidth (sx127xTaskDelayMs rssiReadDelayMs) (p + 3) () (p + 3) _ := .delay _
  have hread : Runs w bandwidth (spiReadByte 0x11 0) (p + 3) _ (p + 4) _ := .readByte _ _
  rw [measureChannel]
  refine hswitch.bind ?_
  rw [if_neg (not_not.mpr rfl)]
  refine hdelay.bind ?_
  rw [← List.append_nil [BusAccess.read _ _ _ _]]
  refine hread.bind ?_
  by_cases hok : w.results (p + 3) = .sxOk
  · have hstored : w.stored (p + 3) = [some (w.answers (p + 3))] := if_pos hok
    simp only [hok, hstored, storedByte, ne_eq, not_true_eq_false, if_false, if_true]
    exact .pure _
  · simp only [hok, ne_eq, not_false_eq_true, if_false, if_true]
    exact .pure _

lemma measure_round (hi : i < calculateChannelNum bandwidth) (tempRssiArr : List (Option ℚ)) :
    ∃ es, Runs w bandwidth (measureChannel i tempRssiArr) p (stored tempRssiArr i (w.reading p))
        (p + w.channelCost p) es ∧
      ∀ rssi, w.reading p = some rssi → MeasuredAt bandwidth i es rssi := by
  by_cases hthree : w.ThreeSucceed p
  · have hrun : Runs w bandwidth (measureChannel i tempRssiArr) p _ (p + 4) _ :=
      measureChannel_read (switchToNthChannel_runs hi (tune_succeeds _ hthree))
    have hreading : w.reading p = if w.results (p + 3) = .sxOk then
        some (-((w.answers (p + 3)).toNat : ℚ) / 2) else none := by
      rw [ReplyStream.reading]
      simp only [hthree, true_and]
    rw [ReplyStream.channelCost_threeSucceed hthree, hreading]
    refine ⟨_, hrun, fun rssi hrssi => ?_⟩
    split_ifs at hrssi with hok
    have hstored : w.stored (p + 3) = [some (w.answers (p + 3))] := if_pos hok
    refine ⟨[], [.delay rssiReadDelayMs], [], w.answers (p + 3), ?_, ?_, (Option.some.inj hrssi).symm⟩
    · rw [hok, hstored]
      rfl
    · intro access haccess
      obtain rfl := List.mem_singleton.mp haccess
      exact id
  · obtain ⟨ret, es, hret, hfail⟩ : ∃ ret es, ret ≠ .sxOk ∧
      Runs w bandwidth (tune (channelFrf bandwidth i)) p ret (p + w.channelCost p) es := tune_fails _ hthree
    rw [ReplyStream.reading_of_not_threeSucceed hthree]
    refine ⟨es, measureChannel_skipped hret (switchToNthChannel_runs hi hfail), fun rssi hrssi => ?_⟩
    exact absurd hrssi (Option.some_ne_none rssi).symm

lemma measureChannels_runs (rounds i p : ℕ) {done : List (Option ℚ)} (hdone : done.length = i)
    (hn : i + rounds ≤ calculateChannelNum bandwidth) :
    ∃ es, Runs w bandwidth (Prog.forLoop measureChannel rounds i (done ++ List.replicate rounds none)) p
        (done ++ w.readings rounds p) (w.afterChannels rounds p) es ∧
      ∀ j rssi, (w.readings rounds p)[j]? = some (some rssi) → MeasuredAt bandwidth (i + j) es rssi := by
  induction rounds generalizing i p done with
  | zero =>
    refine ⟨[], ?_, fun j rssi hj => absurd hj (by simp [ReplyStream.readings])⟩
    rw [Prog.forLoop_zero]
    exact .pure _
  | succ rounds ih =>
    have hi : i < calculateChannelNum bandwidth := by omega
    have hnext : (done ++ [w.reading p]).length = i + 1 := by rw [List.length_append, hdone]; rfl
    have hout : done ++ w.readings (rounds + 1) p =
        (done ++ [w.reading p]) ++ w.readings rounds (p + w.channelCost p) := by
      rw [List.append_assoc]
      rfl
    obtain ⟨es, hround, hes⟩ := measure_round (w := w) (p := p) hi (done ++ List.replicate (rounds + 1) none)
    obtain ⟨es', hrest, hes'⟩ := ih (i + 1) (p + w.channelCost p) hnext (by omega)
    rw [stored_next hdone] at hround
    refine ⟨es ++ es', ?_, fun j rssi hj => ?_⟩
    · rw [Prog.forLoop_succ, hout]
      exact hround.bind hrest
    · cases j with
      | zero =>
        have hhead := hes rssi (Option.some.inj hj)
        exact hhead.append [] es'
      | succ j =>
        have htail := (hes' j rssi hj).append es []
        rw [List.append_nil] at htail
        rwa [Nat.add_assoc, Nat.add_comm 1 j] at htail

end Channels

structure OnlyMeasurements (bandwidth : UInt32) (out : ChannelRssis) (es : List BusAccess) : Prop where
  fsk : ∃ stored rest, es = .write 0x01 [modeLora ||| modeSleep] .sxOk :: .write 0x01 [modeSleep] .sxOk ::
      .read 0x01 1 .sxOk stored :: rest ∧
    storedByte stored 0 >>> 7 = 0
  len : out.len = some (calculateChannelNum bandwidth)
  count : out.rssiData.length = calculateChannelNum bandwidth
  measured : ∀ i < calculateChannelNum bandwidth, ∃ rssi, out.rssiData[i]? = some (some rssi) ∧
    MeasuredAt bandwidth i es rssi

def ReportsMeasurements (m : Machine (Recorded ReplyStream)) : Prop :=
  ∃ out t es, sx1278GetChannelRssis m = .ok (out, t) ∧ t.world.log = m.world.log ++ es ∧
    (out.ret = .sxOk → OnlyMeasurements m.loraBandwidthHz out es)

/-- The four transactions that prepare the scan succeed, and so does the last one, whose result is
returned; but the radio is stuck in LoRa mode, or a transaction of some channel fails. -/
def FailureHidden (m : Machine (Recorded ReplyStream)) : Prop :=
  let w := m.world.world
  let channelN := calculateChannelNum m.loraBandwidthHz
  m.sx127xSpiPort.initialized = true ∧
    (∀ k < 4, w.results (w.transactions + k) = .sxOk) ∧
    w.results (w.afterChannels channelN (w.transactions + 4)) = .sxOk ∧
    (w.answers (w.transactions + 2) >>> 7 ≠ 0 ∨
      ∃ k < 4 * channelN, w.results (w.transactions + 4 + k) ≠ .sxOk)

section Scan

variable {w : ReplyStream} {bandwidth : UInt32} {p : ℕ}

def fskAccesses (w : ReplyStream) (p : ℕ) : List BusAccess :=
  [.write 0x01 [modeLora ||| modeSleep] .sxOk, .write 0x01 [modeSleep] .sxOk,
    .read 0x01 1 .sxOk [some (w.answers (p + 2))]]

lemma opMode_runs : Runs w bandwidth (do
      let (ret, data) ← sx1278GetOpMode 0
      if ret ≠ .sxOk then return ret
      if data >>> 7 ≠ 0 then return ret
      return ret) p (w.results p) (p + 1) [.read 0x01 1 (w.results p) (w.stored p)] := by
  have hread : Runs w bandwidth (sx1278GetOpMode 0) p _ (p + 1) _ := .readByte _ _
  rw [← List.append_nil [BusAccess.read _ _ _ _]]
  refine hread.bind ?_
  dsimp only
  split_ifs
  · exact .pure _
  · exact .pure _
  · exact .pure _

lemma switchToFsk_succeeds (h : w.ThreeSucceed p) :
    Runs w bandwidth switchToFsk p .sxOk (p + 3) (fskAccesses w p) := by
  obtain ⟨h₀, h₁, h₂⟩ := h
  have hread : Runs w bandwidth _ (p + 2) _ (p + 3) _ := opMode_runs
  have hstored : w.stored (p + 2) = [some (w.answers (p + 2))] := if_pos h₂
  rw [h₂, hstored] at hread
  exact .passed (.written h₀ _ _) (.passed (.written h₁ _ _) hread)

lemma switchToFsk_fails (h : ¬ w.ThreeSucceed p) :
    ∃ ret q es, ret ≠ .sxOk ∧ Runs w bandwidth switchToFsk p ret q es := by
  obtain ⟨h₀, -⟩ | ⟨h₀, h₁, -⟩ | ⟨h₀, h₁, h₂, -⟩ := ReplyStream.first_failure h
  · exact ⟨_, p + 1, _, h₀, .stopped (.write _ _) h₀⟩
  · exact ⟨_, p + 2, _, h₁, .passed (.written h₀ _ _) (.stopped (.write _ _) h₁)⟩
  · exact ⟨_, p + 3, _, h₂, .passed (.written h₀ _ _) (.passed (.written h₁ _ _) opMode_runs)⟩

lemma scan_stops (h : ¬ ∀ k < 4, w.results (p + k) = .sxOk) :
    ∃ out q es, out.ret ≠ .sxOk ∧ Runs w bandwidth sx1278GetChannelRssis p out q es := by
  by_cases hfsk : w.ThreeSucceed p
  · have h₃ : w.results (p + 3) ≠ .sxOk := by
      intro h₃
      obtain ⟨h₀, h₁, h₂⟩ := hfsk
      apply h
      intro k hk
      interval_cases k <;> assumption
    exact ⟨⟨w.results (p + 3), [], none⟩, p + 4, _, h₃,
      .passed (switchToFsk_succeeds hfsk) (.stopped (.write _ _) h₃)⟩
  · obtain ⟨ret, q, es, hret, hrun⟩ : ∃ ret q es, ret ≠ .sxOk ∧ Runs w bandwidth switchToFsk p ret q es :=
      switchToFsk_fails hfsk
    exact ⟨⟨ret, [], none⟩, q, es, hret, .stopped hrun hret⟩

lemma scanChannels_runs {channelN : ℕ} (hN : channelN ≤ calculateChannelNum bandwidth) :
    ∃ q es, Runs w bandwidth (scanChannels channelN) p
        ⟨w.results (w.afterChannels channelN p), w.readings channelN p, some channelN⟩ q es ∧
      ∀ i rssi, (w.readings channelN p)[i]? = some (some rssi) → MeasuredAt bandwidth i es rssi := by
  obtain ⟨es, hloop, hes⟩ := measureChannels_runs (w := w) channelN 0 p (List.length_nil (α := Option ℚ))
    (by rwa [Nat.zero_add])
  have hlast : Runs w bandwidth (sx1278SwitchMode (modeSleep ||| modeLora)) (w.afterChannels channelN p) _
      (w.afterChannels channelN p + 1) _ := .write _ _
  refine ⟨w.afterChannels channelN p + 1, _, hloop.bind (hlast.bind (.pure _)), fun i rssi hi => ?_⟩
  have hmeasured := hes i rssi hi
  rw [Nat.zero_add] at hmeasured
  exact hmeasured.append [] _

lemma scan_completes (bandwidth : UInt32) (h : ∀ k < 4, w.results (p + k) = .sxOk) :
    ∃ q es, Runs w bandwidth sx1278GetChannelRssis p
        ⟨w.results (w.afterChannels (calculateChannelNum bandwidth) (p + 4)),
          w.readings (calculateChannelNum bandwidth) (p + 4), some (calculateChannelNum bandwidth)⟩ q
        (fskAccesses w p ++ es) ∧
      ∀ i rssi, (w.readings (calculateChannelNum bandwidth) (p + 4))[i]? = some (some rssi) →
        MeasuredAt bandwidth i (fskAccesses w p ++ es) rssi := by
  have hfsk : w.ThreeSucceed p := ⟨h 0 (by decide), h 1 (by decide), h 2 (by decide)⟩
  obtain ⟨q, es, hscan, hes⟩ : ∃ q es, Runs w bandwidth (scanChannels (calculateChannelNum bandwidth)) (p + 4) _ q es ∧
    ∀ i rssi, _ → _ := scanChannels_runs le_rfl
  have hread : Runs w bandwidth (Prog.read >>= fun m => scanChannels (calculateChannelNum m.loraBandwidthHz))
      (p + 4) _ q es := .read fun m hm => by rw [hm]; exact hscan
  have hreceiver : Runs w bandwidth (sx1278SwitchMode modeFskReceiver) (p + 3) .sxOk (p + 4)
      [.write 0x01 [modeFskReceiver] .sxOk] := .written (h 3 (by decide)) _ _
  refine ⟨q, [.write 0x01 [modeFskReceiver] .sxOk] ++ es,
    .passed (switchToFsk_succeeds hfsk) (.passed hreceiver hread), fun i rssi hi => ?_⟩
  have hmeasured := (hes i rssi hi).append (fskAccesses w p ++ [.write 0x01 [modeFskReceiver] .sxOk]) []
  rwa [List.append_nil, List.append_assoc] at hmeasured

end Scan

section Reports

variable {m : Machine (Recorded ReplyStream)}

lemma reports_of_failed {out : ChannelRssis} {t : Machine (Recorded ReplyStream)} {es : List BusAccess}
    (hrun : sx1278GetChannelRssis m = .ok (out, t)) (hlog : t.world.log = m.world.log ++ es)
    (hret : out.ret ≠ .sxOk) : ReportsMeasurements m :=
  ⟨out, t, es, hrun, hlog, fun hok => absurd hok hret⟩

lemma uninitialized_reports (hport : m.sx127xSpiPort = (ReplyStream.port false).recorded) :
    ReportsMeasurements m := by
  have hwrite : sx1278SwitchMode (modeLora ||| modeSleep) m = .ok (.sxUnitUnitialized, m) := by
    rw [sx1278SwitchMode, recorded_write hport]
    rfl
  have hfsk : switchToFsk m = .ok (.sxUnitUnitialized, m) := by
    rw [switchToFsk, Prog.bind_of_ok hwrite]
    rfl
  have hrun : sx1278GetChannelRssis m = .ok (⟨.sxUnitUnitialized, [], none⟩, m) := by
    rw [sx1278GetChannelRssis, Prog.bind_of_ok hfsk]
    rfl
  exact reports_of_failed hrun (List.append_nil _).symm (by decide)

lemma reports_iff_of_run {out : ChannelRssis} {t : Machine (Recorded ReplyStream)} {es : List BusAccess}
    (hrun : sx1278GetChannelRssis m = .ok (out, t)) (hlog : t.world.log = m.world.log ++ es) :
    ReportsMeasurements m ↔ (out.ret = .sxOk → OnlyMeasurements m.loraBandwidthHz out es) := by
  constructor
  · rintro ⟨out', t', es', hrun', hlog', hout⟩
    obtain ⟨rfl, rfl⟩ : out = out' ∧ t = t' := by simpa [hrun] using hrun'
    obtain rfl : es = es' := List.append_cancel_left (hlog.symm.trans hlog')
    exact hout
  · exact fun hout => ⟨out, t, es, hrun, hlog, hout⟩

lemma onlyMeasurements_iff {w : ReplyStream} {bandwidth : UInt32} {p : ℕ} {ret : Sx127xErr} {es : List BusAccess}
    (hes : ∀ i rssi, (w.readings (calculateChannelNum bandwidth) (p + 4))[i]? = some (some rssi) →
      MeasuredAt bandwidth i (fskAccesses w p ++ es) rssi) :
    OnlyMeasurements bandwidth ⟨ret, w.readings (calculateChannelNum bandwidth) (p + 4),
        some (calculateChannelNum bandwidth)⟩ (fskAccesses w p ++ es) ↔
      w.answers (p + 2) >>> 7 = 0 ∧
        ∀ k < 4 * calculateChannelNum bandwidth, w.results (p + 4 + k) = .sxOk := by
  rw [← ReplyStream.readings_measured_iff]
  constructor
  · intro h
    refine ⟨?_, fun hnone => ?_⟩
    · obtain ⟨stored, rest, heq, hbit⟩ := h.fsk
      obtain ⟨rfl, -⟩ : [some (w.answers (p + 2))] = stored ∧ es = rest := by simpa [fskAccesses] using heq
      exact hbit
    · obtain ⟨i, hi⟩ := List.mem_iff_getElem?.mp hnone
      have hlt : i < calculateChannelNum bandwidth := by
        have hlength := (List.getElem?_eq_some_iff.mp hi).1
        rwa [ReplyStream.readings_length] at hlength
      obtain ⟨rssi, hrssi, -⟩ := h.measured i hlt
      rw [hi] at hrssi
      exact absurd (Option.some.inj hrssi) (Option.some_ne_none rssi).symm
  · rintro ⟨hbit, hall⟩
    refine ⟨⟨_, es, rfl, hbit⟩, rfl, ReplyStream.readings_length _ _, fun i hi => ?_⟩
    have hlt : i < (w.readings (calculateChannelNum bandwidth) (p + 4)).length := by
      rwa [ReplyStream.readings_length]
    cases hentry : (w.readings (calculateChannelNum bandwidth) (p + 4))[i] with
    | none => exact absurd (hentry ▸ List.getElem_mem hlt) hall
    | some rssi =>
      have hsome : (w.readings (calculateChannelNum bandwidth) (p + 4))[i]? = some (some rssi) := by
        rw [List.getElem?_eq_getElem hlt, hentry]
      exact ⟨rssi, hsome, hes i rssi hsome⟩

lemma reports_iff (hm : Bench (ReplyStream.port true) m)
    (hsetup : ∀ k < 4, m.world.world.results (m.world.world.transactions + k) = .sxOk) :
    ReportsMeasurements m ↔ ¬ FailureHidden m := by
  obtain ⟨q, es, hscan, hes⟩ := scan_completes m.loraBandwidthHz hsetup
  obtain ⟨t, hrun, -, hlog⟩ := hscan m ⟨hm, rfl, rfl⟩
  have hinit : m.sx127xSpiPort.initialized = true := by rw [hm.spiPort]; exact hm.enabled
  rw [reports_iff_of_run hrun hlog, onlyMeasurements_iff hes]
  constructor
  · rintro hreports ⟨-, -, hlast, hhidden⟩
    obtain ⟨hbit, hall⟩ := hreports hlast
    cases hhidden with
    | inl hstuck => exact hstuck hbit
    | inr hfail =>
      obtain ⟨k, hk, hne⟩ := hfail
      exact hne (hall k hk)
  · intro hshown hlast
    by_contra hnot
    refine hshown ⟨hinit, hsetup, hlast, ?_⟩
    rw [not_and_or, not_forall₂] at hnot
    simpa only [exists_prop] using hnot

end Reports

/-- A scan that returns `SX_OK` holds nothing but measurements exactly where no failure is hidden behind
the result of its last transaction. -/
theorem scan_measurements_iff (m : Machine (Recorded ReplyStream))
    (hport : ∃ i, m.sx127xSpiPort = (ReplyStream.port i).recorded) (htimer : m.sx127xTimerCtx = stopwatch) :
    ReportsMeasurements m ↔ ¬ FailureHidden m := by
  obtain ⟨i, hport⟩ := hport
  cases i with
  | false =>
    refine iff_of_true (uninitialized_reports hport) fun h => ?_
    rw [FailureHidden, hport] at h
    exact absurd h.1 (by decide)
  | true =>
    have hm : Bench (ReplyStream.port true) m := ⟨hport, htimer, rfl⟩
    by_cases hsetup : ∀ k < 4, m.world.world.results (m.world.world.transactions + k) = .sxOk
    · exact reports_iff hm hsetup
    · obtain ⟨out, q, es, hret, hscan⟩ : ∃ out q es, out.ret ≠ .sxOk ∧
        Runs m.world.world m.loraBandwidthHz sx1278GetChannelRssis m.world.world.transactions out q es :=
        scan_stops hsetup
      obtain ⟨t, hrun, -, hlog⟩ := hscan m ⟨hm, rfl, rfl⟩
      exact iff_of_true (reports_of_failed hrun hlog hret) fun h => hsetup h.2.1

def rssiBench (results : ℕ → Sx127xErr) (answer : UInt8) : Machine (Recorded ReplyStream) where
  world := ⟨⟨results, fun _ => answer, fun _ => [], 0⟩, fun _ => 0, 0, []⟩
  sx127xSpiPort := (ReplyStream.port true).recorded
  sx127xTimerCtx := stopwatch
  loraBandwidthHz := 500000
  spreadingFactor := 12

theorem scan_measurements_iff_healthy : ReportsMeasurements (rssiBench (fun _ => .sxOk) 80) := by
  refine (scan_measurements_iff _ ⟨true, rfl⟩ rfl).mpr ?_
  rintro ⟨-, -, -, hstuck | ⟨k, -, hfail⟩⟩
  · exact hstuck (by decide)
  · exact hfail rfl

theorem hidden_scan_failures :
    let deaf := rssiBench (fun k => if k = 7 then .sxTimeout else .sxOk) 80
    let stuck := rssiBench (fun _ => .sxOk) 208
    (∃ t, sx1278GetChannelRssis deaf = .ok (⟨.sxOk, [none, some (-40)], some 2⟩, t)) ∧
      ¬ ReportsMeasurements deaf ∧
      (∃ t, sx1278GetChannelRssis stuck = .ok (⟨.sxOk, [some (-104), some (-104)], some 2⟩, t)) ∧
      ¬ ReportsMeasurements stuck := by
  intro deaf stuck
  have hdeaf : ∃ out t, sx1278GetChannelRssis deaf = .ok (out, t) ∧
      out = ⟨.sxOk, [none, some (-40)], some 2⟩ := by
    apply Prog.returns fun (out : ChannelRssis) (_ : Machine (Recorded ReplyStream)) =>
      out = ⟨.sxOk, [none, some (-40)], some 2⟩
    decide +kernel
  have hstuck : ∃ out t, sx1278GetChannelRssis stuck = .ok (out, t) ∧
      out = ⟨.sxOk, [some (-104), some (-104)], some 2⟩ := by
    apply Prog.returns fun (out : ChannelRssis) (_ : Machine (Recorded ReplyStream)) =>
      out = ⟨.sxOk, [some (-104), some (-104)], some 2⟩
    decide +kernel
  obtain ⟨_, t, hdeaf, rfl⟩ := hdeaf
  obtain ⟨_, u, hstuck, rfl⟩ := hstuck
  refine ⟨⟨t, hdeaf⟩, fun h => ?_, ⟨u, hstuck⟩, fun h => ?_⟩
  · have hsetup : ∀ k < 4, deaf.world.world.results (deaf.world.world.transactions + k) = .sxOk := by decide
    exact (reports_iff ⟨rfl, rfl, rfl⟩ hsetup).mp h
      ⟨rfl, hsetup, by decide, Or.inr ⟨3, by decide, by decide⟩⟩
  · have hsetup : ∀ k < 4, stuck.world.world.results (stuck.world.world.transactions + k) = .sxOk :=
      fun _ _ => rfl
    exact (reports_iff ⟨rfl, rfl, rfl⟩ hsetup).mp h ⟨rfl, hsetup, rfl, Or.inl (by decide)⟩

end LoraNetworking
