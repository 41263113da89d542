import LoraNetworking.ConfigFailures

/-! What a configuration call that returns `SX_INVALID_ARGUMENT` has done to the radio by then. -/

namespace LoraNetworking

open StateProg

structure Unaffected (s t : Machine RegisterFile) : Prop where
  regs : t.world.regs = s.world.regs
  bandwidth : t.loraBandwidthHz = s.loraBandwidthHz
  factor : t.spreadingFactor = s.spreadingFactor

def TakesArgument : ConfigCall → Prop
  | .sx1278SetSpreadingFactor _ => True
  | .sx1278SwitchToNthChannel _ => True
  | _ => False

def nthResult (s : Machine RegisterFile) (k : ℕ) : Sx127xErr :=
  s.world.results (s.world.transactions + k)

def Stored (s : Machine RegisterFile) (ws : List (UInt8 × UInt8)) : Prop :=
  ∀ w ∈ ws, s.world.regs w.1 = w.2

def standbyWrite : UInt8 × UInt8 := (0x01, modeLora ||| modeStdby)

/-- The spreading factor is checked behind the switch to standby; and a transaction that fails with
`SX_INVALID_ARGUMENT` passes this code on when the ones before it have written already. -/
def RejectedAfterWrites (s : Machine RegisterFile) : ConfigCall → Prop
  | .sx1278SetSpreadingFactor sf =>
    s.sx127xSpiPort.initialized = true ∧ nthResult s 0 = .sxOk ∧
      (((sf < 6 ∨ sf > 12) ∧ ¬ Stored s [standbyWrite]) ∨
        (¬ (sf < 6 ∨ sf > 12) ∧ nthResult s 2 = .sxInvalidArgument ∧
          (¬ Stored s [standbyWrite] ∨
            (nthResult s 1 = .sxOk ∧ ¬ (Stored s [factorWrite sf] ∧ s.spreadingFactor = sf)))))
  | .sx1278SwitchToNthChannel n =>
    s.sx127xSpiPort.initialized = true ∧ n < calculateChannelNum s.loraBandwidthHz ∧
      nthResult s 0 = .sxOk ∧
      ((nthResult s 1 = .sxInvalidArgument ∧ ¬ Stored s ((channelWrites s.loraBandwidthHz n).take 1)) ∨
        (nthResult s 1 = .sxOk ∧ nthResult s 2 = .sxInvalidArgument ∧
          ¬ Stored s ((channelWrites s.loraBandwidthHz n).take 2)))
  | _ => False

section Registers

variable {ws : List (UInt8 × UInt8)} {regs : UInt8 → UInt8} {reg : UInt8} {w : UInt8 × UInt8}

def regsAfter (regs : UInt8 → UInt8) (ws : List (UInt8 × UInt8)) : UInt8 → UInt8 :=
  ws.foldl (fun regs w => Function.update regs w.1 w.2) regs

lemma regsAfter_of_notMem (h : reg ∉ ws.map Prod.fst) : regsAfter regs ws reg = regs reg := by
  induction ws generalizing regs with
  | nil => rfl
  | cons w ws ih =>
    rw [List.map_cons, List.mem_cons, not_or] at h
    exact (ih h.2).trans (Function.update_of_ne h.1 _ _)

lemma regsAfter_of_mem (hnodup : (ws.map Prod.fst).Nodup) (h : w ∈ ws) : regsAfter regs ws w.1 = w.2 := by
  induction ws generalizing regs with
  | nil => exact absurd h List.not_mem_nil
  | cons v ws ih =>
    rw [List.map_cons, List.nodup_cons] at hnodup
    cases List.mem_cons.mp h with
    | inl heq =>
      subst heq
      exact (regsAfter_of_notMem hnodup.1).trans (Function.update_self _ _ _)
    | inr hmem => exact ih hnodup.2 hmem

lemma regsAfter_eq_iff (hnodup : (ws.map Prod.fst).Nodup) :
    regsAfter regs ws = regs ↔ ∀ w ∈ ws, regs w.1 = w.2 := by
  constructor
  · intro heq w hw
    have hwritten : regsAfter regs ws w.1 = w.2 := regsAfter_of_mem hnodup hw
    rwa [heq] at hwritten
  · intro h
    funext reg
    by_cases hreg : reg ∈ ws.map Prod.fst
    · obtain ⟨w, hw, rfl⟩ := List.mem_map.mp hreg
      rw [regsAfter_of_mem hnodup hw, h w hw]
    · exact regsAfter_of_notMem hreg

end Registers

section Rejections

variable {s s' u t : Machine RegisterFile} {i : Bool} {a : Sx127xErr}
  {es : List (Option (UInt8 × UInt8))} {x rest : Radio RegisterFile Sx127xErr} {C D : Prop}

lemma unaffected_after_iff (hnodup : ((es.filterMap id).map Prod.fst).Nodup) :
    Unaffected s (s.after es) ↔ Stored s (es.filterMap id) := by
  constructor
  · exact fun h => (regsAfter_eq_iff hnodup).mp h.regs
  · exact fun h => ⟨(regsAfter_eq_iff hnodup).mpr h, rfl, rfl⟩

def RejectsIff (s : Machine RegisterFile) (x : Radio RegisterFile Sx127xErr) (u : Machine RegisterFile)
    (C : Prop) : Prop :=
  (∀ a t, x u = .ok (a, t) → a = .sxInvalidArgument → Unaffected s t) ↔ ¬ C

-- the calls are deterministic, so that one run of the call settles what it does
lemma rejects_run_iff (h : x u = .ok (a, t)) :
    (∀ b v, x u = .ok (b, v) → b = .sxInvalidArgument → Unaffected s v) ↔
      (a = .sxInvalidArgument → Unaffected s t) := by
  constructor
  · exact fun hall => hall a t h
  · intro hone b v hv
    obtain ⟨rfl, rfl⟩ : a = b ∧ t = v := by simpa [h] using hv
    exact hone

lemma rejectsIff_of_run (h : x u = .ok (a, t)) (hC : C ↔ a = .sxInvalidArgument ∧ ¬ Unaffected s t) :
    RejectsIff s x u C := by
  rw [RejectsIff, rejects_run_iff h, hC, not_and, not_not]

lemma RejectsIff.of_run (hx : RejectsIff s x u C) (h : x u = .ok (a, t)) :
    (a = .sxInvalidArgument → Unaffected s t) ↔ ¬ C :=
  (rejects_run_iff h).symm.trans hx

lemma RejectsIff.congr (h : RejectsIff s x u C) (hC : C ↔ D) : RejectsIff s x u D := by
  rwa [RejectsIff, ← hC]

lemma unaffected_failed : Unaffected s (s'.after (es ++ [none])) ↔ Unaffected s (s'.after es) := by
  have hregs : (s'.after (es ++ [none])).world.regs = (s'.after es).world.regs := by simp [Machine.after]
  constructor
  · exact fun h => ⟨hregs.symm.trans h.regs, h.bandwidth, h.factor⟩
  · exact fun h => ⟨hregs.trans h.regs, h.bandwidth, h.factor⟩

lemma RejectsIff.write (hport : s'.sx127xSpiPort = RegisterFile.port i)
    (es : List (Option (UInt8 × UInt8))) (reg b : UInt8) :
    RejectsIff s (spiBurstWriteReg reg [b]) (s'.after es)
      (i = true ∧ nthResult s' es.length = .sxInvalidArgument ∧ ¬ Unaffected s (s'.after es)) := by
  cases i with
  | false =>
    have hrun : spiBurstWriteReg reg [b] (s'.after es) = .ok (.sxUnitUnitialized, s'.after es) := by
      simp [spiBurstWriteReg, Machine.after, hport, RegisterFile.port]
    exact rejectsIff_of_run hrun (by simp)
  | true =>
    apply rejectsIff_of_run (write_run hport es reg b)
    rw [and_iff_right rfl]
    apply and_congr_right
    intro hret
    have hne : s'.world.results (s'.world.transactions + es.length) ≠ .sxOk := by
      rw [nthResult] at hret
      rw [hret]
      decide
    rw [if_neg hne, unaffected_failed]

lemma RejectsIff.checked (hport : s'.sx127xSpiPort = RegisterFile.port i)
    (es : List (Option (UInt8 × UInt8))) (reg b : UInt8)
    (hrest : i = true → nthResult s' es.length = .sxOk → RejectsIff s rest (s'.after (es ++ [some (reg, b)])) C) :
    RejectsIff s (spiBurstWriteReg reg [b] >>= fun ret => if ret ≠ .sxOk then pure ret else rest) (s'.after es)
      (i = true ∧ ((nthResult s' es.length = .sxInvalidArgument ∧ ¬ Unaffected s (s'.after es)) ∨
        (nthResult s' es.length = .sxOk ∧ C))) := by
  have hwrite := RejectsIff.write (s := s) hport es reg b
  have hgranted := write_returnsIff hport es reg b
  by_cases hok : i = true ∧ nthResult s' es.length = .sxOk
  · obtain ⟨rfl, hok⟩ := hok
    have hrun := hgranted.run ⟨rfl, hok⟩
    have hthrough := hrest rfl hok
    rw [RejectsIff, Prog.bind_of_ok hrun, if_neg (not_not.mpr rfl)]
    exact hthrough.congr (by simp [hok])
  · have hnone : ∀ v, spiBurstWriteReg reg [b] (s'.after es) ≠ .ok (.sxOk, v) :=
      fun v hv => hok ((hgranted v).mp hv).1
    have hthrough : ∀ a t, (spiBurstWriteReg reg [b] >>= fun ret => if ret ≠ .sxOk then pure ret else rest)
        (s'.after es) = .ok (a, t) ↔ spiBurstWriteReg reg [b] (s'.after es) = .ok (a, t) := by
      intro a t
      rw [Prog.checked_ok]
      constructor
      · rintro (⟨hrun, -⟩ | ⟨v, hv, -⟩)
        · exact hrun
        · exact absurd hv (hnone v)
      · exact fun hrun => Or.inl ⟨hrun, fun ha => hnone t (ha ▸ hrun)⟩
    have hfirst : RejectsIff s (spiBurstWriteReg reg [b] >>= fun ret => if ret ≠ .sxOk then pure ret else rest)
        (s'.after es)
        (i = true ∧ nthResult s' es.length = .sxInvalidArgument ∧ ¬ Unaffected s (s'.after es)) := by
      simp only [RejectsIff, hthrough]
      exact hwrite
    apply hfirst.congr
    tauto

lemma unaffected_start : Unaffected s (s.after []) := ⟨rfl, rfl, rfl⟩

lemma RejectsIff.first (hport : s.sx127xSpiPort = RegisterFile.port i) (reg b : UInt8)
    (hrest : i = true → nthResult s 0 = .sxOk → RejectsIff s rest (s.after [some (reg, b)]) C) :
    RejectsIff s (spiBurstWriteReg reg [b] >>= fun ret => if ret ≠ .sxOk then pure ret else rest) s
      (i = true ∧ nthResult s 0 = .sxOk ∧ C) := by
  apply (RejectsIff.checked (s := s) hport [] reg b hrest).congr
  apply and_congr_right
  intro _
  exact or_iff_right fun h => h.2 unaffected_start

lemma switchToNthChannel_rejectsIff (hport : s.sx127xSpiPort = RegisterFile.port i) (n : ℕ) :
    RejectsIff s (sx1278SwitchToNthChannel n) s (RejectedAfterWrites s (.sx1278SwitchToNthChannel n)) := by
  have hinit : s.sx127xSpiPort.initialized = i := by rw [hport]; rfl
  have hfirst : Unaffected s (s.after [some (channelWrites s.loraBandwidthHz n)[0]]) ↔
      Stored s ((channelWrites s.loraBandwidthHz n).take 1) := unaffected_after_iff (by simp [channelWrites])
  have hsecond : Unaffected s (s.after ([some (channelWrites s.loraBandwidthHz n)[0]] ++
      [some (channelWrites s.loraBandwidthHz n)[1]])) ↔
      Stored s ((channelWrites s.loraBandwidthHz n).take 2) := unaffected_after_iff (by simp [channelWrites])
  by_cases hn : n ≥ calculateChannelNum s.loraBandwidthHz
  · have hrun : sx1278SwitchToNthChannel n s = .ok (.sxInvalidArgument, s) := by
      rw [sx1278SwitchToNthChannel, Prog.bind_of_ok (Prog.read_apply s), if_pos hn]
      rfl
    apply rejectsIff_of_run hrun
    rw [RejectedAfterWrites]
    constructor
    · exact fun h => absurd hn (not_le.mpr h.2.1)
    · exact fun h => absurd unaffected_start h.2
  · let frf := channelFrf s.loraBandwidthHz n
    have hwrites := RejectsIff.first hport 0x06 (UInt8.ofNat (frf >>> 16)) fun _ _ =>
      .checked hport _ 0x07 (UInt8.ofNat (frf >>> 8)) fun _ _ => .write hport _ 0x08 (UInt8.ofNat frf)
    rw [RejectsIff, sx1278SwitchToNthChannel, Prog.bind_of_ok (Prog.read_apply s), if_neg hn]
    refine hwrites.congr ?_
    rw [RejectedAfterWrites, hinit, ← hfirst, ← hsecond]
    constructor
    · rintro ⟨hi, h₀, -, hret⟩
      refine ⟨hi, not_le.mp hn, h₀, ?_⟩
      cases hret with
      | inl h₁ => exact Or.inl h₁
      | inr h₁ => exact Or.inr ⟨h₁.1, h₁.2.2⟩
    · rintro ⟨hi, -, h₀, h₁ | ⟨h₁, h₂⟩⟩
      · exact ⟨hi, h₀, hi, Or.inl h₁⟩
      · exact ⟨hi, h₀, hi, Or.inr ⟨h₁, hi, h₂⟩⟩

lemma unaffected_standby : Unaffected s (s.after [some standbyWrite]) ↔ Stored s [standbyWrite] :=
  unaffected_after_iff (by simp)

lemma unaffected_factor (sf : UInt8) :
    Unaffected s ({ s with spreadingFactor := sf }.after [some standbyWrite, some (factorWrite sf)]) ↔
      Stored s [standbyWrite] ∧ Stored s [factorWrite sf] ∧ s.spreadingFactor = sf := by
  have hregs : Unaffected s (s.after [some standbyWrite, some (factorWrite sf)]) ↔
      Stored s [standbyWrite, factorWrite sf] := unaffected_after_iff (by simp [standbyWrite, factorWrite])
  constructor
  · rintro ⟨hkept, -, hfactor⟩
    have hholds := hregs.mp ⟨hkept, rfl, rfl⟩
    exact ⟨fun w hw => hholds w (by simp_all), fun w hw => hholds w (by simp_all), hfactor.symm⟩
  · rintro ⟨hstandby, hwrite, hfactor⟩
    have hkept := hregs.mpr fun w hw => by
      cases List.mem_cons.mp hw with
      | inl heq => exact hstandby w (by simp [heq])
      | inr hmem => exact hwrite w hmem
    exact ⟨hkept.regs, rfl, hfactor.symm⟩

lemma factorStep_rejectsIff (hport : s.sx127xSpiPort = RegisterFile.port true) (sf : UInt8) :
    RejectsIff s (do
        let ret ← spiBurstWriteReg 0x1E [(0b00000100 : UInt8) ||| sf <<< 4]
        if ret = .sxOk then
          Prog.update fun m => { m with spreadingFactor := sf }
        sx1278SwitchMode (modeLora ||| modeSleep))
      (s.after [some standbyWrite])
      (nthResult s 2 = .sxInvalidArgument ∧ (¬ Stored s [standbyWrite] ∨
        (nthResult s 1 = .sxOk ∧ ¬ (Stored s [factorWrite sf] ∧ s.spreadingFactor = sf)))) := by
  rw [RejectsIff, Prog.bind_of_ok (write_run hport _ _ _)]
  by_cases hok : nthResult s 1 = .sxOk
  · have hport' : ({ s with spreadingFactor := sf } : Machine RegisterFile).sx127xSpiPort =
      RegisterFile.port true := hport
    have hsleep := RejectsIff.write (s := s) hport' [some standbyWrite, some (factorWrite sf)] 0x01
      (modeLora ||| modeSleep)
    simp only [nthResult] at hok
    simp only [List.length_singleton, if_pos hok]
    refine hsleep.congr ?_
    rw [unaffected_factor]
    simp only [nthResult] at hok ⊢
    tauto
  · have hsleep := RejectsIff.write (s := s) hport [some standbyWrite, none] 0x01 (modeLora ||| modeSleep)
    simp only [nthResult] at hok
    simp only [List.length_singleton, if_neg hok]
    refine hsleep.congr ?_
    have hfailed : Unaffected s (s.after ([some standbyWrite] ++ [none])) ↔
        Unaffected s (s.after [some standbyWrite]) := unaffected_failed
    have hkept : Unaffected s (s.after [some standbyWrite, none]) ↔ Stored s [standbyWrite] :=
      hfailed.trans unaffected_standby
    rw [hkept]
    simp only [nthResult] at hok ⊢
    tauto

lemma setSpreadingFactor_rejectsIff (hport : s.sx127xSpiPort = RegisterFile.port i) (sf : UInt8) :
    RejectsIff s (sx1278SetSpreadingFactor sf) s (RejectedAfterWrites s (.sx1278SetSpreadingFactor sf)) := by
  have hinit : s.sx127xSpiPort.initialized = i := by rw [hport]; rfl
  by_cases hsf : sf < 6 ∨ sf > 12
  · have hrun : RejectsIff s (sx1278SetSpreadingFactor sf) s _ :=
      .first hport 0x01 (modeLora ||| modeStdby) fun _ _ => by
        rw [RejectsIff, if_pos hsf]
        exact rejectsIff_of_run (Prog.pure_apply _ _) Iff.rfl
    apply hrun.congr
    have hstandby : Unaffected s (s.after [some (0x01, modeLora ||| modeStdby)]) ↔ Stored s [standbyWrite] :=
      unaffected_standby
    simp only [RejectedAfterWrites, hinit, hstandby, hsf, not_true_eq_false, false_and, or_false, true_and]
  · have hrun : RejectsIff s (sx1278SetSpreadingFactor sf) s _ :=
      .first hport 0x01 (modeLora ||| modeStdby) fun hi _ => by
        rw [RejectsIff, if_neg hsf]
        exact factorStep_rejectsIff (by rw [hport, hi]) sf
    apply hrun.congr
    simp only [RejectedAfterWrites, hinit, hsf, not_false_eq_true, false_and, false_or, true_and]

end Rejections

section Calls

variable {s t : Machine RegisterFile} {a : Sx127xErr} {c : ConfigCall}

def OnRegisterFile (m : Machine RegisterFile) : Prop := ∃ i, m.sx127xSpiPort = RegisterFile.port i

lemma write_onRegisterFile (reg : UInt8) (data : List UInt8) :
    Triple OnRegisterFile (spiBurstWriteReg reg data) fun _ => OnRegisterFile := by
  intro s a t hs h
  simp only [spiBurstWriteReg, Prog.step_apply, Except.ok.injEq] at h
  split_ifs at h with hinit
  · obtain ⟨rfl, rfl⟩ := h
    exact hs
  · obtain ⟨rfl, rfl⟩ := h
    exact hs

lemma setBandwidth_onRegisterFile (bw : Bandwidths) (cr : CodingRate) (enableExplicitHeaders : Bool) :
    Triple OnRegisterFile (sx1278SetBandwidth bw cr enableExplicitHeaders) fun _ => OnRegisterFile := by
  have hsleep : Triple OnRegisterFile (sx1278SwitchMode (modeLora ||| modeSleep)) fun _ => OnRegisterFile :=
    write_onRegisterFile _ _
  have hshadow : ∀ bw : Bandwidths, Triple OnRegisterFile
      (Prog.update fun m => { m with loraBandwidthHz := getBwValue bw }) fun _ => OnRegisterFile := by
    intro bw s _ t hs h
    obtain rfl : _ = t := by simpa using h
    exact hs
  have hchannel : Triple OnRegisterFile (sx1278SwitchToNthChannel 0) fun _ => OnRegisterFile := by
    rintro s a t ⟨i, hport⟩ h
    exact ⟨i, (Untouched.channel hport h).port.trans hport⟩
  refine .bind (write_onRegisterFile _ _) fun ret => .ite (fun _ => .pure fun _ h => h) fun _ => ?_
  refine .bind (write_onRegisterFile _ _) fun ret => .ite (fun _ => ?_) fun _ => hsleep
  refine .bind (hshadow bw) fun _ => ?_
  exact .bind hchannel fun ret => .ite (fun _ => .pure fun _ h => h) fun _ => hsleep

lemma run_onRegisterFile (hs : OnRegisterFile s) (h : c.run s = .ok (a, t)) : OnRegisterFile t := by
  cases c with
  | initializeSx1278 i timer => exact ⟨i, (initialize_result h).port⟩
  | sx1278SetBandwidth bw cr enableExplicitHeaders => exact setBandwidth_onRegisterFile _ _ _ s a t hs h
  | sx1278SetSpreadingFactor sf =>
    obtain ⟨i, hport⟩ := hs
    exact ⟨i, (setSpreadingFactor_cases hport h).2.2.1.trans hport⟩
  | sx1278SwitchToNthChannel n =>
    obtain ⟨i, hport⟩ := hs
    exact ⟨i, (Untouched.channel hport h).port.trans hport⟩

lemma rejected_iff (hs : OnRegisterFile s) (h : c.run s = .ok (a, t)) :
    (TakesArgument c → a = .sxInvalidArgument → Unaffected s t) ↔ ¬ RejectedAfterWrites s c := by
  obtain ⟨i, hport⟩ := hs
  cases c with
  | initializeSx1278 j timer => exact iff_of_true (fun h => absurd h id) id
  | sx1278SetBandwidth bw cr enableExplicitHeaders => exact iff_of_true (fun h => absurd h id) id
  | sx1278SetSpreadingFactor sf =>
    rw [← (setSpreadingFactor_rejectsIff hport sf).of_run h]
    exact forall_const True
  | sx1278SwitchToNthChannel n =>
    rw [← (switchToNthChannel_rejectsIff hport n).of_run h]
    exact forall_const True

end Calls

/-- A run of configuration calls whose rejections all leave the radio and the shadows alone is one in
which no call is rejected after it has written. -/
theorem rejections_unaffected_iff (m : Machine RegisterFile) (hport : ∃ i, m.sx127xSpiPort = RegisterFile.port i)
    (calls : List ConfigCall) :
    Throughout ConfigCall.run
        (fun s c a t => TakesArgument c → a = .sxInvalidArgument → Unaffected s t) m calls ↔
      Throughout ConfigCall.run (fun s c _ _ => ¬ RejectedAfterWrites s c) m calls := by
  have hstart : OnRegisterFile m := hport
  constructor
  · intro hunaffected
    refine Throughout.of_invariant ?_ hstart hunaffected
    intro s c a t hs h hkept
    exact ⟨(rejected_iff hs h).mp hkept, run_onRegisterFile hs h⟩
  · intro hsafe
    refine Throughout.of_invariant ?_ hstart hsafe
    intro s c a t hs h hrejected
    exact ⟨(rejected_iff hs h).mpr hrejected, run_onRegisterFile hs h⟩

theorem rejections_unaffected_iff_channel :
    Throughout ConfigCall.run
      (fun s c a t => TakesArgument c → a = .sxInvalidArgument → Unaffected s t) healthyRadio
      [.initializeSx1278 true healthyRadio.sx127xTimerCtx, .sx1278SetBandwidth .b500k .cr4d5 true,
        .sx1278SwitchToNthChannel 2] := by
  refine (rejections_unaffected_iff healthyRadio ⟨false, rfl⟩ _).mpr ?_
  rintro _ _ ⟨⟩
  refine ⟨id, ?_⟩
  rintro _ _ ⟨⟩
  refine ⟨id, ?_⟩
  rintro _ _ ⟨⟩
  exact ⟨fun h => absurd h.2.1 (by decide), trivial⟩

theorem rejected_factor_wakes_radio :
    ∃ t u, (ConfigCall.initializeSx1278 true healthyRadio.sx127xTimerCtx).run healthyRadio = .ok (.sxOk, t) ∧
      (ConfigCall.sx1278SetSpreadingFactor 13).run t = .ok (.sxInvalidArgument, u) ∧
      t.world.regs 0x01 = modeLora ||| modeSleep ∧ u.world.regs 0x01 = modeLora ||| modeStdby ∧
      ¬ Throughout ConfigCall.run
        (fun s c a t => TakesArgument c → a = .sxInvalidArgument → Unaffected s t) healthyRadio
        [.initializeSx1278 true healthyRadio.sx127xTimerCtx, .sx1278SetSpreadingFactor 13] := by
  refine ⟨_, _, rfl, rfl, rfl, rfl, fun h => ?_⟩
  have hkept := ((h _ _ rfl).2 _ _ rfl).1 trivial rfl
  have hmode := congrFun hkept.regs 0x01
  exact absurd hmode (by decide)

end LoraNetworking
