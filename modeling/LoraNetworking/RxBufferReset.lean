import LoraNetworking.BusTrace
import LoraNetworking.PayloadAtomicity

/-! Two runs of `read_last_packet` against each other: what the static receive buffer carries from
one call to the next. -/

namespace LoraNetworking

open StateProg

variable {ω ω' α β : Type}

/-- Where the hardware of the second run answers the accesses of the first run as the hardware of the
first run did, the second run makes the same accesses and returns the same. -/
def Mirrors (port : SpiPort ω) (port' : SpiPort ω') (x : Radio (Recorded ω) α)
    (y : Radio (Recorded ω') α) : Prop :=
  ∀ m a t, m.sx127xSpiPort = port.recorded → x m = .ok (a, t) →
    t.sx127xSpiPort = port.recorded ∧ ∃ es, t.world.log = m.world.log ++ es ∧
      ∀ m' w, m'.sx127xSpiPort = port'.recorded → Replays port' m'.world.world es w →
        ∃ t', y m' = .ok (a, t') ∧ t'.sx127xSpiPort = port'.recorded ∧ t'.world.world = w ∧
          t'.world.log = m'.world.log ++ es

section Rules

variable {port : SpiPort ω} {port' : SpiPort ω'} {x : Radio (Recorded ω) α} {y : Radio (Recorded ω') α}
  {f : α → Radio (Recorded ω) β} {g : α → Radio (Recorded ω') β}

lemma Mirrors.pure (a : α) : Mirrors port port' (Pure.pure a) (Pure.pure a) := by
  intro m b t hm ht
  obtain ⟨rfl, rfl⟩ : a = b ∧ m = t := by simpa using ht
  refine ⟨hm, [], (List.append_nil _).symm, fun m' w hm' hw => ?_⟩
  exact ⟨m', rfl, hm', hw, (List.append_nil _).symm⟩

lemma Mirrors.bind (hx : Mirrors port port' x y) (hf : ∀ a, Mirrors port port' (f a) (g a)) :
    Mirrors port port' (x >>= f) (y >>= g) := by
  intro m b u hm hu
  obtain ⟨a, t, hxm, hft⟩ := Prog.bind_ok.mp hu
  obtain ⟨ht, es, hlog, hy⟩ := hx m a t hm hxm
  obtain ⟨hu, es', hlog', hg⟩ := hf a t b u ht hft
  refine ⟨hu, es ++ es', by rw [hlog', hlog, List.append_assoc], fun m' w hm' hw => ?_⟩
  obtain ⟨w₁, hw₁, hw₂⟩ := hw.split
  obtain ⟨t', hyt, ht', rfl, hlog₁⟩ := hy m' w₁ hm' hw₁
  obtain ⟨u', hgu, hu', hwu, hlog₂⟩ := hg t' w ht' hw₂
  exact ⟨u', (Prog.bind_of_ok hyt).trans hgu, hu', hwu, by rw [hlog₂, hlog₁, List.append_assoc]⟩

lemma Mirrors.ite {c : Prop} [Decidable c] {x' : Radio (Recorded ω) α} {y' : Radio (Recorded ω') α}
    (hx : Mirrors port port' x y) (hy : Mirrors port port' x' y') :
    Mirrors port port' (if c then x else x') (if c then y else y') := by
  split_ifs
  · exact hx
  · exact hy

variable (hinit : port.initialized = port'.initialized)
include hinit

lemma Mirrors.write (reg : UInt8) (data : List UInt8) :
    Mirrors port port' (spiBurstWriteReg reg data) (spiBurstWriteReg reg data) := by
  intro m a t hm ht
  rw [recorded_write hm] at ht
  split_ifs at ht with hoff
  · obtain ⟨rfl, rfl⟩ : Sx127xErr.sxUnitUnitialized = a ∧ m = t := by simpa using ht
    refine ⟨hm, [], (List.append_nil _).symm, fun m' w hm' hw => ⟨m', ?_, hm', hw, (List.append_nil _).symm⟩⟩
    rw [recorded_write hm', if_pos (hinit.symm.trans hoff)]
  · obtain ⟨rfl, rfl⟩ : _ = a ∧ _ = t := by simpa using ht
    refine ⟨hm, _, accessed_log, fun m' w hm' hw => ?_⟩
    obtain ⟨hret, rfl⟩ : (port'.writer reg data m'.world.world).1 = (port.writer reg data m.world.world).1 ∧
      (port'.writer reg data m'.world.world).2 = w := hw
    refine ⟨m'.accessed _ _, ?_, hm', rfl, accessed_log⟩
    rw [recorded_write hm', if_neg (by rwa [← hinit]), hret]

lemma Mirrors.read (reg : UInt8) (len : ℕ) :
    Mirrors port port' (spiBurstReadReg reg len) (spiBurstReadReg reg len) := by
  intro m a t hm ht
  rw [recorded_read hm] at ht
  split_ifs at ht with hoff
  · obtain ⟨rfl, rfl⟩ : (Sx127xErr.sxUnitUnitialized, []) = a ∧ m = t := by simpa using ht
    refine ⟨hm, [], (List.append_nil _).symm, fun m' w hm' hw => ⟨m', ?_, hm', hw, (List.append_nil _).symm⟩⟩
    rw [recorded_read hm', if_pos (hinit.symm.trans hoff)]
  · obtain ⟨rfl, rfl⟩ : _ = a ∧ _ = t := by simpa using ht
    refine ⟨hm, _, accessed_log, fun m' w hm' hw => ?_⟩
    obtain ⟨hret, rfl⟩ : (port'.reader reg len m'.world.world).1 = (port.reader reg len m.world.world).1 ∧
      (port'.reader reg len m'.world.world).2 = w := hw
    refine ⟨m'.accessed _ _, ?_, hm', rfl, accessed_log⟩
    rw [recorded_read hm', if_neg (by rwa [← hinit]), hret]

lemma Mirrors.readByte (reg data : UInt8) :
    Mirrors port port' (spiReadByte reg data) (spiReadByte reg data) :=
  .bind (.read hinit reg 1) fun _ => .pure _

lemma clearIrq_mirrors : Mirrors port port' sx1278ClearIrq sx1278ClearIrq := .write hinit _ _

lemma readLastPayload_mirrors : Mirrors port port' sx1278ReadLastPayload sx1278ReadLastPayload := by
  have hclear : ∀ payload : PayloadRead, Mirrors port port' (sx1278ClearIrq >>= fun _ => Pure.pure payload)
      (sx1278ClearIrq >>= fun _ => Pure.pure payload) :=
    fun payload => .bind (clearIrq_mirrors hinit) fun _ => .pure payload
  refine .bind (.write hinit _ _) fun ret => .ite (.pure _) ?_
  refine .bind (.readByte hinit _ _) fun irq => .ite (.pure _) ?_
  refine .ite (hclear _) (.ite (hclear _) ?_)
  refine .bind (.readByte hinit _ _) fun count => .bind (.readByte hinit _ _) fun addr => ?_
  refine .ite (hclear _) (.bind (.write hinit _ _) fun ret => .ite (hclear _) ?_)
  exact .bind (.read hinit _ _) fun fifo => .ite (hclear _) (hclear _)

end Rules

/-- The node behind a history of reads, with what each of them returned. Everything else that happens,
in the hardware or in other functions, leaves the buffer of `read_last_packet` alone. -/
inductive ReadHistory {σ : Type} (d : Driver σ) : List (Sx127xErr × Packet) → Node σ → Prop
  | start (radio : σ) : ReadHistory d [] ⟨radio, zeroBuffer⟩
  | call {h n out n'} : ReadHistory d h n → readLastPacket d n = .ok (out, n') →
      ReadHistory d (h ++ [out]) n'
  | other {h n} (radio : σ) : ReadHistory d h n → ReadHistory d h ⟨radio, n.rxBuffer⟩

lemma ReadHistory.cleared {σ : Type} {d : Driver σ} {h : List (Sx127xErr × Packet)} {n : Node σ}
    (hn : ReadHistory d h n) : n.rxBuffer = zeroBuffer := by
  induction hn with
  | start radio => rfl
  | call hn hcall ih =>
    obtain ⟨payload, radio, e, -, -, hzero, -⟩ := readLastPacket_ok.mp hcall
    exact hzero
  | other radio hn ih => exact ih

def completed (stored : List (Option UInt8)) : ℕ → UInt8 := fun i => (stored[i]?.join).getD 0

lemma rxMemory_zero (stored : List (Option UInt8)) (behind : ℕ → UInt8) {i : ℕ} (hi : i < 255) :
    rxMemory (zeroBuffer.overwrite stored) behind i = completed stored i := by
  simp [rxMemory, RxBuffer.overwrite, zeroBuffer, completed, hi]

lemma parsePacket_congr {mem mem' : ℕ → UInt8} (hmem : ∀ i < 255, mem i = mem' i)
    (hlen : (parsePacket mem).2.payloadLength.toNat ≤ 248) : parsePacket mem' = parsePacket mem := by
  have hpacket : parsePacket mem' =
      (((overhead + (parsePacket mem).2.payloadLength.toNat : ℕ) : ℤ), (parsePacket mem).2) := by
    apply parsePacket_encode
    intro i hi
    have hbytes := encode_parsePacket mem
    have hlt : i < 255 := by
      rw [encode_length, overhead, addrLength] at hi
      omega
    simp only [hbytes, memcpy, List.getElem_map, List.getElem_range]
    exact (hmem i hlt).symm
  rw [hpacket, ← parsePacket_size]

theorem read_last_packet_forgets {port : SpiPort ω} {port' : SpiPort ω'} {fuel fuel' : ℕ}
    {behind : Machine (Recorded ω) → ℕ → UInt8} {behind' : Machine (Recorded ω') → ℕ → UInt8}
    {h h' : List (Sx127xErr × Packet)} {n : Node (Machine (Recorded ω))} {n' : Node (Machine (Recorded ω'))}
    (hn : ReadHistory (sx127xDriver fuel behind) h n) (hn' : ReadHistory (sx127xDriver fuel' behind') h' n')
    (hport : n.radio.sx127xSpiPort = port.recorded) (hport' : n'.radio.sx127xSpiPort = port'.recorded)
    (hinit : port.initialized = port'.initialized) :
    n.rxBuffer = zeroBuffer ∧ n'.rxBuffer = zeroBuffer ∧
      ∃ ret p t es, readLastPacket (sx127xDriver fuel behind) n = .ok ((ret, p), t) ∧
        t.radio.world.log = n.radio.world.log ++ es ∧
        (p.payloadLength.toNat ≤ 248 →
          (∃ payload radio, sx1278ReadLastPayload n.radio = .ok (payload, radio) ∧
            p = (parsePacket (completed payload.stored)).2) ∧
          ∀ w, Replays port' n'.radio.world.world es w →
            ∃ t', readLastPacket (sx127xDriver fuel' behind') n' = .ok ((ret, p), t') ∧
              t'.radio.world.log = n'.radio.world.log ++ es) := by
  refine ⟨hn.cleared, hn'.cleared, ?_⟩
  obtain ⟨payload, radio, hread⟩ := readLastPayload_returns n.radio
  obtain ⟨e, u, hclear⟩ : ∃ e u, sx1278ClearIrq radio = .ok (e, u) := ⟨_, _, rfl⟩
  obtain ⟨hradio, es₁, hlog₁, hread'⟩ := readLastPayload_mirrors hinit _ _ _ hport hread
  obtain ⟨-, es₂, hlog₂, hclear'⟩ := clearIrq_mirrors hinit _ _ _ hradio hclear
  let mem := rxMemory (n.rxBuffer.overwrite payload.stored) (behind radio)
  have hrun : readLastPacket (sx127xDriver fuel behind) n =
      .ok ((.sxOk, (parsePacket mem).2), ⟨u, zeroBuffer⟩) :=
    readLastPacket_ok.mpr ⟨payload, radio, e, hread, hclear, rfl, rfl, rfl⟩
  have hbytes : ∀ i < 255, mem i = completed payload.stored i := by
    intro i hi
    simp only [mem, hn.cleared]
    exact rxMemory_zero _ _ hi
  refine ⟨.sxOk, (parsePacket mem).2, ⟨u, zeroBuffer⟩, es₁ ++ es₂, hrun, ?_, fun hlen => ?_⟩
  · rw [hlog₂, hlog₁, List.append_assoc]
  refine ⟨⟨payload, radio, hread, by rw [parsePacket_congr hbytes hlen]⟩, fun w hw => ?_⟩
  obtain ⟨w₁, hw₁, hw₂⟩ := hw.split
  obtain ⟨radio', hrun', hradio', rfl, hlog₁'⟩ := hread' n'.radio w₁ hport' hw₁
  obtain ⟨u', hclear', -, -, hlog₂'⟩ := hclear' radio' w hradio' hw₂
  refine ⟨⟨u', zeroBuffer⟩, readLastPacket_ok.mpr ⟨payload, radio', e, hrun', hclear', rfl, rfl, ?_⟩,
    by rw [hlog₂', hlog₁', List.append_assoc]⟩
  have hsame : parsePacket (rxMemory (n'.rxBuffer.overwrite payload.stored) (behind' radio')) =
      parsePacket mem := by
    apply parsePacket_congr _ hlen
    intro i hi
    rw [hn'.cleared, hbytes i hi, rxMemory_zero _ _ hi]
  exact congrArg Prod.snd hsame.symm

def received (count byte : UInt8) : Machine (Recorded Chip) :=
  let m := frameWaiting fun _ => .sxOk
  { m with
    world :=
      { m.world with
        world :=
          { m.world.world with
            regs := fun reg => if reg = 0x12 then irqRxDone else if reg = 0x13 then count else 0
            fifo := fun _ => byte } } }

theorem read_last_packet_forgets_longer :
    let d := sx127xDriver (ω := Recorded Chip) 0 fun _ _ => 0
    ∃ out n p t t', readLastPacket d ⟨received 16 9, zeroBuffer⟩ = .ok (out, n) ∧
      readLastPacket d ⟨received 7 3, n.rxBuffer⟩ = .ok ((.sxOk, p), t) ∧
      readLastPacket d ⟨received 7 3, zeroBuffer⟩ = .ok ((.sxOk, p), t') ∧ p.payload = [0, 0, 0] := by
  intro d
  obtain ⟨payload, radio, hfirst⟩ := readLastPayload_returns (received 16 9)
  obtain ⟨e, u, hclear⟩ : ∃ e u, sx1278ClearIrq radio = .ok (e, u) := ⟨_, _, rfl⟩
  have hlonger : readLastPacket d ⟨received 16 9, zeroBuffer⟩ = .ok (_, ⟨u, zeroBuffer⟩) :=
    readLastPacket_ok.mpr ⟨payload, radio, e, hfirst, hclear, rfl, rfl, rfl⟩
  have hhistory := (ReadHistory.call (.start (received 16 9)) hlonger).other (received 7 3)
  have hfresh : ReadHistory d [] ⟨received 7 3, zeroBuffer⟩ := .start _
  have hport : (received 7 3).sx127xSpiPort = (Chip.port true).recorded := rfl
  obtain ⟨-, -, ret, p, ⟨last, buf⟩, es, hrun, hlog, hsame⟩ :=
    read_last_packet_forgets hhistory hfresh hport hport rfl
  obtain ⟨payload', radio', e', hread, hclear', -, rfl, hp⟩ := readLastPacket_ok.mp hrun
  have hshort : sx1278ReadLastPayload (received 7 3) =
    .ok (⟨.sxOk, List.replicate 7 (some 3), some 7⟩, _) := rfl
  cases hshort.symm.trans hread
  cases hclear'
  obtain rfl := hlog
  have hmem : ∀ i < 255, completed (List.replicate 7 (some 3)) i =
      rxMemory (zeroBuffer.overwrite (List.replicate 7 (some 3))) (fun _ => 0) i :=
    fun i hi => (rxMemory_zero _ _ hi).symm
  have hpacket : p = (parsePacket (completed (List.replicate 7 (some 3)))).2 :=
    hp.trans (congrArg Prod.snd (parsePacket_congr hmem (by decide)))
  rw [hpacket] at hsame hrun
  obtain ⟨-, hreplay⟩ := hsame (by decide)
  obtain ⟨t', hrun', -⟩ := hreplay _ ⟨rfl, rfl, rfl, rfl, rfl, rfl, rfl, rfl, rfl⟩
  exact ⟨_, _, _, _, t', hlonger, hrun, hrun', by decide⟩

end LoraNetworking
