import LoraNetworking.Sx127xUtils

/-! Received frames and the packets made of them: `parse_packet` is not told the length of
the frame, so it keeps to the frame exactly when the frame keeps to the format. -/

namespace LoraNetworking

open StateProg

def FrameWellFormed (frame : List UInt8) : Prop :=
  overhead ≤ frame.length ∧ (frame.getD 6 0).toNat ≤ payloadLengthMax ∧
    overhead + (frame.getD 6 0).toNat ≤ frame.length

instance (frame : List UInt8) : Decidable (FrameWellFormed frame) :=
  inferInstanceAs (Decidable (_ ∧ _ ∧ _))

/-- Only well-formed frames become packets, and these hold bytes of the frame alone. -/
structure ParserContract (frame : List UInt8) (ret : Sx127xErr) (p : Packet) : Prop where
  accepts : ret = .sxOk → FrameWellFormed frame
  refuses : ¬ FrameWellFormed frame → ret = .sxInvalidState
  inside : ret = .sxOk → encode p = frame.take (overhead + p.payloadLength.toNat)
  bounded : ret = .sxOk → p.payloadLength.toNat ≤ payloadLengthMax

section Memory

variable {frame : List UInt8} {mem : ℕ → UInt8}

lemma memcpy_frame (hmem : ∀ i (hi : i < frame.length), mem i = frame[i]) {n : ℕ}
    (hn : n ≤ frame.length) : memcpy mem n = frame.take n := by
  apply List.ext_getElem
  · simpa using hn
  · intro i hi hi'
    rw [memcpy_length] at hi
    simpa [memcpy] using hmem i (hi.trans_le hn)

lemma parsePacket_length (hmem : ∀ i (hi : i < frame.length), mem i = frame[i])
    (hframe : overhead ≤ frame.length) :
    (parsePacket mem).2.payloadLength = frame.getD 6 0 := by
  have hlt : 6 < frame.length := hframe
  have hbyte : frame.getD 6 0 = frame[6] := by simp [List.getD, hlt]
  rw [hbyte, ← hmem 6 hlt]
  rfl

end Memory

theorem parser_contract_iff {σ : Type} (d : Driver σ) (n n' : Node σ) (frame : List UInt8)
    (radio : σ) (ret : Sx127xErr) (p : Packet) (hmax : frame.length ≤ 255)
    (hread : d.readLastPayload n.radio = .ok (⟨.sxOk, frame.map some, some frame.length⟩, radio))
    (hrun : readLastPacket d n = .ok ((ret, p), n')) :
    ParserContract frame ret p ↔ FrameWellFormed frame := by
  obtain ⟨payload, radio', e, hpayload, -, -, rfl, rfl⟩ := readLastPacket_ok.mp hrun
  obtain ⟨rfl, rfl⟩ : payload = ⟨.sxOk, frame.map some, some frame.length⟩ ∧ radio' = radio := by
    simpa [hread, eq_comm] using hpayload
  refine ⟨fun h => h.accepts rfl, fun hwf => ?_⟩
  have hmem := fun i hi => rxMemory_overwrite n.rxBuffer (d.behindRxBuffer radio') hmax (i := i) hi
  have ⟨hheader, hbound, hinside⟩ := hwf
  have hlen := parsePacket_length hmem hheader
  refine ⟨fun _ => hwf, fun h => absurd hwf h, fun _ => ?_, fun _ => ?_⟩
  · rw [encode_parsePacket, hlen, memcpy_frame hmem hinside]
  · rw [hlen]
    exact hbound

def frameDriver : Driver (List UInt8) where
  switchMode _ := pure .sxOk
  clearIrq := pure .sxOk
  pollForIrqFlag _ _ _ _ := pure .sxOk
  pollForIrqFlagNoTimeout _ _ _ := pure .sxOk
  readLastPayload := Prog.step fun frame => (⟨.sxOk, frame.map some, some frame.length⟩, frame)
  sendPayload _ _ _ := pure .sxOk
  behindRxBuffer _ _ := 0

theorem parser_contract_iff_data :
    let frame : List UInt8 := [0, 1, 0, 2, 5, 1, 2, 65, 66]
    ∃ p n', readLastPacket frameDriver ⟨frame, zeroBuffer⟩ = .ok ((.sxOk, p), n') ∧
      ParserContract frame .sxOk p := by
  intro frame
  have hrun : readLastPacket frameDriver ⟨frame, zeroBuffer⟩ = .ok ((.sxOk, _), ⟨frame, zeroBuffer⟩) :=
    readLastPacket_ok.mpr ⟨_, _, _, rfl, rfl, rfl, rfl, rfl⟩
  exact ⟨_, _, hrun, (parser_contract_iff frameDriver ⟨frame, zeroBuffer⟩ _ frame frame _ _ (by decide) rfl
    hrun).mpr (by decide)⟩

theorem parser_contract_overlong :
    let frame : List UInt8 := [0, 1, 0, 2, 5, 1, 255]
    ∃ p n', readLastPacket frameDriver ⟨frame, zeroBuffer⟩ = .ok ((.sxOk, p), n') ∧
      p.payload.length = 255 ∧ ¬ ParserContract frame .sxOk p := by
  intro frame
  refine ⟨_, ⟨frame, zeroBuffer⟩, readLastPacket_ok.mpr ⟨_, _, _, rfl, rfl, rfl, rfl, rfl⟩, ?_, fun h => ?_⟩
  · have hmem := fun i hi => rxMemory_overwrite zeroBuffer (fun _ => 0) (i := i) (show frame.length ≤ 255 by decide) hi
    rw [Packet.payload_length_eq]
    exact congrArg UInt8.toNat (parsePacket_length hmem (by decide))
  · exact absurd (h.accepts rfl) (by decide)

end LoraNetworking
