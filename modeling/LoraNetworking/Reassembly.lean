import LoraNetworking.NetworkDataOperations

/-! Fragmentation and reassembly of whole blobs: `packet_array_to_data` gives back what
`data_to_packet_array` was given, whatever its length. -/

namespace LoraNetworking

structure Carries (destAddr srcAddr : UInt16) (ackId : UInt8) (p : Packet) : Prop where
  dest : p.destAddress = destAddr
  src : p.srcAddress = srcAddr
  ack : p.ackId = ackId

/-- `arr` is the array of the data packets `ps`, in a frame of BEGIN and END if handshakes are
included. -/
def FramedAs (destAddr srcAddr : UInt16) (ackId : UInt8) (includeHandshakes : Bool) (ps : List Packet)
    (arr : List (Option Packet)) : Prop :=
  if includeHandshakes then
    ∃ first last, checkPacketType first = .packetBegin ∧ checkPacketType last = .packetEnd ∧
      Carries destAddr srcAddr ackId first ∧ Carries destAddr srcAddr ackId last ∧
      arr = some first :: (ps.map some ++ [some last])
  else arr = ps.map some

section Fragments

variable {data : List UInt8} {destAddr srcAddr : UInt16} {ackId : UInt8} {seqOffset i : ℕ} {p : Packet}

lemma npackets_ceil (dataLen : ℕ) : npackets dataLen = ⌈(dataLen : ℚ) / payloadLengthMax⌉₊ := by
  rw [← Int.ceil_toNat, Rat.ceil_natCast_div_natCast]
  simp only [npackets, payloadLengthMax]
  omega

lemma dataPackets_get (h : (dataPackets data destAddr srcAddr ackId seqOffset)[i]? = some p) :
    i < npackets data.length ∧ p = fragment data destAddr srcAddr ackId seqOffset i := by
  have hi := (List.getElem?_eq_some_iff.mp h).1
  rw [dataPackets_length] at hi
  refine ⟨hi, ?_⟩
  simpa [dataPackets, hi, eq_comm] using h

lemma fragment_payloadLength :
    (fragment data destAddr srcAddr ackId seqOffset i).payloadLength.toNat =
      min (data.length - i * payloadLengthMax) payloadLengthMax :=
  (payloadSize_toNat _).trans (payloadSize_eq _)

lemma fragment_full (h : i + 1 < npackets data.length) :
    (fragment data destAddr srcAddr ackId seqOffset i).payloadLength.toNat = payloadLengthMax := by
  rw [fragment_payloadLength]
  simp only [npackets, payloadLengthMax] at h ⊢
  omega

lemma fragment_last (h : i < npackets data.length) :
    0 < (fragment data destAddr srcAddr ackId seqOffset i).payloadLength.toNat ∧
      (fragment data destAddr srcAddr ackId seqOffset i).payloadLength.toNat ≤ payloadLengthMax := by
  rw [fragment_payloadLength]
  simp only [npackets, payloadLengthMax] at h ⊢
  omega

lemma dataToPacketArray_unframed :
    dataToPacketArray true true data destAddr srcAddr ackId false =
      (0, (dataPackets data destAddr srcAddr ackId 0).map some) := by
  simp only [dataToPacketArray, Bool.true_eq_false, Bool.false_eq_true, if_false, loop_dataPackets]

lemma framedAs_framedBurst :
    FramedAs destAddr srcAddr ackId true (dataPackets data destAddr srcAddr ackId 1)
      ((framedBurst data destAddr srcAddr ackId).map some) := by
  refine ⟨emptyPacket destAddr srcAddr ackId 0, emptyPacket destAddr srcAddr ackId 255, rfl, rfl,
    ⟨rfl, rfl, rfl⟩, ⟨rfl, rfl, rfl⟩, ?_⟩
  simp [framedBurst]

end Fragments

theorem reassembly_undoes_fragmentation (data : List UInt8) (destAddr srcAddr : UInt16) (ackId : UInt8)
    (includeHandshakes : Bool) :
    ∃ arr ps, dataToPacketArray true true data destAddr srcAddr ackId includeHandshakes = (0, arr) ∧
      FramedAs destAddr srcAddr ackId includeHandshakes ps arr ∧
      ps.length = ⌈(data.length : ℚ) / payloadLengthMax⌉₊ ∧
      (∀ i p, ps[i]? = some p → Carries destAddr srcAddr ackId p ∧
        (i + 1 < ps.length → p.payloadLength.toNat = payloadLengthMax) ∧
        0 < p.payloadLength.toNat ∧ p.payloadLength.toNat ≤ payloadLengthMax) ∧
      packetArrayToData (ps.map some) = .ok data := by
  have hpackets : ∀ seqOffset, ∀ i p,
      (dataPackets data destAddr srcAddr ackId seqOffset)[i]? = some p →
        Carries destAddr srcAddr ackId p ∧
        (i + 1 < (dataPackets data destAddr srcAddr ackId seqOffset).length →
          p.payloadLength.toNat = payloadLengthMax) ∧
        0 < p.payloadLength.toNat ∧ p.payloadLength.toNat ≤ payloadLengthMax := by
    intro seqOffset i p hp
    obtain ⟨hi, rfl⟩ := dataPackets_get hp
    refine ⟨⟨rfl, rfl, rfl⟩, fun hnext => ?_, fragment_last hi⟩
    rw [dataPackets_length] at hnext
    exact fragment_full hnext
  have hlength : ∀ seqOffset, (dataPackets data destAddr srcAddr ackId seqOffset).length =
      ⌈(data.length : ℚ) / payloadLengthMax⌉₊ := by
    intro seqOffset
    rw [dataPackets_length, npackets_ceil]
  cases includeHandshakes with
  | true =>
    exact ⟨_, dataPackets data destAddr srcAddr ackId 1, dataToPacketArray_ok data destAddr srcAddr ackId,
      framedAs_framedBurst, hlength 1, hpackets 1, packetArrayToData_dataPackets _ _ _ _ _⟩
  | false =>
    exact ⟨_, dataPackets data destAddr srcAddr ackId 0, dataToPacketArray_unframed, rfl, hlength 0,
      hpackets 0, packetArrayToData_dataPackets _ _ _ _ _⟩

end LoraNetworking
