import LoraNetworking.Packet

/-! The wire format in both directions: what `packet_to_bytestream` writes is what
`parse_packet` reads, and a packet is told from its bytes. -/

namespace LoraNetworking

def StartsWith (mem : ℕ → UInt8) (bytes : List UInt8) : Prop :=
  ∀ i (hi : i < bytes.length), mem i = bytes[i]

def frameSize (p : Packet) : ℕ := overhead + p.payloadLength.toNat

def written (buffer : List UInt8) (bufferSize : ℕ) (p : Packet) : List UInt8 :=
  (packetToBytestream buffer bufferSize p).2.take (frameSize p)

section Wire

variable {mem : ℕ → UInt8} {bytes buffer : List UInt8} {bufferSize : ℕ} {p q : Packet}

lemma startsWith_getD (bytes : List UInt8) (rest : UInt8) :
    StartsWith (fun i => bytes.getD i rest) bytes := by
  intro i hi
  change bytes.getD i rest = bytes[i]
  rw [List.getD_eq_getElem?_getD, List.getElem?_eq_getElem hi, Option.getD_some]

lemma packetToBytestream_short (h : bufferSize < frameSize p) :
    packetToBytestream buffer bufferSize p = (-1, buffer) :=
  if_pos h

lemma packetToBytestream_fits (h : frameSize p ≤ bufferSize) :
    packetToBytestream buffer bufferSize p = ((frameSize p : ℤ), encode p ++ buffer.drop (frameSize p)) :=
  packetToBytestream_ok buffer bufferSize p h

lemma written_eq (h : frameSize p ≤ bufferSize) : written buffer bufferSize p = encode p := by
  rw [written, packetToBytestream_fits h]
  exact List.take_left' (encode_length p)

lemma packetToBytestream_fail_iff :
    (packetToBytestream buffer bufferSize p).1 = -1 ↔ bufferSize < frameSize p := by
  constructor
  · intro h
    by_contra hfits
    rw [packetToBytestream_fits (not_lt.mp hfits)] at h
    omega
  · intro h
    rw [packetToBytestream_short h]

lemma packetToBytestream_frame (h : frameSize p ≤ bufferSize) (hbuffer : bufferSize ≤ buffer.length) :
    (packetToBytestream buffer bufferSize p).2.length = buffer.length ∧
      (packetToBytestream buffer bufferSize p).2.drop (frameSize p) = buffer.drop (frameSize p) := by
  have hlen : (encode p).length = frameSize p := encode_length p
  rw [packetToBytestream_fits h]
  constructor
  · rw [List.length_append, hlen, List.length_drop]
    omega
  · exact List.drop_left' hlen

lemma StartsWith.memcpy (h : StartsWith mem bytes) {n : ℕ} (hn : n ≤ bytes.length) :
    memcpy mem n = bytes.take n := by
  apply List.ext_getElem
  · rw [memcpy_length, List.length_take]
    omega
  · intro i hi _
    rw [memcpy_length] at hi
    have hm := h i (by omega)
    simpa [LoraNetworking.memcpy] using hm

lemma parsePacket_written (h : frameSize p ≤ bufferSize)
    (hmem : StartsWith mem (written buffer bufferSize p)) :
    parsePacket mem = ((frameSize p : ℤ), p) := by
  rw [written_eq h] at hmem
  exact parsePacket_encode p hmem

lemma frameSize_parsePacket (hmem : StartsWith mem bytes) (h : 6 < bytes.length) :
    frameSize (parsePacket mem).2 = overhead + bytes[6].toNat := by
  rw [← hmem 6 h]
  rfl

lemma written_parsePacket (hmem : StartsWith mem bytes) (h : 6 < bytes.length)
    (hlen : overhead + bytes[6].toNat ≤ bytes.length) (hfits : overhead + bytes[6].toNat ≤ bufferSize) :
    written buffer bufferSize (parsePacket mem).2 = bytes.take (overhead + bytes[6].toNat) := by
  have hsize := frameSize_parsePacket hmem h
  rw [written_eq (by rwa [hsize]), encode_parsePacket]
  change memcpy mem (frameSize (parsePacket mem).2) = _
  rw [hsize]
  exact hmem.memcpy hlen

/-- The length byte sits at the same place in every frame, so that a frame says where it ends. -/
lemma encode_prefix_free (h : encode p <+: encode q) : p = q := by
  obtain ⟨rest, hrest⟩ := h
  let mem : ℕ → UInt8 := fun i => (encode q).getD i 0
  have hq : StartsWith mem (encode q) := startsWith_getD _ _
  have hp : StartsWith mem (encode p) := by
    intro i hi
    have hi' : i < (encode q).length := by
      rw [← hrest, List.length_append]
      omega
    rw [hq i hi']
    simp only [← hrest]
    exact List.getElem_append_left hi
  have hparse := (parsePacket_encode p hp).symm.trans (parsePacket_encode q hq)
  exact congrArg Prod.snd hparse

end Wire

theorem wire_format_round_trip :
    (∀ buffer bufferSize p, bufferSize ≤ buffer.length →
      let out := packetToBytestream buffer bufferSize p
      (out.1 = -1 ↔ bufferSize < frameSize p) ∧ (out.1 = -1 → out.2 = buffer) ∧
        (frameSize p ≤ bufferSize →
          out.1 = frameSize p ∧ out.2.length = buffer.length ∧
          out.2.drop (frameSize p) = buffer.drop (frameSize p) ∧
          ∀ mem, StartsWith mem (written buffer bufferSize p) → parsePacket mem = (out.1, p))) ∧
    (∀ (bytes : List UInt8) (h : 6 < bytes.length) mem buffer bufferSize,
      overhead + bytes[6].toNat ≤ bytes.length → StartsWith mem bytes →
      overhead + bytes[6].toNat ≤ bufferSize →
      written buffer bufferSize (parsePacket mem).2 = bytes.take (overhead + bytes[6].toNat)) ∧
    ∀ buffer bufferSize p buffer' bufferSize' q, frameSize p ≤ bufferSize → frameSize q ≤ bufferSize' →
      written buffer bufferSize p <+: written buffer' bufferSize' q → p = q := by
  refine ⟨?_, ?_, ?_⟩
  · intro buffer bufferSize p hbuffer out
    refine ⟨packetToBytestream_fail_iff, fun hfail => ?_, fun hfits => ?_⟩
    · have hshort : packetToBytestream buffer bufferSize p = (-1, buffer) :=
        packetToBytestream_short (packetToBytestream_fail_iff.mp hfail)
      exact congrArg Prod.snd hshort
    · have hsize : out.1 = (frameSize p : ℤ) := congrArg Prod.fst (packetToBytestream_fits hfits)
      obtain ⟨hlen, hdrop⟩ := packetToBytestream_frame hfits hbuffer
      refine ⟨hsize, hlen, hdrop, fun mem hmem => ?_⟩
      rw [hsize]
      exact parsePacket_written hfits hmem
  · intro bytes h mem buffer bufferSize hlen hmem hfits
    exact written_parsePacket hmem h hlen hfits
  · intro buffer bufferSize p buffer' bufferSize' q hp hq hprefix
    rw [written_eq hp, written_eq hq] at hprefix
    exact encode_prefix_free hprefix

theorem wire_format_round_trip_data :
    let p : Packet := ⟨1, 2, 5, 1, 2, [65, 66], rfl⟩
    let buffer : List UInt8 := List.replicate 12 7
    let bytes : List UInt8 := [0, 1, 0, 2, 5, 1, 2, 65, 66, 9]
    parsePacket (fun i => (written buffer 10 p).getD i 255) = (9, p) ∧
      written buffer 10 (parsePacket fun i => bytes.getD i 255).2 = bytes.take 9 ∧
      ∀ q, written buffer 9 q = written buffer 10 p → frameSize q ≤ 9 → q = p := by
  intro p buffer bytes
  obtain ⟨hforward, hback, hfree⟩ := wire_format_round_trip
  refine ⟨?_, ?_, fun q hq hfits => ?_⟩
  · obtain ⟨-, -, hfits⟩ := hforward buffer 10 p (by decide)
    obtain ⟨hsize, -, -, hparse⟩ := hfits (by decide)
    rw [hparse _ (startsWith_getD _ 255), hsize]
    rfl
  · exact hback bytes (by decide) _ buffer 10 (by decide) (startsWith_getD bytes 255) (by decide)
  · exact hfree buffer 9 q buffer 10 p hfits (by decide) (by rw [hq])

end LoraNetworking
