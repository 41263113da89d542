import LoraNetworking.Lib.Prog

/-! Packets, their classification and their wire format (`packet.c`). -/

namespace LoraNetworking

open StateProg

def addrLength : ℕ := 2

def overhead : ℕ := 2 * addrLength + 1 + 1 + 1

def payloadLengthMax : ℕ := 8

inductive PacketTypes
  | packetAck
  | packetBegin
  | packetEnd
  | packetData
  deriving DecidableEq, Repr

/-- The payload buffer holds exactly the bytes that `payload_length` announces; a null
payload is the empty one. -/
@[ext] structure Packet where
  destAddress : UInt16
  srcAddress : UInt16
  ackId : UInt8
  sequenceNumber : UInt8
  payloadLength : UInt8
  payload : List UInt8
  payload_length_eq : payload.length = payloadLength.toNat
  deriving DecidableEq

def memcpy (src : ℕ → UInt8) (n : ℕ) : List UInt8 := (List.range n).map src

@[simp] lemma memcpy_length (src : ℕ → UInt8) (n : ℕ) : (memcpy src n).length = n := by
  simp [memcpy]

def offset (src : ℕ → UInt8) (i : ℕ) : ℕ → UInt8 := fun k => src (i + k)

def u16ConvBe (x : UInt16) : List UInt8 := [(x >>> 8).toUInt8, x.toUInt8]

def readU16Be (src : ℕ → UInt8) : UInt16 := ((src 0).toUInt16 <<< 8) ||| (src 1).toUInt16

def checkPacketType (p : Packet) : PacketTypes :=
  if p.sequenceNumber = 0 ∧ p.payloadLength = 0 then .packetBegin
  else if p.sequenceNumber = 255 ∧ p.payloadLength = 0 then .packetEnd
  else if p.payloadLength = 0 then .packetAck
  else .packetData

def checkPacketFeatures (p : Packet) (srcAddr destAddr : UInt16) (ackId sequenceNumber : UInt8)
    (packetType : PacketTypes) : Bool :=
  if p.srcAddress ≠ srcAddr then false
  else if p.destAddress ≠ destAddr then false
  else if p.ackId ≠ ackId then false
  else if p.sequenceNumber ≠ sequenceNumber then false
  else if checkPacketType p ≠ packetType then false
  else true

/-- The text goes into a buffer that no caller reads. What is left of the function is the
nine-byte `str`, which has to hold the payload and its terminator. -/
def packetDescription (p : Packet) : Except Stop (List UInt8) :=
  if p.payloadLength.toNat < 9 then .ok (p.payload ++ [0]) else .error .undefined

def copyPacket (p : Packet) : Packet :=
  { p with
    payload := p.payload.take p.payloadLength.toNat
    payload_length_eq := by simp [p.payload_length_eq] }

def packetConstructor (destAddress srcAddress : UInt16) (ackId sequenceNumber payloadLength : UInt8)
    (payload : List UInt8) (h : payload.length = payloadLength.toNat) : Option Packet :=
  if payloadLength.toNat > payloadLengthMax then none
  else some ⟨destAddress, srcAddress, ackId, sequenceNumber, payloadLength, payload, h⟩

def ackPacket (destAddress srcAddress : UInt16) (ackId sequenceNumber : UInt8) : Option Packet :=
  packetConstructor destAddress srcAddress ackId sequenceNumber 0 [] rfl

/-- `packetDataRaw` is the memory behind the pointer: the length of the received frame is
not an argument of the source. -/
def parsePacket (packetDataRaw : ℕ → UInt8) : ℤ × Packet :=
  let idx := 0
  let destAddr := readU16Be (offset packetDataRaw idx)
  let idx := idx + addrLength
  let srcAddr := readU16Be (offset packetDataRaw idx)
  let idx := idx + addrLength
  let ackId := packetDataRaw idx
  let idx := idx + 1
  let sequenceNumber := packetDataRaw idx
  let idx := idx + 1
  let payloadLength := packetDataRaw idx
  let idx := idx + 1
  let payload := memcpy (offset packetDataRaw idx) payloadLength.toNat
  let idx := idx + payloadLength.toNat
  (idx, ⟨destAddr, srcAddr, ackId, sequenceNumber, payloadLength, payload, by simp [payload]⟩)

def writeAt (buffer : List UInt8) (idx : ℕ) (bytes : List UInt8) : List UInt8 :=
  buffer.take idx ++ bytes ++ buffer.drop (idx + bytes.length)

def packetToBytestream (buffer : List UInt8) (bufferSize : ℕ) (pkt : Packet) : ℤ × List UInt8 :=
  if bufferSize < overhead + pkt.payloadLength.toNat then (-1, buffer)
  else
    let idx := 0
    let buffer := writeAt buffer idx (u16ConvBe pkt.destAddress)
    let idx := idx + 2
    let buffer := writeAt buffer idx (u16ConvBe pkt.srcAddress)
    let idx := idx + 2
    let buffer := writeAt buffer idx [pkt.ackId]
    let idx := idx + 1
    let buffer := writeAt buffer idx [pkt.sequenceNumber]
    let idx := idx + 1
    let buffer := writeAt buffer idx [pkt.payloadLength]
    let idx := idx + 1
    let buffer := writeAt buffer idx (pkt.payload.take pkt.payloadLength.toNat)
    let idx := idx + pkt.payloadLength.toNat
    (idx, buffer)

@[simp] lemma copyPacket_eq (p : Packet) : copyPacket p = p := by
  have h : p.payload.take p.payloadLength.toNat = p.payload := by
    rw [← p.payload_length_eq, List.take_length]
  exact Packet.ext rfl rfl rfl rfl rfl h

lemma payload_eq_nil_iff (p : Packet) : p.payload = [] ↔ p.payloadLength = 0 := by
  rw [← List.length_eq_zero_iff, p.payload_length_eq]
  exact UInt8.toNat_inj (b := 0)

lemma checkPacketType_data (p : Packet) : checkPacketType p = .packetData ↔ p.payloadLength ≠ 0 := by
  simp only [checkPacketType]
  split_ifs with hb he ha <;> simp_all

lemma checkPacketFeatures_iff (p : Packet) (srcAddr destAddr : UInt16) (ackId sequenceNumber : UInt8)
    (packetType : PacketTypes) :
    checkPacketFeatures p srcAddr destAddr ackId sequenceNumber packetType = true ↔
      p.srcAddress = srcAddr ∧ p.destAddress = destAddr ∧ p.ackId = ackId ∧
        p.sequenceNumber = sequenceNumber ∧ checkPacketType p = packetType := by
  simp only [checkPacketFeatures]
  split_ifs <;> simp_all

lemma packetDescription_ok (p : Packet) (h : p.payloadLength.toNat ≤ payloadLengthMax) :
    packetDescription p = .ok (p.payload ++ [0]) := by
  have hlt : p.payloadLength.toNat < 9 := by simp only [payloadLengthMax] at h; omega
  simp [packetDescription, hlt]

lemma packetDescription_long (p : Packet) (h : ¬ p.payloadLength.toNat ≤ payloadLengthMax) :
    packetDescription p = .error .undefined := by
  have hlt : ¬ p.payloadLength.toNat < 9 := by simp only [payloadLengthMax] at h; omega
  simp [packetDescription, hlt]

def emptyPacket (destAddress srcAddress : UInt16) (ackId sequenceNumber : UInt8) : Packet :=
  ⟨destAddress, srcAddress, ackId, sequenceNumber, 0, [], rfl⟩

lemma ackPacket_eq (destAddress srcAddress : UInt16) (ackId sequenceNumber : UInt8) :
    ackPacket destAddress srcAddress ackId sequenceNumber =
      some (emptyPacket destAddress srcAddress ackId sequenceNumber) := by
  simp [ackPacket, packetConstructor, emptyPacket]

lemma eq_emptyPacket (p : Packet) (h : p.payloadLength = 0) :
    p = emptyPacket p.destAddress p.srcAddress p.ackId p.sequenceNumber :=
  Packet.ext rfl rfl rfl rfl h ((payload_eq_nil_iff p).mpr h)

def encode (p : Packet) : List UInt8 :=
  u16ConvBe p.destAddress ++ u16ConvBe p.srcAddress ++
    [p.ackId, p.sequenceNumber, p.payloadLength] ++ p.payload

@[simp] lemma encode_length (p : Packet) : (encode p).length = overhead + p.payloadLength.toNat := by
  simp [encode, u16ConvBe, overhead, addrLength, p.payload_length_eq]
  omega

lemma readU16Be_toNat (src : ℕ → UInt8) :
    (readU16Be src).toNat = (src 0).toNat * 256 + (src 1).toNat := by
  have h₀ := (src 0).toNat_lt
  have h₁ := (src 1).toNat_lt
  have hshift : (src 0).toNat <<< 8 % 65536 = (src 0).toNat <<< 8 := by
    rw [Nat.shiftLeft_eq]
    omega
  have hor := Nat.shiftLeft_add_eq_or_of_lt (i := 8) (b := (src 1).toNat) (by omega) (src 0).toNat
  simp only [readU16Be, UInt16.toNat_or, UInt16.toNat_shiftLeft, UInt8.toNat_toUInt16,
    UInt16.reduceToNat, Nat.reduceMod, Nat.reducePow, hshift, ← hor]
  rw [Nat.shiftLeft_eq]

lemma u16ConvBe_toNat (x : UInt16) :
    (x >>> 8).toUInt8.toNat = x.toNat / 256 ∧ x.toUInt8.toNat = x.toNat % 256 := by
  have hx := x.toNat_lt
  simp only [UInt16.toNat_toUInt8, UInt16.toNat_shiftRight, UInt16.reduceToNat, Nat.reduceMod,
    Nat.shiftRight_eq_div_pow, Nat.reducePow, and_true]
  omega

lemma readU16Be_u16ConvBe (x : UInt16) {src : ℕ → UInt8}
    (h₀ : src 0 = (x >>> 8).toUInt8) (h₁ : src 1 = x.toUInt8) : readU16Be src = x := by
  obtain ⟨hhigh, hlow⟩ := u16ConvBe_toNat x
  rw [← UInt16.toNat_inj, readU16Be_toNat, h₀, h₁, hhigh, hlow]
  omega

lemma u16ConvBe_readU16Be (src : ℕ → UInt8) : u16ConvBe (readU16Be src) = [src 0, src 1] := by
  have h₀ := (src 0).toNat_lt
  have h₁ := (src 1).toNat_lt
  obtain ⟨hhigh, hlow⟩ := u16ConvBe_toNat (readU16Be src)
  rw [readU16Be_toNat] at hhigh hlow
  simp only [u16ConvBe, List.cons.injEq, and_true, ← UInt8.toNat_inj, hhigh, hlow]
  omega

lemma memcpy_succ (src : ℕ → UInt8) (n : ℕ) :
    memcpy src (n + 1) = src 0 :: memcpy (offset src 1) n := by
  simp only [memcpy, List.range_succ_eq_map, List.map_cons, List.map_map]
  congr 1
  apply List.map_congr_left
  intro i _
  simp [offset, Nat.add_comm]

lemma offset_offset (src : ℕ → UInt8) (i j : ℕ) : offset (offset src i) j = offset src (i + j) := by
  funext k
  simp [offset, Nat.add_assoc]

lemma parsePacket_size (mem : ℕ → UInt8) :
    (parsePacket mem).1 = ((overhead + (parsePacket mem).2.payloadLength.toNat : ℕ) : ℤ) := by
  simp [parsePacket, overhead, addrLength]

lemma encode_parsePacket (mem : ℕ → UInt8) :
    encode (parsePacket mem).2 = memcpy mem (overhead + (parsePacket mem).2.payloadLength.toNat) := by
  rw [Nat.add_comm]
  simp only [parsePacket, encode, addrLength, overhead, u16ConvBe_readU16Be]
  simp only [memcpy_succ, Nat.reduceAdd, Nat.reduceMul, offset_offset]
  simp [offset]

lemma parsePacket_encode (p : Packet) {mem : ℕ → UInt8}
    (h : ∀ i (hi : i < (encode p).length), mem i = (encode p)[i]) :
    parsePacket mem = (((overhead + p.payloadLength.toNat : ℕ) : ℤ), p) := by
  have hlen := encode_length p
  have hbyte : ∀ i (hi : i < overhead), mem i = (encode p).get ⟨i, by omega⟩ :=
    fun i hi => h i (by omega)
  simp only [overhead, addrLength] at hlen hbyte
  have hdest : readU16Be (offset mem 0) = p.destAddress :=
    readU16Be_u16ConvBe _ (hbyte 0 (by omega)) (hbyte 1 (by omega))
  have hsrc : readU16Be (offset mem 2) = p.srcAddress :=
    readU16Be_u16ConvBe _ (hbyte 2 (by omega)) (hbyte 3 (by omega))
  have hack : mem 4 = p.ackId := hbyte 4 (by omega)
  have hseq : mem 5 = p.sequenceNumber := hbyte 5 (by omega)
  have hplen : mem 6 = p.payloadLength := hbyte 6 (by omega)
  have hpay : memcpy (offset mem 7) p.payloadLength.toNat = p.payload := by
    apply List.ext_getElem
    · simp [p.payload_length_eq]
    · intro i hi hi'
      have hm := h (i + 7) (by rw [memcpy_length] at hi; omega)
      simpa [memcpy, offset, encode, u16ConvBe, Nat.add_comm 7 i] using hm
  simp only [parsePacket, addrLength, hack, hseq, Nat.zero_add, Nat.reduceAdd, hdest, hsrc]
  refine Prod.ext ?_ (Packet.ext rfl rfl rfl rfl hplen ?_)
  · simp [hplen, overhead, addrLength]
  · simpa [hplen] using hpay

lemma writeAt_append {d r b : List UInt8} {i : ℕ} (h : d.length = i) :
    writeAt (d ++ r) i b = d ++ b ++ r.drop b.length := by
  subst h
  simp [writeAt, List.drop_append]

lemma packetToBytestream_ok (buffer : List UInt8) (bufferSize : ℕ) (p : Packet)
    (h : overhead + p.payloadLength.toNat ≤ bufferSize) :
    packetToBytestream buffer bufferSize p =
      (((overhead + p.payloadLength.toNat : ℕ) : ℤ),
        encode p ++ buffer.drop (overhead + p.payloadLength.toNat)) := by
  have hpay : p.payload.take p.payloadLength.toNat = p.payload := by
    rw [← p.payload_length_eq, List.take_length]
  have h₁ : writeAt buffer 0 (u16ConvBe p.destAddress) = u16ConvBe p.destAddress ++ buffer.drop 2 :=
    writeAt_append (d := []) rfl
  rw [packetToBytestream, if_neg (by omega)]
  simp only [Nat.zero_add, Nat.reduceAdd, hpay, h₁]
  rw [writeAt_append (i := 2) rfl, writeAt_append (i := 4) rfl, writeAt_append (i := 5) rfl,
    writeAt_append (i := 6) rfl, writeAt_append (i := 7) rfl]
  simp [encode, u16ConvBe, overhead, addrLength, List.drop_drop, p.payload_length_eq]

end LoraNetworking
