import LoraNetworking.Packet

/-! Fragmentation and reassembly (`network_data_operations.c`). -/

namespace LoraNetworking

open StateProg

def packetArrayToData : List (Option Packet) → Except Stop (List UInt8)
  | [] => .ok []
  | none :: _ => .error .undefined
  | some p :: pBuf => do
    let _ ← packetDescription p
    let rest ← packetArrayToData pBuf
    return p.payload.take p.payloadLength.toNat ++ rest

def payloadSize (bytesLeft : ℕ) : ℕ :=
  if bytesLeft < payloadLengthMax then bytesLeft else payloadLengthMax

lemma payloadSize_eq (bytesLeft : ℕ) : payloadSize bytesLeft = min bytesLeft payloadLengthMax := by
  simp only [payloadSize]
  split_ifs <;> omega

lemma payloadSize_toNat (bytesLeft : ℕ) :
    (UInt8.ofNat (payloadSize bytesLeft)).toNat = payloadSize bytesLeft := by
  have hlt : payloadSize bytesLeft < 256 := by
    rw [payloadSize_eq, payloadLengthMax]
    omega
  simp [Nat.mod_eq_of_lt hlt]

def fragments (data : ℕ → UInt8) (destAddr srcAddr : UInt16) (ackId : UInt8) (seqOffset : ℕ) :
    ℕ → ℕ → ℕ → List (Option Packet)
  | 0, _, _ => []
  | count + 1, i, bytesLeft =>
    packetConstructor destAddr srcAddr ackId (UInt8.ofNat (seqOffset + i))
        (UInt8.ofNat (payloadSize bytesLeft))
        (memcpy (offset data (i * payloadLengthMax)) (payloadSize bytesLeft))
        (by rw [memcpy_length, payloadSize_toNat]) ::
      fragments data destAddr srcAddr ackId seqOffset count (i + 1) (bytesLeft - payloadSize bytesLeft)

def npackets (dataLen : ℕ) : ℕ :=
  -- an `int` divided by eight is exact in double precision, so this is its `ceil`
  (dataLen + (payloadLengthMax - 1)) / payloadLengthMax

/-- `mallocOk` and `reallocOk` say whether the two checked allocations succeed. -/
def dataToPacketArray (mallocOk reallocOk : Bool) (data : List UInt8) (destAddr srcAddr : UInt16)
    (ackId : UInt8) (includeHandshakes : Bool) : ℤ × List (Option Packet) :=
  if mallocOk = false then (-1, [])
  else
    let seqOffset := if includeHandshakes then 1 else 0
    let buf := fragments (fun k => data.getD k 0) destAddr srcAddr ackId seqOffset
      (npackets data.length) 0 data.length
    if includeHandshakes then
      if reallocOk = false then (-1, [])
      else (0, ackPacket destAddr srcAddr ackId 0 :: buf ++ [ackPacket destAddr srcAddr ackId 255])
    else (0, buf)

def fragment (data : List UInt8) (destAddr srcAddr : UInt16) (ackId : UInt8) (seqOffset i : ℕ) :
    Packet where
  destAddress := destAddr
  srcAddress := srcAddr
  ackId := ackId
  sequenceNumber := UInt8.ofNat (seqOffset + i)
  payloadLength := UInt8.ofNat (payloadSize (data.length - i * payloadLengthMax))
  payload := (data.drop (i * payloadLengthMax)).take payloadLengthMax
  payload_length_eq := by
    rw [payloadSize_toNat, payloadSize_eq, List.length_take, List.length_drop, Nat.min_comm]

lemma memcpy_getD (data : List UInt8) {i n : ℕ} (h : i + n ≤ data.length) :
    memcpy (offset (fun k => data.getD k 0) i) n = (data.drop i).take n := by
  apply List.ext_getElem
  · simp only [memcpy_length, List.length_take, List.length_drop]
    omega
  · intro k hk hk'
    rw [memcpy_length] at hk
    have hlt : i + k < data.length := by omega
    simp [memcpy, offset, hlt]

lemma memcpy_fragment (data : List UInt8) (i : ℕ) :
    memcpy (offset (fun k => data.getD k 0) i) (payloadSize (data.length - i)) =
      (data.drop i).take payloadLengthMax := by
  rw [payloadSize_eq]
  by_cases hin : i ≤ data.length
  · rw [memcpy_getD data (by omega), List.take_eq_take_iff, List.length_drop]
    omega
  · rw [List.drop_eq_nil_of_le (by omega), Nat.sub_eq_zero_of_le (by omega)]
    rfl

lemma fragments_eq (data : List UInt8) (destAddr srcAddr : UInt16) (ackId : UInt8)
    (seqOffset count i : ℕ) :
    fragments (fun k => data.getD k 0) destAddr srcAddr ackId seqOffset count i
        (data.length - i * payloadLengthMax) =
      (List.range' i count).map fun j => some (fragment data destAddr srcAddr ackId seqOffset j) := by
  induction count generalizing i with
  | zero => rfl
  | succ count ih =>
    have hle : ¬ payloadSize (data.length - i * payloadLengthMax) > payloadLengthMax := by
      rw [payloadSize_eq]
      omega
    have hleft : data.length - i * payloadLengthMax - payloadSize (data.length - i * payloadLengthMax) =
        data.length - (i + 1) * payloadLengthMax := by
      rw [payloadSize_eq, Nat.add_mul]
      omega
    rw [fragments, hleft, ih, List.range'_succ, List.map_cons]
    congr 1
    simp only [packetConstructor, payloadSize_toNat, hle, if_false]
    exact congrArg some (Packet.ext rfl rfl rfl rfl rfl (memcpy_fragment data _))

def dataPackets (data : List UInt8) (destAddr srcAddr : UInt16) (ackId : UInt8) (seqOffset : ℕ) :
    List Packet :=
  (List.range (npackets data.length)).map (fragment data destAddr srcAddr ackId seqOffset)

def framedBurst (data : List UInt8) (destAddr srcAddr : UInt16) (ackId : UInt8) : List Packet :=
  emptyPacket destAddr srcAddr ackId 0 ::
    (dataPackets data destAddr srcAddr ackId 1 ++ [emptyPacket destAddr srcAddr ackId 255])

@[simp] lemma dataPackets_length (data : List UInt8) (destAddr srcAddr : UInt16) (ackId : UInt8)
    (seqOffset : ℕ) : (dataPackets data destAddr srcAddr ackId seqOffset).length =
      npackets data.length := by
  simp [dataPackets]

lemma framedBurst_length (data : List UInt8) (destAddr srcAddr : UInt16) (ackId : UInt8) :
    (framedBurst data destAddr srcAddr ackId).length = npackets data.length + 2 := by
  simp [framedBurst]

lemma loop_dataPackets (data : List UInt8) (destAddr srcAddr : UInt16) (ackId : UInt8)
    (seqOffset : ℕ) :
    fragments (fun k => data.getD k 0) destAddr srcAddr ackId seqOffset (npackets data.length) 0
        data.length = (dataPackets data destAddr srcAddr ackId seqOffset).map some := by
  have h := fragments_eq data destAddr srcAddr ackId seqOffset (npackets data.length) 0
  rw [Nat.zero_mul, Nat.sub_zero, ← List.range_eq_range'] at h
  rw [h, dataPackets, List.map_map]
  rfl

lemma dataToPacketArray_ok (data : List UInt8) (destAddr srcAddr : UInt16) (ackId : UInt8) :
    dataToPacketArray true true data destAddr srcAddr ackId true =
      (0, (framedBurst data destAddr srcAddr ackId).map some) := by
  simp only [dataToPacketArray, Bool.true_eq_false, if_false, if_true, loop_dataPackets, ackPacket_eq]
  simp [framedBurst]

lemma dataToPacketArray_framed {mallocOk reallocOk : Bool} {data : List UInt8}
    {destAddr srcAddr : UInt16} {ackId : UInt8} {arr : List (Option Packet)}
    (h : dataToPacketArray mallocOk reallocOk data destAddr srcAddr ackId true = (0, arr)) :
    arr = (framedBurst data destAddr srcAddr ackId).map some := by
  cases mallocOk with
  | false => simp [dataToPacketArray] at h
  | true =>
    cases reallocOk with
    | false => simp [dataToPacketArray] at h
    | true =>
      rw [dataToPacketArray_ok, Prod.mk.injEq] at h
      exact h.2.symm

lemma packetArrayToData_map (ps : List Packet)
    (h : ∀ p ∈ ps, p.payloadLength.toNat ≤ payloadLengthMax) :
    packetArrayToData (ps.map some) = .ok (ps.flatMap Packet.payload) := by
  induction ps with
  | nil => rfl
  | cons p ps ih =>
    have htake : p.payload.take p.payloadLength.toNat = p.payload := by
      rw [← p.payload_length_eq, List.take_length]
    have hrest := ih fun q hq => h q (List.mem_cons_of_mem _ hq)
    rw [List.map_cons, packetArrayToData, packetDescription_ok p (h p List.mem_cons_self), hrest, htake]
    rfl

lemma flatMap_fragment (data : List UInt8) (destAddr srcAddr : UInt16) (ackId : UInt8)
    (seqOffset n : ℕ) :
    ((List.range n).map (fragment data destAddr srcAddr ackId seqOffset)).flatMap Packet.payload =
      data.take (n * payloadLengthMax) := by
  induction n with
  | zero => simp
  | succ n ih =>
    rw [List.range_succ, List.map_append, List.flatMap_append, ih, Nat.add_mul, Nat.one_mul,
      List.take_add]
    simp [fragment]

lemma dataPackets_mem {data : List UInt8} {destAddr srcAddr : UInt16} {ackId : UInt8}
    {seqOffset : ℕ} {p : Packet} (h : p ∈ dataPackets data destAddr srcAddr ackId seqOffset) :
    p.payloadLength.toNat ≤ payloadLengthMax := by
  obtain ⟨i, -, rfl⟩ := List.mem_map.mp h
  rw [← Packet.payload_length_eq]
  simp [fragment]

lemma framedBurst_mem {data : List UInt8} {destAddr srcAddr : UInt16} {ackId : UInt8} {p : Packet}
    (h : p ∈ framedBurst data destAddr srcAddr ackId) : p.payloadLength.toNat ≤ payloadLengthMax := by
  rw [framedBurst, List.mem_cons, List.mem_append, List.mem_singleton] at h
  rcases h with rfl | hdata | rfl
  · exact Nat.zero_le _
  · exact dataPackets_mem hdata
  · exact Nat.zero_le _

lemma packetArrayToData_dataPackets (data : List UInt8) (destAddr srcAddr : UInt16) (ackId : UInt8)
    (seqOffset : ℕ) :
    packetArrayToData ((dataPackets data destAddr srcAddr ackId seqOffset).map some) = .ok data := by
  rw [packetArrayToData_map _ fun p hp => dataPackets_mem hp, dataPackets, flatMap_fragment,
    List.take_of_length_le]
  simp only [npackets, payloadLengthMax]
  omega

end LoraNetworking
