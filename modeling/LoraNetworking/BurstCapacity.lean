import LoraNetworking.CommandInterleaving
import LoraNetworking.NetworkDataOperations
import LoraNetworking.Sx127xUtils

/-! What a framed burst may hold: fragmenter, sender and receiver agree exactly on the
bursts of at most 254 data packets. -/

namespace LoraNetworking

open Transducer

def maxBurstBytes : ℕ := packetCaptureMaxCount * payloadLengthMax

def handlerCallbacks (ctx : RxHandlerCtx) (rxPs : List (Option Packet)) : List Callback :=
  (outputs rxPacketHandler ctx rxPs).flatMap RxOutcome.callbacks

def AckTypesAgree (arr : List (Option Packet)) : Prop :=
  ∀ i < arr.length, ∃ p ack, arr[i]? = some (some p) ∧
    ackPacket p.srcAddress p.destAddress p.ackId p.sequenceNumber = some ack ∧
    checkPacketType ack = burstAckType arr.length i

def CapturedAs (hostAddr remoteSrcAddr : UInt16) (arr : List (Option Packet)) (data : List UInt8) :
    Prop :=
  ∃ pBuf n, endings (handlerCallbacks (rxHandlerInit hostAddr remoteSrcAddr) arr) = [(pBuf, n)] ∧
    packetArrayToData pBuf = .ok data

lemma handlerCallbacks_map (ctx : RxHandlerCtx) (ps : List Packet) :
    handlerCallbacks ctx (ps.map some) = callbacks ctx ps := by
  induction ps generalizing ctx with
  | nil => rfl
  | cons p ps ih =>
    rw [callbacks_cons, ← ih]
    rfl

lemma npackets_le_iff (dataLen : ℕ) :
    npackets dataLen ≤ packetCaptureMaxCount ↔ dataLen ≤ maxBurstBytes := by
  simp only [npackets, packetCaptureMaxCount, payloadLengthMax, maxBurstBytes]
  omega

lemma checkPacketType_emptyPacket (destAddress srcAddress : UInt16) (ackId sequenceNumber : UInt8) :
    checkPacketType (emptyPacket destAddress srcAddress ackId sequenceNumber) =
      if sequenceNumber = 0 then .packetBegin
      else if sequenceNumber = 255 then .packetEnd else .packetAck := by
  simp [checkPacketType, emptyPacket]

section Fragments

variable {data : List UInt8} {destAddr srcAddr : UInt16} {ackId : UInt8}

lemma dataPackets_getElem {i : ℕ} (h : i < npackets data.length) :
    (dataPackets data destAddr srcAddr ackId 1)[i]? = some (fragment data destAddr srcAddr ackId 1 i) := by
  simp [dataPackets, h]

lemma framedBurst_zero : (framedBurst data destAddr srcAddr ackId)[0]? =
    some (emptyPacket destAddr srcAddr ackId 0) := rfl

lemma framedBurst_data {i : ℕ} (h : i < npackets data.length) :
    (framedBurst data destAddr srcAddr ackId)[i + 1]? =
      some (fragment data destAddr srcAddr ackId 1 i) := by
  have hlt : i < (dataPackets data destAddr srcAddr ackId 1).length := by simpa using h
  rw [framedBurst, List.getElem?_cons_succ, List.getElem?_append_left hlt, dataPackets_getElem h]

lemma framedBurst_last : (framedBurst data destAddr srcAddr ackId)[npackets data.length + 1]? =
    some (emptyPacket destAddr srcAddr ackId 255) := by
  rw [framedBurst, List.getElem?_cons_succ, List.getElem?_append_right (by simp)]
  simp

lemma burstData_dataPackets (h : data.length ≤ maxBurstBytes) :
    BurstData destAddr srcAddr ackId (dataPackets data destAddr srcAddr ackId 1) := by
  have hn := (npackets_le_iff data.length).mpr h
  refine ⟨by simpa using hn, fun i p hp => ?_⟩
  have hi : i < npackets data.length := by
    have hlt := (List.getElem?_eq_some_iff.mp hp).1
    simpa using hlt
  rw [dataPackets_getElem hi, Option.some_inj] at hp
  subst hp
  refine ⟨rfl, rfl, rfl, ?_, ?_⟩
  · simp only [packetCaptureMaxCount] at hn
    simp only [fragment, UInt8.toNat_ofNat']
    omega
  · intro hzero
    have hsize := payloadSize_toNat (data.length - i * payloadLengthMax)
    rw [payloadSize_eq] at hsize
    simp only [fragment, payloadSize_eq] at hzero
    rw [hzero] at hsize
    simp only [npackets, payloadLengthMax, UInt8.toNat_zero] at hi hsize
    omega

lemma fragment_sequenceNumber {i : ℕ} (h : i < packetCaptureMaxCount) :
    (fragment data destAddr srcAddr ackId 1 i).sequenceNumber ≠ 0 ∧
      (fragment data destAddr srcAddr ackId 1 i).sequenceNumber ≠ 255 := by
  simp only [packetCaptureMaxCount] at h
  simp only [fragment, ne_eq, ← UInt8.toNat_inj, UInt8.toNat_ofNat', UInt8.toNat_zero,
    UInt8.reduceToNat]
  omega

lemma ackTypesAgree_framedBurst (h : data.length ≤ maxBurstBytes) :
    AckTypesAgree ((framedBurst data destAddr srcAddr ackId).map some) := by
  have hn := (npackets_le_iff data.length).mpr h
  intro i hi
  rw [List.length_map, framedBurst_length] at hi ⊢
  simp only [List.getElem?_map, Option.map_eq_some_iff, Option.some_inj, exists_eq_right, ackPacket_eq]
  cases i with
  | zero => exact ⟨_, _, framedBurst_zero, rfl, rfl⟩
  | succ i =>
    by_cases hlast : i = npackets data.length
    · subst hlast
      refine ⟨_, _, framedBurst_last, rfl, ?_⟩
      rw [burstAckType, if_neg (by omega), if_pos (by omega)]
      rfl
    · have hi' : i < npackets data.length := by omega
      refine ⟨_, _, framedBurst_data hi', rfl, ?_⟩
      obtain ⟨hzero, hend⟩ := fragment_sequenceNumber (hi'.trans_le hn)
      rw [checkPacketType_emptyPacket, if_neg hzero, if_neg hend, burstAckType, if_neg (by omega),
        if_neg (by omega)]

lemma not_ackTypesAgree_framedBurst (h : maxBurstBytes < data.length) :
    ¬ AckTypesAgree ((framedBurst data destAddr srcAddr ackId).map some) := by
  have hn : packetCaptureMaxCount < npackets data.length := by
    by_contra hle
    have := (npackets_le_iff data.length).mp (by omega)
    omega
  simp only [packetCaptureMaxCount] at hn
  intro hagree
  obtain ⟨p, ack, hp, hack, htype⟩ := hagree 255 (by rw [List.length_map, framedBurst_length]; omega)
  rw [List.length_map, framedBurst_length, burstAckType, if_neg (by omega), if_neg (by omega)] at htype
  rw [List.getElem?_map, framedBurst_data (i := 254) (by omega)] at hp
  obtain rfl : fragment data destAddr srcAddr ackId 1 254 = p := by simpa using hp
  rw [ackPacket_eq, Option.some_inj] at hack
  subst hack
  have hseq : (fragment data destAddr srcAddr ackId 1 254).sequenceNumber = 255 := rfl
  rw [checkPacketType_emptyPacket, hseq] at htype
  exact absurd htype (by decide)

lemma capturedAs_framedBurst (hack : ackId ≠ 0) (h : data.length ≤ maxBurstBytes) :
    CapturedAs destAddr srcAddr ((framedBurst data destAddr srcAddr ackId).map some) data := by
  have hlast : ¬ (ackId = 0 ∧ (0 : UInt8) = 0) := fun he => hack he.1
  have hhost : (rxHandlerInit destAddr srcAddr).hostAddr = destAddr := rfl
  have hremote : (rxHandlerInit destAddr srcAddr).remoteSrcAddr = srcAddr := rfl
  obtain ⟨hcb, hstart⟩ := weaving_begin rfl hhost hremote rfl hlast
  obtain ⟨he, -⟩ := woven_callbacks (woven_plain destAddr srcAddr ackId
    (emptyPacket destAddr srcAddr ackId 0) (dataPackets data destAddr srcAddr ackId 1))
    (burstData_dataPackets h) hstart
  refine ⟨_, (dataPackets data destAddr srcAddr ackId 1).length, ?_,
    packetArrayToData_dataPackets data destAddr srcAddr ackId 1⟩
  rw [handlerCallbacks_map, framedBurst, callbacks_cons, hcb]
  exact he

end Fragments

theorem burst_agreement_iff (mallocOk reallocOk : Bool) (data : List UInt8) (destAddr srcAddr : UInt16)
    (ackId : UInt8) (arr : List (Option Packet)) (hack : ackId ≠ 0)
    (hret : dataToPacketArray mallocOk reallocOk data destAddr srcAddr ackId true = (0, arr)) :
    AckTypesAgree arr ∧ CapturedAs destAddr srcAddr arr data ↔ data.length ≤ maxBurstBytes := by
  rw [dataToPacketArray_framed hret]
  constructor
  · rintro ⟨hagree, -⟩
    by_contra hlong
    exact not_ackTypesAgree_framedBurst (by omega) hagree
  · intro h
    exact ⟨ackTypesAgree_framedBurst h, capturedAs_framedBurst hack h⟩

theorem burst_agreement_iff_short :
    let arr := (dataToPacketArray true true [65, 66] 1 2 5 true).2
    AckTypesAgree arr ∧ CapturedAs 1 2 arr [65, 66] :=
  (burst_agreement_iff true true [65, 66] 1 2 5 _ (by decide) rfl).mpr (by decide)

theorem burst_agreement_overfull :
    let data := List.replicate 2033 (0 : UInt8)
    let arr := (dataToPacketArray true true data 1 2 5 true).2
    (dataToPacketArray true true data 1 2 5 true).1 = 0 ∧
      ¬ (AckTypesAgree arr ∧ CapturedAs 1 2 arr data) := by
  intro data arr
  have hret : dataToPacketArray true true data 1 2 5 true = (0, arr) := rfl
  have hlong : maxBurstBytes < data.length := by
    rw [List.length_replicate]
    decide
  refine ⟨rfl, fun h => ?_⟩
  rw [dataToPacketArray_framed hret] at h
  exact not_ackTypesAgree_framedBurst hlong h.1

end LoraNetworking
