import LoraNetworking.BurstDelivery
import LoraNetworking.Retransmissions
import LoraNetworking.SendOnAir

/-! A burst from one radio to another. Each side runs on its own, at any speed, against its own
registers; what they share is the air between them, which loses and damages frames. -/

namespace LoraNetworking.Transceiver

open StateProg StopAndWait Transducer

/-- What happens on the air between a sender and a receiver: a frame of one of them and what the other
one's radio makes of it, or something else that one of them receives. -/
inductive Crossing
  | fromSender (frame : List UInt8) (reception : Option Reception)
  | fromReceiver (frame : List UInt8) (reception : Option Reception)
  | strayAtSender (r : Reception)
  | strayAtReceiver (r : Reception)

namespace Crossing

def atSender : Crossing → List AirEvent
  | fromSender frame _ => [.sent frame]
  | fromReceiver _ reception => reception.toList.map .heard
  | strayAtSender r => [.heard r]
  | strayAtReceiver _ => []

def atReceiver : Crossing → List AirEvent
  | fromSender _ reception => reception.toList.map .heard
  | fromReceiver frame _ => [.sent frame]
  | strayAtSender _ => []
  | strayAtReceiver r => [.heard r]

end Crossing

def Between (src dest : UInt16) (p : Packet) : Prop := p.destAddress = dest ∧ p.srcAddress = src

instance (src dest : UInt16) (p : Packet) : Decidable (Between src dest p) :=
  inferInstanceAs (Decidable (_ ∧ _))

/-- A frame that arrives undamaged is the one that was sent, and nobody else sends undamaged frames between
the two addresses. -/
def Crossing.Fair (hostAddr remoteSrcAddr : UInt16) (behindS behindR : ℕ → UInt8) : Crossing → Prop
  | fromSender frame reception => ∀ r, reception = some r → r.damaged = false → r.frame = frame
  | fromReceiver frame reception => ∀ r, reception = some r → r.damaged = false → r.frame = frame
  | strayAtSender r => r.damaged = false → ¬ Between hostAddr remoteSrcAddr (decodeFrame behindS r.frame)
  | strayAtReceiver r => r.damaged = false → ¬ Between remoteSrcAddr hostAddr (decodeFrame behindR r.frame)

section Packets

variable {hostAddr remoteSrcAddr : UInt16} {behind behindS behindR : ℕ → UInt8} {air : List Crossing}
  {hs : List Reception} {r : Reception} {p : Packet}

def linkPacket (hostAddr remoteSrcAddr : UInt16) (behind : ℕ → UInt8) : AirEvent → Option Packet
  | .heard r =>
    if r.damaged = false ∧ Between remoteSrcAddr hostAddr (decodeFrame behind r.frame) then
      some (decodeFrame behind r.frame)
    else none
  | .sent _ => none

def sentPacket (behind : ℕ → UInt8) : AirEvent → Option Packet
  | .heard _ => none
  | .sent frame => some (decodeFrame behind frame)

lemma crossing_sublist {c : Crossing} (h : c.Fair hostAddr remoteSrcAddr behindS behindR) :
    (c.atReceiver.filterMap (linkPacket hostAddr remoteSrcAddr behindR)).Sublist
      (c.atSender.filterMap (sentPacket behindR)) := by
  cases c with
  | fromSender frame reception =>
    cases reception with
    | none => exact List.nil_sublist _
    | some r =>
      by_cases hr : r.damaged = false ∧ Between remoteSrcAddr hostAddr (decodeFrame behindR r.frame)
      · have hframe := h r rfl hr.1
        simp [Crossing.atReceiver, Crossing.atSender, linkPacket, sentPacket, hr, ← hframe]
      · simp [Crossing.atReceiver, linkPacket, hr]
  | fromReceiver frame reception => exact List.nil_sublist _
  | strayAtSender r => exact List.nil_sublist _
  | strayAtReceiver r =>
    have hr : ¬ (r.damaged = false ∧ Between remoteSrcAddr hostAddr (decodeFrame behindR r.frame)) :=
      fun hr => h hr.1 hr.2
    simp [Crossing.atReceiver, Crossing.atSender, linkPacket, hr]

lemma air_sublist (h : ∀ c ∈ air, c.Fair hostAddr remoteSrcAddr behindS behindR) :
    ((air.flatMap Crossing.atReceiver).filterMap (linkPacket hostAddr remoteSrcAddr behindR)).Sublist
      ((air.flatMap Crossing.atSender).filterMap (sentPacket behindR)) := by
  induction air with
  | nil => exact List.nil_sublist _
  | cons c air ih =>
    rw [List.flatMap_cons, List.flatMap_cons, List.filterMap_append, List.filterMap_append]
    exact (crossing_sublist (h c List.mem_cons_self)).append (ih fun d hd => h d (List.mem_cons_of_mem _ hd))

lemma heard_sent (h : ∀ c ∈ air, c.Fair hostAddr remoteSrcAddr behindS behindR)
    (hheard : .heard r ∈ air.flatMap Crossing.atSender) (hwhole : r.damaged = false)
    (hlink : Between hostAddr remoteSrcAddr (decodeFrame behindS r.frame)) :
    .sent r.frame ∈ air.flatMap Crossing.atReceiver := by
  obtain ⟨c, hc, hr⟩ := List.mem_flatMap.mp hheard
  refine List.mem_flatMap.mpr ⟨c, hc, ?_⟩
  have hfair := h c hc
  cases c with
  | fromSender frame reception => simp [Crossing.atSender] at hr
  | fromReceiver frame reception =>
    obtain rfl : reception = some r := by simpa [Crossing.atSender] using hr
    simp [Crossing.atReceiver, hfair r rfl hwhole]
  | strayAtSender q =>
    obtain rfl : r = q := by simpa [Crossing.atSender] using hr
    exact absurd hlink (hfair hwhole)
  | strayAtReceiver q => simp [Crossing.atSender] at hr

lemma decodeFrame_nil (behind : ℕ → UInt8) : decodeFrame behind [] = emptyPacket 0 0 0 0 := by
  have hmem : ∀ i (hi : i < (encode (emptyPacket 0 0 0 0)).length),
      rxMemory (zeroBuffer.overwrite (([] : List UInt8).map some)) behind i = (encode (emptyPacket 0 0 0 0))[i] := by
    intro i hi
    have hlt : i < 255 := by
      simp only [encode_length, overhead, addrLength, emptyPacket, UInt8.toNat_zero] at hi
      omega
    have hzero : (encode (emptyPacket 0 0 0 0))[i] = 0 :=
      List.eq_of_mem_replicate (n := 7) (List.getElem_mem hi)
    rw [hzero]
    simp [rxMemory, hlt, RxBuffer.overwrite, zeroBuffer]
  rw [decodeFrame, parsePacket_encode _ hmem]

lemma readBatch_whole (h : readBatch behind hs ≠ emptyPacket 0 0 0 0) :
    ∃ r ∈ hs, r.damaged = false ∧ readBatch behind hs = decodeFrame behind r.frame := by
  rw [readBatch] at h ⊢
  by_cases hdamaged : ∃ r ∈ hs, r.damaged = true
  · rw [batchFrame_damaged hdamaged, decodeFrame_nil] at h
    exact absurd rfl h
  · cases hlast : hs.getLast? with
    | none =>
      obtain rfl := List.getLast?_eq_none_iff.mp hlast
      exact absurd (decodeFrame_nil behind) h
    | some r =>
      have hr : r ∈ hs := List.mem_of_getLast? hlast
      rw [batchFrame_last hdamaged hlast]
      exact ⟨r, hr, by simpa using fun hd => hdamaged ⟨r, hr, hd⟩, rfl⟩

def onLink (hostAddr remoteSrcAddr : UInt16) (ps : List Packet) : List Packet :=
  ps.filter fun p => Between remoteSrcAddr hostAddr p

lemma onLink_append (hostAddr remoteSrcAddr : UInt16) (ps qs : List Packet) :
    onLink hostAddr remoteSrcAddr (ps ++ qs) = onLink hostAddr remoteSrcAddr ps ++ onLink hostAddr remoteSrcAddr qs :=
  List.filter_append ..

lemma mem_onLink {ps : List Packet} :
    p ∈ onLink hostAddr remoteSrcAddr ps ↔ p ∈ ps ∧ Between remoteSrcAddr hostAddr p := by
  simp [onLink]

lemma batch_sublist (hhost : hostAddr ≠ 0) (hs : List Reception) :
    (onLink hostAddr remoteSrcAddr [readBatch behind hs]).Sublist
      ((hs.map .heard).filterMap (linkPacket hostAddr remoteSrcAddr behind)) := by
  by_cases hdest : Between remoteSrcAddr hostAddr (readBatch behind hs)
  · obtain ⟨r, hr, hwhole, hread⟩ : ∃ r ∈ hs, r.damaged = false ∧ readBatch behind hs = decodeFrame behind r.frame := by
      apply readBatch_whole
      intro hzero
      rw [hzero] at hdest
      exact hhost hdest.1.symm
    have hmem : readBatch behind hs ∈ (hs.map AirEvent.heard).filterMap (linkPacket hostAddr remoteSrcAddr behind) := by
      refine List.mem_filterMap.mpr ⟨.heard r, List.mem_map_of_mem hr, ?_⟩
      rw [linkPacket, if_pos ⟨hwhole, hread ▸ hdest⟩, hread]
    simpa [onLink, hdest] using hmem
  · simp [onLink, hdest]

lemma exchange_link (hs : List Reception) : (exchange behind hs).filterMap (linkPacket hostAddr remoteSrcAddr behind) =
    (hs.map .heard).filterMap (linkPacket hostAddr remoteSrcAddr behind) := by
  simp [exchange, linkPacket]

lemma batches_sublist (hhost : hostAddr ≠ 0) (batches : List (List Reception)) :
    (onLink hostAddr remoteSrcAddr (batches.map (readBatch behind))).Sublist
      ((batches.flatMap (exchange behind)).filterMap (linkPacket hostAddr remoteSrcAddr behind)) := by
  induction batches with
  | nil => exact List.nil_sublist _
  | cons hs batches ih =>
    rw [List.map_cons, ← List.singleton_append, onLink_append, List.flatMap_cons, List.filterMap_append,
      exchange_link]
    exact (batch_sublist hhost hs).append ih

end Packets

section Sides

variable {hostAddr remoteSrcAddr : UInt16} {behind : ℕ → UInt8} {handler handler' : RxHandlerCtx} {rs : List RxRound}
  {log log' ext : List AirEvent} {rounds : ℕ}

/-- What the receiver makes of what it hears in `ext`: it handles `ps`, and may then leave the loop with one
more packet read. -/
structure Receives (hostAddr remoteSrcAddr : UInt16) (behind : ℕ → UInt8) (handler : RxHandlerCtx)
    (rs : List RxRound) (handler' : RxHandlerCtx) (ext : List AirEvent) (ps last : List Packet) : Prop where
  run_eq : handler' = run packetStep handler ps
  callbacks_eq : rs.flatMap RxRound.callbacks = callbacks handler ps
  ended : last = [] ∨ rs.getLast? = some (.leave .sxTimeout)
  heard : (onLink hostAddr remoteSrcAddr (ps ++ last)).Sublist
    (ext.filterMap (linkPacket hostAddr remoteSrcAddr behind))
  acks : ∀ frame, .sent frame ∈ ext → ∃ q ∈ ps ++ last, frame = encode (ackFor q)

lemma handled_callbacks (handler : RxHandlerCtx) (ps : List Packet) :
    ((history packetStep handler ps).map fun e => RxRound.handled e.input e.output).flatMap RxRound.callbacks =
      callbacks handler ps := by
  rw [callbacks, outputs, List.flatMap_map, List.flatMap_map]
  rfl

lemma exchange_acks {hs : List Reception} {frame : List UInt8} (h : .sent frame ∈ exchange behind hs) :
    frame = encode (ackFor (readBatch behind hs)) := by
  simpa [exchange] using h

lemma receives_of {lost : List Reception} {batches : List (List Reception)} {rest : List AirEvent} {last : List Packet}
    {ending : List RxRound} (hhost : hostAddr ≠ 0)
    (hrs : rs = ((history packetStep handler (batches.map (readBatch behind))).map fun e =>
      .handled e.input e.output) ++ ending)
    (hquiet : ending.flatMap RxRound.callbacks = []) (hended : last = [] ∨ rs.getLast? = some (.leave .sxTimeout))
    (hheard : (onLink hostAddr remoteSrcAddr last).Sublist (rest.filterMap (linkPacket hostAddr remoteSrcAddr behind)))
    (hacks : ∀ frame, .sent frame ∈ rest → ∃ q ∈ last, frame = encode (ackFor q)) :
    Receives hostAddr remoteSrcAddr behind handler rs (run packetStep handler (batches.map (readBatch behind)))
      (lost.map .heard ++ batches.flatMap (exchange behind) ++ rest) (batches.map (readBatch behind)) last where
  run_eq := rfl
  callbacks_eq := by rw [hrs, List.flatMap_append, handled_callbacks, hquiet, List.append_nil]
  ended := hended
  heard := by
    rw [onLink_append, List.filterMap_append, List.filterMap_append]
    exact ((batches_sublist hhost batches).trans (List.sublist_append_right _ _)).append hheard
  acks frame hframe := by
    rcases List.mem_append.mp hframe with hframe | hframe
    · rcases List.mem_append.mp hframe with hlost | hbatch
      · simp at hlost
      · obtain ⟨hs, hmem, hsent⟩ := List.mem_flatMap.mp hbatch
        exact ⟨_, List.mem_append_left _ (List.mem_map_of_mem hmem), exchange_acks hsent⟩
    · obtain ⟨q, hq, hack⟩ := hacks frame hframe
      exact ⟨q, List.mem_append_right _ hq, hack⟩

lemma HandlesBatches.receives (hhost : hostAddr ≠ 0) (h : HandlesBatches behind rounds handler log rs handler' log') :
    ∃ ext ps last, log' = log ++ ext ∧ Receives hostAddr remoteSrcAddr behind handler rs handler' ext ps last := by
  obtain ⟨lost, batches, rest, -, rfl, rfl, ending, hrs, ⟨rfl, -, rfl⟩ | ⟨rfl, -, hs, -, hrest⟩⟩ := h
  · exact ⟨lost.map .heard ++ batches.flatMap (exchange behind) ++ [], _, [], by simp,
      receives_of hhost hrs rfl (Or.inl rfl) (List.nil_sublist _) (by simp)⟩
  · have hended : rs.getLast? = some (.leave .sxTimeout) := by rw [hrs, List.getLast?_concat]
    have hlink : rest.filterMap (linkPacket hostAddr remoteSrcAddr behind) =
        (hs.map .heard).filterMap (linkPacket hostAddr remoteSrcAddr behind) := by
      rcases hrest with rfl | rfl
      · rfl
      · exact exchange_link hs
    refine ⟨lost.map .heard ++ batches.flatMap (exchange behind) ++ rest, _, [readBatch behind hs], by simp,
      receives_of hhost hrs rfl (Or.inr hended) ?_ ?_⟩
    · rw [hlink]
      exact batch_sublist hhost hs
    · intro frame hframe
      refine ⟨_, List.mem_singleton_self _, ?_⟩
      rcases hrest with rfl | rfl
      · simp at hframe
      · exact exchange_acks hframe

lemma callbacks_onLink {ctx : RxHandlerCtx} (hhost : ctx.hostAddr = hostAddr)
    (hremote : ctx.remoteSrcAddr = remoteSrcAddr) (ps : List Packet) :
    callbacks ctx (onLink hostAddr remoteSrcAddr ps) = callbacks ctx ps := by
  induction ps generalizing ctx with
  | nil => rfl
  | cons p ps ih =>
    by_cases hp : Between remoteSrcAddr hostAddr p
    · have hcons : onLink hostAddr remoteSrcAddr (p :: ps) = p :: onLink hostAddr remoteSrcAddr ps :=
        List.filter_cons_of_pos (by simpa using hp)
      obtain ⟨-, hhost', hremote'⟩ := rxPacketHandler_filter ctx (some p)
      rw [hcons, callbacks_cons, callbacks_cons]
      exact congrArg _ (ih (hhost'.trans hhost) (hremote'.trans hremote))
    · have hcons : onLink hostAddr remoteSrcAddr (p :: ps) = onLink hostAddr remoteSrcAddr ps :=
        List.filter_cons_of_neg (by simpa using hp)
      have hblocked : ¬ Admits ctx p := fun ha => hp ⟨ha.2.1.trans hhost, ha.2.2.trans hremote⟩
      obtain ⟨ret, -, hstep⟩ := rxPacketHandler_blocked hblocked
      rw [hcons, callbacks_cons, hstep]
      exact ih hhost hremote

end Sides

section Bursts

variable {hostAddr remoteSrcAddr : UInt16} {ackId : UInt8} {data : List UInt8} {p q : Packet}
  {behind : ℕ → UInt8} {sends : List (Packet × List (List Reception))}

lemma framedBurst_addresses (h : p ∈ framedBurst data hostAddr remoteSrcAddr ackId) :
    p.destAddress = hostAddr ∧ p.srcAddress = remoteSrcAddr := by
  rw [framedBurst, List.mem_cons, List.mem_append, List.mem_singleton] at h
  rcases h with rfl | hdata | rfl
  · exact ⟨rfl, rfl⟩
  · obtain ⟨i, -, rfl⟩ := List.mem_map.mp hdata
    exact ⟨rfl, rfl⟩
  · exact ⟨rfl, rfl⟩

lemma framedBurst_numbers (hfits : data.length ≤ maxBurstBytes) :
    ((framedBurst data hostAddr remoteSrcAddr ackId).map Packet.sequenceNumber).Nodup := by
  have hn := (npackets_le_iff data.length).mpr hfits
  have hdata : (dataPackets data hostAddr remoteSrcAddr ackId 1).map (fun p => p.sequenceNumber.toNat) =
      (List.range (npackets data.length)).map (· + 1) := by
    rw [dataPackets, List.map_map]
    apply List.map_congr_left
    intro i hi
    exact ((burstData_dataPackets hfits).numbered i _ (dataPackets_getElem (List.mem_range.mp hi))).2.2.2.1
  have hall : (framedBurst data hostAddr remoteSrcAddr ackId).map (fun p => p.sequenceNumber.toNat) =
      0 :: ((List.range (npackets data.length)).map (· + 1) ++ [255]) := by
    rw [framedBurst, List.map_cons, List.map_append, hdata]
    rfl
  have hnodup : ((framedBurst data hostAddr remoteSrcAddr ackId).map fun p => p.sequenceNumber.toNat).Nodup := by
    rw [hall, List.nodup_cons, List.nodup_append]
    refine ⟨by simp, (List.nodup_range).map (add_left_injective 1), List.nodup_singleton _, ?_⟩
    intro i hi j hj
    obtain ⟨k, hk, rfl⟩ := List.mem_map.mp hi
    rw [List.mem_singleton.mp hj]
    rw [List.mem_range] at hk
    simp only [packetCaptureMaxCount] at hn
    omega
  refine List.Nodup.of_map UInt8.toNat ?_
  rwa [List.map_map]

lemma framedBurst_ack (hfits : data.length ≤ maxBurstBytes) (hp : p ∈ framedBurst data hostAddr remoteSrcAddr ackId)
    (hq : q ∈ framedBurst data hostAddr remoteSrcAddr ackId) (h : ackFor p = ackFor q) : p = q := by
  have hnumber : (ackFor p).sequenceNumber = (ackFor q).sequenceNumber := congrArg Packet.sequenceNumber h
  exact List.inj_on_of_nodup_map (framedBurst_numbers hfits) hp hq hnumber

lemma sent_tries (hmax : p.payloadLength.toNat ≤ payloadLengthMax) (tries : List (List Reception)) :
    (tries.flatMap (attempt p)).filterMap (sentPacket behind) = List.replicate tries.length p := by
  induction tries with
  | nil => rfl
  | cons hs tries ih =>
    have hheard : (hs.map AirEvent.heard).filterMap (sentPacket behind) = [] := by simp [sentPacket]
    rw [List.flatMap_cons, attempt, List.cons_append, List.filterMap_cons_some (b := p) (by
      rw [sentPacket, decodeFrame_encode hmax]), List.filterMap_append, hheard, ih]
    rfl

lemma sent_burst (hmax : ∀ s ∈ sends, s.1.payloadLength.toNat ≤ payloadLengthMax) :
    (burstOnAir sends).filterMap (sentPacket behind) = spread (sends.map fun s => (s.1, s.2.length)) := by
  induction sends with
  | nil => rfl
  | cons s sends ih =>
    rw [List.forall_mem_cons] at hmax
    rw [burstOnAir, List.flatMap_cons, List.filterMap_append, sent_tries hmax.1, ← burstOnAir, ih hmax.2, spread,
      spread, List.map_cons, List.flatMap_cons]

lemma heard_burst {r : Reception} {hs : List Reception} {s : Packet × List (List Reception)} (hsend : s ∈ sends)
    (hlast : hs ∈ s.2) (hr : r ∈ hs) : .heard r ∈ burstOnAir sends := by
  refine List.mem_flatMap.mpr ⟨s, hsend, List.mem_flatMap.mpr ⟨hs, hlast, ?_⟩⟩
  exact List.mem_cons_of_mem _ (List.mem_map_of_mem hr)

def AnsweredButLast (behind : ℕ → UInt8) (sends : List (Packet × List (List Reception))) : Prop :=
  AllAnswered behind sends ∨ ∃ acked s, sends = acked ++ [s] ∧ AllAnswered behind acked

lemma SendsBurst.part {burst : List Packet} {ret : Sx127xErr} {log log' : List AirEvent}
    (h : SendsBurst behind (burst.map some) log ret log') :
    ∃ sends, log' = log ++ burstOnAir sends ∧ sends.map Prod.fst <+: burst ∧ AnsweredButLast behind sends ∧
      (ret = .sxOk → AllAnswered behind sends ∧ sends.map Prod.fst = burst) := by
  have hsome : Function.Injective (List.map (some : Packet → Option Packet)) :=
    List.map_injective_iff.mpr (Option.some_injective _)
  obtain ⟨sends, hlog, -, ⟨rfl, hall, hsends⟩ | ⟨rfl, acked, s, rfl, hall, hprefix⟩⟩ := h
  · have hfst : sends.map Prod.fst = burst := by
      apply hsome
      rwa [List.map_map]
    exact ⟨sends, hlog, hfst ▸ List.prefix_refl _, Or.inl hall, fun _ => ⟨hall, hfst⟩⟩
  · refine ⟨_, hlog, ?_, Or.inr ⟨acked, s, rfl, hall⟩, fun hok => absurd hok (by decide)⟩
    apply (List.prefix_map_iff_of_injective (Option.some_injective _)).mp
    rwa [List.map_map]

structure Linked (hostAddr remoteSrcAddr : UInt16) (data : List UInt8) (ackId : UInt8) (behindS behindR : ℕ → UInt8)
    (air : List Crossing) (lost : List Reception) (sends : List (Packet × List (List Reception)))
    (ps last : List Packet) : Prop where
  fits : data.length ≤ maxBurstBytes
  fair : ∀ c ∈ air, c.Fair hostAddr remoteSrcAddr behindS behindR
  sender : air.flatMap Crossing.atSender = lost.map .heard ++ burstOnAir sends
  burst : sends.map Prod.fst <+: framedBurst data hostAddr remoteSrcAddr ackId
  heard : (onLink hostAddr remoteSrcAddr (ps ++ last)).Sublist
    ((air.flatMap Crossing.atReceiver).filterMap (linkPacket hostAddr remoteSrcAddr behindR))
  acks : ∀ frame, .sent frame ∈ air.flatMap Crossing.atReceiver → ∃ q ∈ ps ++ last, frame = encode (ackFor q)

variable {behindS behindR : ℕ → UInt8} {air : List Crossing} {lost : List Reception} {ps last : List Packet}
  {s : Packet × List (List Reception)}

namespace Linked

lemma mem_burst (h : Linked hostAddr remoteSrcAddr data ackId behindS behindR air lost sends ps last)
    (hs : s ∈ sends) : s.1 ∈ framedBurst data hostAddr remoteSrcAddr ackId :=
  h.burst.subset (List.mem_map_of_mem hs)

lemma sublist (h : Linked hostAddr remoteSrcAddr data ackId behindS behindR air lost sends ps last) :
    (onLink hostAddr remoteSrcAddr (ps ++ last)).Sublist (spread (sends.map fun s => (s.1, s.2.length))) := by
  have hlost : (lost.map AirEvent.heard).filterMap (sentPacket behindR) = [] := by simp [sentPacket]
  have hair := h.heard.trans (air_sublist h.fair)
  rw [h.sender, List.filterMap_append, hlost, List.nil_append,
    sent_burst fun s hs => framedBurst_mem (h.mem_burst hs)] at hair
  exact hair

lemma answered (h : Linked hostAddr remoteSrcAddr data ackId behindS behindR air lost sends ps last)
    (hhost : hostAddr ≠ 0) (hs : s ∈ sends) (hanswered : Answered behindS s.1 s.2) :
    s.1 ∈ onLink hostAddr remoteSrcAddr (ps ++ last) := by
  obtain ⟨batch, hlast, hread⟩ := hanswered
  have hmem := h.mem_burst hs
  obtain ⟨hdest, hsrc⟩ := framedBurst_addresses hmem
  have hlink : Between hostAddr remoteSrcAddr (ackFor s.1) := ⟨hsrc, hdest⟩
  obtain ⟨r, hr, hwhole, hframe⟩ : ∃ r ∈ batch, r.damaged = false ∧
      readBatch behindS batch = decodeFrame behindS r.frame := by
    apply readBatch_whole
    intro hzero
    rw [hread] at hzero
    rw [hzero] at hlink
    exact hhost hlink.2.symm
  have hheard : .heard r ∈ air.flatMap Crossing.atSender := by
    rw [h.sender]
    exact List.mem_append_right _ (heard_burst hs (List.mem_of_getLast? hlast) hr)
  rw [hread] at hframe
  obtain ⟨q, hq, hack⟩ := h.acks _ (heard_sent h.fair hheard hwhole (hframe ▸ hlink))
  rw [hack, decodeFrame_encode (ackFor_bounded q)] at hframe
  have hqlink : Between remoteSrcAddr hostAddr q :=
    ⟨(congrArg Packet.srcAddress hframe).symm.trans hdest, (congrArg Packet.destAddress hframe).symm.trans hsrc⟩
  have hqhost : q ∈ onLink hostAddr remoteSrcAddr (ps ++ last) := mem_onLink.mpr ⟨hq, hqlink⟩
  have hqburst : q ∈ framedBurst data hostAddr remoteSrcAddr ackId := by
    have hspread := mem_of_mem_spread (h.sublist.subset hqhost)
    rw [List.map_map] at hspread
    exact h.burst.subset hspread
  rwa [framedBurst_ack h.fits hmem hqburst hframe]

lemma blocks_fst (sends : List (Packet × List (List Reception))) :
    (sends.map fun s => (s.1, s.2.length)).map Prod.fst = sends.map Prod.fst := by
  rw [List.map_map]
  rfl

lemma nodup (h : Linked hostAddr remoteSrcAddr data ackId behindS behindR air lost sends ps last) :
    ((sends.map fun s => (s.1, s.2.length)).map Prod.fst).Nodup := by
  rw [blocks_fst]
  exact (List.Nodup.of_map _ (framedBurst_numbers h.fits)).sublist h.burst.sublist

lemma whole (h : Linked hostAddr remoteSrcAddr data ackId behindS behindR air lost sends ps last)
    (hhost : hostAddr ≠ 0) (hall : AllAnswered behindS sends) :
    Stuttered (sends.map Prod.fst) (onLink hostAddr remoteSrcAddr (ps ++ last)) := by
  have hstut := Stuttered.of_sublist h.sublist h.nodup fun b hb => by
    obtain ⟨s, hs, rfl⟩ := List.mem_map.mp hb
    exact h.answered hhost hs (hall s hs)
  rwa [blocks_fst] at hstut

lemma interrupted {acked : List (Packet × List (List Reception))}
    (h : Linked hostAddr remoteSrcAddr data ackId behindS behindR air lost (acked ++ [s]) ps last)
    (hhost : hostAddr ≠ 0) (hall : AllAnswered behindS acked) :
    Interrupted ((acked ++ [s]).map Prod.fst) (onLink hostAddr remoteSrcAddr (ps ++ last)) := by
  have hblocks : (acked ++ [s]).map (fun s => (s.1, s.2.length)) =
      acked.map (fun s => (s.1, s.2.length)) ++ [(s.1, s.2.length)] := List.map_append ..
  have hsub := h.sublist
  have hnodup := h.nodup
  rw [hblocks] at hsub hnodup
  have hinter := Interrupted.of_sublist hsub hnodup fun b hb => by
    obtain ⟨a, ha, rfl⟩ := List.mem_map.mp hb
    exact h.answered hhost (List.mem_append_left _ ha) (hall a ha)
  rwa [← hblocks, blocks_fst] at hinter

lemma reached (h : Linked hostAddr remoteSrcAddr data ackId behindS behindR air lost sends ps last)
    (hhost : hostAddr ≠ 0) (hanswered : AnsweredButLast behindS sends) :
    Interrupted (framedBurst data hostAddr remoteSrcAddr ackId) (onLink hostAddr remoteSrcAddr (ps ++ last)) := by
  rcases hanswered with hall | ⟨acked, s, rfl, hall⟩
  · exact (h.whole hhost hall).interrupted.trans h.burst
  · exact (h.interrupted hhost hall).trans h.burst

end Linked

end Bursts

section Outcomes

variable {hostAddr remoteSrcAddr : UInt16} {handler : RxHandlerCtx} {data : List UInt8} {ackId : UInt8}
  {ps last : List Packet}

lemma stuttered_outcome (hidle : Idle hostAddr remoteSrcAddr handler) (hack : ackId ≠ 0)
    (hfits : data.length ≤ maxBurstBytes)
    (h : Stuttered (framedBurst data hostAddr remoteSrcAddr ackId) (onLink hostAddr remoteSrcAddr ps)) :
    let ds := dataPackets data hostAddr remoteSrcAddr ackId 1
    commands (callbacks handler ps) = [] ∧ endings (callbacks handler ps) = [(ds.map some, ds.length)] := by
  obtain ⟨he, hc, -⟩ := hidle.whole hack hfits h
  rw [callbacks_onLink hidle.host hidle.remote ps] at he hc
  exact ⟨hc, he⟩

lemma interrupted_outcome (hidle : Idle hostAddr remoteSrcAddr handler) (hack : ackId ≠ 0)
    (hfits : data.length ≤ maxBurstBytes)
    (h : Interrupted (framedBurst data hostAddr remoteSrcAddr ackId) (onLink hostAddr remoteSrcAddr (ps ++ last))) :
    let ds := dataPackets data hostAddr remoteSrcAddr ackId 1
    commands (callbacks handler ps) = [] ∧
      (endings (callbacks handler ps) = [] ∨ endings (callbacks handler ps) = [(ds.map some, ds.length)]) := by
  intro ds
  have hps : Interrupted (framedBurst data hostAddr remoteSrcAddr ackId) (onLink hostAddr remoteSrcAddr ps) := by
    rw [onLink_append] at h
    exact h.of_prefix (List.prefix_append _ _)
  rcases hidle.interrupted hack hfits hps with hnone | ⟨hnone, -⟩ | hall
  · rw [← callbacks_onLink hidle.host hidle.remote ps, hnone]
    exact ⟨rfl, Or.inl rfl⟩
  · rw [← callbacks_onLink hidle.host hidle.remote ps, hnone]
    exact ⟨rfl, Or.inl rfl⟩
  · obtain ⟨hcommands, hendings⟩ := stuttered_outcome hidle hack hfits hall
    exact ⟨hcommands, Or.inr hendings⟩

end Outcomes

lemma encode_fits (p : Packet) (h : p.payloadLength.toNat ≤ payloadLengthMax) : (encode p).length ≤ 255 := by
  rw [encode_length, overhead, addrLength]
  rw [payloadLengthMax] at h
  omega

def undamaged (p : Packet) (h : p.payloadLength.toNat ≤ payloadLengthMax) : Reception :=
  ⟨encode p, false, 0, encode_fits p h⟩

section Letter

variable (hostAddr remoteSrcAddr : UInt16) (ackId : UInt8)

def letterFrame : Fin 3 → Reception
  | 0 => undamaged (emptyPacket hostAddr remoteSrcAddr ackId 0) (Nat.zero_le _)
  | 1 => undamaged ⟨hostAddr, remoteSrcAddr, ackId, 1, 1, [65], rfl⟩ (Nat.succ_le_succ (Nat.zero_le _))
  | 2 => undamaged (emptyPacket hostAddr remoteSrcAddr ackId 255) (Nat.zero_le _)

def letterAck : Fin 3 → Reception
  | 0 => undamaged (emptyPacket remoteSrcAddr hostAddr ackId 0) (Nat.zero_le _)
  | 1 => undamaged (emptyPacket remoteSrcAddr hostAddr ackId 1) (Nat.zero_le _)
  | 2 => undamaged (emptyPacket remoteSrcAddr hostAddr ackId 255) (Nat.zero_le _)

def letterSender : Machine Transceiver := radioAt fun k =>
  if k = 12 then some (letterAck hostAddr remoteSrcAddr ackId 0)
  else if k = 38 then some (letterAck hostAddr remoteSrcAddr ackId 1)
  else if k = 64 then some (letterAck hostAddr remoteSrcAddr ackId 2) else none

def letterReceiver : Machine Transceiver := radioAt fun k =>
  if k = 3 then some (letterFrame hostAddr remoteSrcAddr ackId 0)
  else if k = 25 then some (letterFrame hostAddr remoteSrcAddr ackId 1)
  else if k = 47 then some (letterFrame hostAddr remoteSrcAddr ackId 2) else none

def letterAir : List Crossing := (List.finRange 3).flatMap fun i =>
  [.fromSender (letterFrame hostAddr remoteSrcAddr ackId i).frame (some (letterFrame hostAddr remoteSrcAddr ackId i)),
    .fromReceiver (letterAck hostAddr remoteSrcAddr ackId i).frame (some (letterAck hostAddr remoteSrcAddr ackId i))]

lemma letterAir_fair (behindS behindR : ℕ → UInt8) :
    ∀ c ∈ letterAir hostAddr remoteSrcAddr ackId, c.Fair hostAddr remoteSrcAddr behindS behindR := by
  intro c hc
  obtain ⟨i, -, hi⟩ := List.mem_flatMap.mp hc
  rw [List.mem_cons, List.mem_singleton] at hi
  rcases hi with rfl | rfl
  · rintro r hr -
    rw [Option.some.inj hr]
  · rintro r hr -
    rw [Option.some.inj hr]

end Letter

end LoraNetworking.Transceiver
