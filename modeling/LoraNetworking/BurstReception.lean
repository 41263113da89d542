import LoraNetworking.BurstCapacity
import LoraNetworking.Lib.StopAndWait

/-! What a handler makes of a burst whose packets all arrive any number of times: alone, cut
short, and on top of a session that is already open. -/

namespace LoraNetworking

open StopAndWait Transducer

section OpenSession

variable {hostAddr remoteSrcAddr : UInt16} {ackId : UInt8} {ctx : RxHandlerCtx}
  {held : List (Option Packet)} {prev p : Packet} {data : List UInt8} {heard : List Packet}

lemma Standing.repeated (s : Standing hostAddr remoteSrcAddr ackId ctx held prev)
    (hd : prev.destAddress = hostAddr) (hs : prev.srcAddress = remoteSrcAddr) (k : ℕ) :
    callbacks ctx (List.replicate k prev) = [] ∧
      Standing hostAddr remoteSrcAddr ackId (run packetStep ctx (List.replicate k prev)) held prev := by
  obtain ⟨hcbs, hrun⟩ := LoraNetworking.repeated (s.admits hd hs) s.last k
  rw [hcbs, hrun]
  exact ⟨rfl, s⟩

lemma Standing.begin_repeated (s : Standing hostAddr remoteSrcAddr ackId ctx held prev)
    (other : UInt8) (k : ℕ) :
    let first := emptyPacket hostAddr remoteSrcAddr other 0
    callbacks ctx (List.replicate (k + 1) first) = [] ∧
      Standing hostAddr remoteSrcAddr ackId (run packetStep ctx (List.replicate (k + 1) first)) held
        first := by
  intro first
  by_cases hr : Repeats ctx first
  · have hs : Standing hostAddr remoteSrcAddr ackId ctx held first := { s with last := hr }
    exact hs.repeated rfl rfl (k + 1)
  · have hs : Standing hostAddr remoteSrcAddr ackId (ctx.remember first) held first := s.remember first
    have hstep : rxPacketHandler ctx (some first) = (⟨.captureAlreadyOn, []⟩, ctx.remember first) := by
      rw [rxPacketHandler_fresh (s.admits rfl rfl) hr, switch_begin_on rfl hs.capture]
    obtain ⟨hcbs, hrun⟩ := hs.repeated rfl rfl k
    rw [List.replicate_succ, callbacks_cons, hstep, hcbs, run_cons, packetStep, hstep]
    exact ⟨rfl, hrun⟩

lemma Standing.foreign_repeated (s : Standing hostAddr remoteSrcAddr ackId ctx held prev)
    (hp : ForeignData hostAddr remoteSrcAddr ackId p)
    (hfresh : p.sequenceNumber ≠ prev.sequenceNumber) (k : ℕ) :
    callbacks ctx (List.replicate (k + 1) p) = [.commandPacketHandler p] ∧
      Standing hostAddr remoteSrcAddr ackId (run packetStep ctx (List.replicate (k + 1) p)) held p := by
  have hr : ¬ Repeats ctx p := fun hr => hfresh ((s.repeats_iff p).mp hr).2
  have hs : Standing hostAddr remoteSrcAddr ackId (ctx.remember p) held p := s.remember p
  have hack : p.ackId ≠ (ctx.remember p).captureAckId := by
    rw [hs.session]
    exact hp.foreign
  have hstep : rxPacketHandler ctx (some p) =
      (⟨.commandPacket, [.commandPacketHandler p]⟩, ctx.remember p) := by
    rw [rxPacketHandler_fresh (s.admits hp.dest hp.src) hr,
      switch_data_command ((checkPacketType_data p).mpr hp.data) hack]
  obtain ⟨hcbs, hrun⟩ := hs.repeated hp.dest hp.src k
  rw [List.replicate_succ, callbacks_cons, hstep, hcbs, run_cons, packetStep, hstep]
  exact ⟨rfl, hrun⟩

lemma Standing.own_repeated (s : Standing hostAddr remoteSrcAddr ackId ctx held prev)
    (hd : p.destAddress = hostAddr) (hs : p.srcAddress = remoteSrcAddr) (hack : p.ackId = ackId)
    (hdata : p.payloadLength ≠ 0) (hfresh : p.sequenceNumber ≠ prev.sequenceNumber)
    (hle : p.sequenceNumber.toNat ≤ packetCaptureMaxCount) (k : ℕ) :
    callbacks ctx (List.replicate (k + 1) p) = [] ∧
      Standing hostAddr remoteSrcAddr ackId (run packetStep ctx (List.replicate (k + 1) p))
        (if p.sequenceNumber.toNat = held.length + 1 then held ++ [some p] else held) p := by
  have hr : ¬ Repeats ctx p := fun hr => hfresh ((s.repeats_iff p).mp hr).2
  have hw : Standing hostAddr remoteSrcAddr ackId (ctx.remember p) held p := s.remember p
  have ht : checkPacketType p = .packetData := (checkPacketType_data p).mpr hdata
  have hsession : p.ackId = (ctx.remember p).captureAckId := hack.trans hw.session.symm
  have hstep : (rxPacketHandler ctx (some p)).1.callbacks = [] ∧
      Standing hostAddr remoteSrcAddr ackId (rxPacketHandler ctx (some p)).2
        (if p.sequenceNumber.toNat = held.length + 1 then held ++ [some p] else held) p := by
    rw [rxPacketHandler_fresh (s.admits hd hs) hr]
    split_ifs with hseq
    · have hroom : (ctx.remember p).capturedN < packetCaptureMaxCount := by
        rw [hw.count]
        omega
      rw [switch_data_captured ht hw.capture hsession hroom (by rwa [hw.count])]
      refine ⟨rfl, { hw with count := ?_, entries := ?_ }⟩
      · simp [RxHandlerCtx.store, hw.count]
      · rw [captured_store _ _ hroom, hw.entries]
    · obtain ⟨ret, -, he⟩ := switch_data_refused ht hw.capture hsession (by rwa [hw.count])
      rw [he]
      exact ⟨rfl, hw⟩
  obtain ⟨hcb, hs'⟩ := hstep
  obtain ⟨hcbs, hrun⟩ := hs'.repeated hd hs k
  rw [List.replicate_succ, callbacks_cons, hcb, hcbs, run_cons]
  exact ⟨rfl, hrun⟩

lemma Standing.foreign_stuttered {other : UInt8} {gone ds : List Packet} (h : Stuttered ds heard)
    (hother : other ≠ ackId) (hdata : BurstData hostAddr remoteSrcAddr other (gone ++ ds))
    (s : Standing hostAddr remoteSrcAddr ackId ctx held prev)
    (hprev : prev.sequenceNumber.toNat = gone.length) :
    callbacks ctx heard = ds.map .commandPacketHandler ∧ ∃ last,
      Standing hostAddr remoteSrcAddr ackId (run packetStep ctx heard) held last ∧
        last.sequenceNumber.toNat = (gone ++ ds).length := by
  induction h generalizing ctx gone prev with
  | nil => exact ⟨rfl, prev, s, by simpa using hprev⟩
  | @cons d ds hs k _ ih =>
    obtain ⟨hd, hs, hack, hseq, hpay⟩ := hdata.numbered gone.length d (by simp)
    have hfresh : d.sequenceNumber ≠ prev.sequenceNumber := by
      intro he
      rw [he] at hseq
      omega
    obtain ⟨hcb, hw⟩ := s.foreign_repeated ⟨hd, hs, by rwa [hack], hpay⟩ hfresh k
    have hsplit : gone ++ d :: ds = gone ++ [d] ++ ds := by simp
    rw [hsplit] at hdata ⊢
    obtain ⟨hrest, hlast⟩ := ih hdata hw (by simpa using hseq)
    rw [callbacks_append, hcb, hrest, run_append]
    exact ⟨rfl, hlast⟩

lemma Standing.own_stuttered {gone ds : List Packet} (h : Stuttered ds heard)
    (hdata : BurstData hostAddr remoteSrcAddr ackId (gone ++ ds))
    (s : Standing hostAddr remoteSrcAddr ackId ctx held prev)
    (hprev : prev.sequenceNumber.toNat = gone.length) (hle : gone.length ≤ held.length) :
    callbacks ctx heard = [] ∧ ∃ last,
      Standing hostAddr remoteSrcAddr ackId (run packetStep ctx heard)
        (held ++ (ds.drop (held.length - gone.length)).map some) last ∧
        last.sequenceNumber.toNat = (gone ++ ds).length := by
  induction h generalizing ctx gone prev held with
  | nil => exact ⟨rfl, prev, by simpa using s, by simpa using hprev⟩
  | @cons d ds hs k _ ih =>
    have hbound := hdata.bound
    obtain ⟨hd, hs, hack, hseq, hpay⟩ := hdata.numbered gone.length d (by simp)
    have hfresh : d.sequenceNumber ≠ prev.sequenceNumber := by
      intro he
      rw [he] at hseq
      omega
    simp only [List.length_append, List.length_cons] at hbound
    obtain ⟨hcb, hw⟩ := s.own_repeated hd hs hack hpay hfresh (by omega) k
    have hsplit : gone ++ d :: ds = gone ++ [d] ++ ds := by simp
    rw [hsplit] at hdata ⊢
    -- either the session holds a packet with the number of `d` already, or `d` is the next one
    have hheld : held ++ ((d :: ds).drop (held.length - gone.length)).map some =
        (if d.sequenceNumber.toNat = held.length + 1 then held ++ [some d] else held) ++
          (ds.drop ((if d.sequenceNumber.toNat = held.length + 1 then held ++ [some d] else held).length -
            (gone ++ [d]).length)).map some := by
      rw [hseq]
      split_ifs with hnext
      · obtain hlen : gone.length = held.length := by omega
        simp [hlen]
      · obtain ⟨m, hm⟩ : ∃ m, held.length - gone.length = m + 1 :=
          ⟨held.length - gone.length - 1, by omega⟩
        have hm' : held.length - (gone ++ [d]).length = m := by
          simp only [List.length_append, List.length_singleton]
          omega
        rw [hm, hm', List.drop_succ_cons]
    have hle' : (gone ++ [d]).length ≤
        (if d.sequenceNumber.toNat = held.length + 1 then held ++ [some d] else held).length := by
      rw [hseq]
      split_ifs with hnext
      · simpa using hle
      · simp only [List.length_append, List.length_singleton]
        omega
    obtain ⟨hrest, hlast⟩ := ih hdata hw (by simpa using hseq) hle'
    rw [callbacks_append, hcb, hrest, run_append, hheld]
    exact ⟨rfl, hlast⟩

lemma framedBurst_heard (h : Stuttered (framedBurst data hostAddr remoteSrcAddr ackId) heard) :
    ∃ k middle j, heard = List.replicate (k + 1) (emptyPacket hostAddr remoteSrcAddr ackId 0) ++
        (middle ++ List.replicate (j + 1) (emptyPacket hostAddr remoteSrcAddr ackId 255)) ∧
      Stuttered (dataPackets data hostAddr remoteSrcAddr ackId 1) middle := by
  obtain ⟨k, rest, rfl, hrest⟩ := h.cons_inv
  obtain ⟨middle, closing, rfl, hmiddle, hclosing⟩ := hrest.append_inv
  obtain ⟨j, rfl⟩ := hclosing.single_inv
  exact ⟨k, middle, j, rfl, hmiddle⟩

lemma Standing.not_repeats_end (s : Standing hostAddr remoteSrcAddr ackId ctx held prev)
    (hprev : prev.sequenceNumber.toNat ≤ packetCaptureMaxCount) (endAckId : UInt8) :
    ¬ Repeats ctx (emptyPacket hostAddr remoteSrcAddr endAckId 255) := by
  rw [s.repeats_iff]
  rintro ⟨-, he⟩
  rw [← he] at hprev
  exact absurd hprev (by simp [emptyPacket, packetCaptureMaxCount])

lemma Standing.whole_foreign {other : UInt8} (s : Standing hostAddr remoteSrcAddr ackId ctx held prev)
    (hother : other ≠ ackId) (hfits : data.length ≤ maxBurstBytes)
    (hheard : Stuttered (framedBurst data hostAddr remoteSrcAddr other) heard) :
    endings (callbacks ctx heard) = [(held, held.length)] ∧
      commands (callbacks ctx heard) = dataPackets data hostAddr remoteSrcAddr other 1 ∧
      Idle hostAddr remoteSrcAddr (run packetStep ctx heard) := by
  have hdata : BurstData hostAddr remoteSrcAddr other
      ([] ++ dataPackets data hostAddr remoteSrcAddr other 1) := burstData_dataPackets hfits
  obtain ⟨k, middle, j, rfl, hmiddle⟩ := framedBurst_heard hheard
  obtain ⟨hcb₁, hs₁⟩ := s.begin_repeated other k
  obtain ⟨hcb₂, last, hs₂, hseq⟩ := hs₁.foreign_stuttered hmiddle hother hdata rfl
  obtain ⟨he, hc, hidle⟩ := hs₂.ended other (hs₂.not_repeats_end (hseq.le.trans hdata.bound) other) j
  rw [callbacks_append, callbacks_append, hcb₁, hcb₂, run_append, run_append]
  refine ⟨?_, ?_, hidle⟩
  · rw [List.nil_append, endings_append, endings_commands, he, List.nil_append]
  · rw [List.nil_append, commands_append, commands_commands, hc, List.append_nil]

lemma Standing.rest_own {ds : List Packet} (s : Standing hostAddr remoteSrcAddr ackId ctx held prev)
    (hprev : prev.sequenceNumber = 0) (hdata : BurstData hostAddr remoteSrcAddr ackId ds)
    (hheard : Stuttered ds heard) (j : ℕ) :
    let fins := List.replicate (j + 1) (emptyPacket hostAddr remoteSrcAddr ackId 255)
    let all := held ++ (ds.drop held.length).map some
    endings (callbacks ctx (heard ++ fins)) = [(all, all.length)] ∧
      commands (callbacks ctx (heard ++ fins)) = [] ∧
      Idle hostAddr remoteSrcAddr (run packetStep ctx (heard ++ fins)) := by
  intro fins all
  have hdata' : BurstData hostAddr remoteSrcAddr ackId ([] ++ ds) := hdata
  obtain ⟨hcb, last, hs, hseq⟩ := s.own_stuttered hheard hdata' (by rw [hprev]; rfl) (Nat.zero_le _)
  obtain ⟨he, hc, hidle⟩ := hs.ended ackId (hs.not_repeats_end (hseq.le.trans hdata.bound) ackId) j
  rw [callbacks_append, hcb, run_append]
  exact ⟨he, hc, hidle⟩

lemma Standing.whole_own (s : Standing hostAddr remoteSrcAddr ackId ctx held prev)
    (hfits : data.length ≤ maxBurstBytes)
    (hheard : Stuttered (framedBurst data hostAddr remoteSrcAddr ackId) heard) :
    let all := held ++ ((dataPackets data hostAddr remoteSrcAddr ackId 1).drop held.length).map some
    endings (callbacks ctx heard) = [(all, all.length)] ∧ commands (callbacks ctx heard) = [] ∧
      Idle hostAddr remoteSrcAddr (run packetStep ctx heard) := by
  obtain ⟨k, middle, j, rfl, hmiddle⟩ := framedBurst_heard hheard
  obtain ⟨hcb, hs⟩ := s.begin_repeated ackId k
  rw [callbacks_append, hcb, run_append]
  exact hs.rest_own rfl (burstData_dataPackets hfits) hmiddle j

end OpenSession

section NoSession

variable {hostAddr remoteSrcAddr : UInt16} {ackId : UInt8} {ctx : RxHandlerCtx}
  {data : List UInt8} {heard : List Packet}

lemma Idle.begin_repeated (h : Idle hostAddr remoteSrcAddr ctx) (hack : ackId ≠ 0) (k : ℕ) :
    let first := emptyPacket hostAddr remoteSrcAddr ackId 0
    callbacks ctx (List.replicate (k + 1) first) = [] ∧
      Standing hostAddr remoteSrcAddr ackId (run packetStep ctx (List.replicate (k + 1) first)) []
        first := by
  intro first
  have hlast : ¬ (ackId = ctx.lastReceivedAckId ∧ 0 = ctx.lastReceivedSeqNumber) := by
    rintro ⟨ha, hs⟩
    cases h.fresh with
    | inl he => exact hack (ha.trans he)
    | inr he => exact he hs.symm
  obtain ⟨hcb, hw⟩ := weaving_begin h.configured h.host h.remote h.capture hlast
  obtain ⟨hcbs, hs⟩ := hw.toStanding.repeated rfl rfl k
  rw [List.replicate_succ, callbacks_cons, hcb, run_cons]
  exact ⟨hcbs, hs⟩

lemma Idle.whole (h : Idle hostAddr remoteSrcAddr ctx) (hack : ackId ≠ 0)
    (hfits : data.length ≤ maxBurstBytes)
    (hheard : Stuttered (framedBurst data hostAddr remoteSrcAddr ackId) heard) :
    let ds := dataPackets data hostAddr remoteSrcAddr ackId 1
    endings (callbacks ctx heard) = [(ds.map some, ds.length)] ∧ commands (callbacks ctx heard) = [] ∧
      Idle hostAddr remoteSrcAddr (run packetStep ctx heard) := by
  intro ds
  obtain ⟨k, middle, j, rfl, hmiddle⟩ := framedBurst_heard hheard
  obtain ⟨hcb, hs⟩ := h.begin_repeated hack k
  rw [callbacks_append, hcb, run_append, ← List.length_map]
  exact hs.rest_own rfl (burstData_dataPackets hfits) hmiddle j

lemma burstData_take {ds : List Packet} (h : BurstData hostAddr remoteSrcAddr ackId ds) (i : ℕ) :
    BurstData hostAddr remoteSrcAddr ackId (ds.take i) := by
  refine ⟨(List.length_take_le' i ds).trans h.bound, fun j p hp => h.numbered j p ?_⟩
  rw [List.getElem?_take] at hp
  split_ifs at hp with hj
  exact hp

lemma Idle.interrupted (h : Idle hostAddr remoteSrcAddr ctx) (hack : ackId ≠ 0)
    (hfits : data.length ≤ maxBurstBytes)
    (hheard : Interrupted (framedBurst data hostAddr remoteSrcAddr ackId) heard) :
    heard = [] ∨
    (callbacks ctx heard = [] ∧ ∃ i last,
      Standing hostAddr remoteSrcAddr ackId (run packetStep ctx heard)
        (((dataPackets data hostAddr remoteSrcAddr ackId 1).take i).map some) last) ∨
    Stuttered (framedBurst data hostAddr remoteSrcAddr ackId) heard := by
  obtain ⟨pre, hpre, hstut⟩ := hheard
  cases pre with
  | nil =>
    cases hstut
    exact Or.inl rfl
  | cons p pre =>
    rw [framedBurst, List.cons_prefix_cons] at hpre
    obtain ⟨rfl, hpre⟩ := hpre
    rcases List.prefix_concat_iff.mp hpre with rfl | hprefix
    · exact Or.inr (Or.inr hstut)
    · have hdata : BurstData hostAddr remoteSrcAddr ackId ([] ++ pre) := by
        rw [List.nil_append, List.prefix_iff_eq_take.mp hprefix]
        exact burstData_take (burstData_dataPackets hfits) _
      obtain ⟨k, rest, rfl, hrest⟩ := hstut.cons_inv
      obtain ⟨hcb, hs⟩ := h.begin_repeated hack k
      obtain ⟨hcbs, last, hlast, -⟩ := hs.own_stuttered hrest hdata rfl (Nat.zero_le _)
      refine Or.inr (Or.inl ⟨?_, pre.length, last, ?_⟩)
      · rw [callbacks_append, hcb, hcbs]
        rfl
      · rw [run_append, ← List.prefix_iff_eq_take.mp hprefix]
        exact hlast

end NoSession

end LoraNetworking
