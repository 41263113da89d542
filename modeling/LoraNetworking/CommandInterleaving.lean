import LoraNetworking.RxPacketHandler

/-! A framed burst with repetitions and foreign DATA packets woven into it is captured as
if it had arrived alone, and the foreign packets reach the command callback. -/

namespace LoraNetworking

open Transducer

def packetStep (ctx : RxHandlerCtx) (p : Packet) : RxOutcome × RxHandlerCtx :=
  rxPacketHandler ctx (some p)

def callbacks (ctx : RxHandlerCtx) (ps : List Packet) : List Callback :=
  (outputs packetStep ctx ps).flatMap RxOutcome.callbacks

def endings (cs : List Callback) : List (List (Option Packet) × ℕ) :=
  cs.filterMap fun
    | .captureEndHandler pArr n => some (delivered pArr n, n)
    | .commandPacketHandler _ => none

def commands (cs : List Callback) : List Packet :=
  cs.filterMap fun
    | .captureEndHandler _ _ => none
    | .commandPacketHandler p => some p

structure BurstData (hostAddr remoteSrcAddr : UInt16) (ackId : UInt8) (data : List Packet) : Prop where
  bound : data.length ≤ packetCaptureMaxCount
  numbered : ∀ i p, data[i]? = some p → p.destAddress = hostAddr ∧ p.srcAddress = remoteSrcAddr ∧
    p.ackId = ackId ∧ p.sequenceNumber.toNat = i + 1 ∧ p.payloadLength ≠ 0

structure ForeignData (hostAddr remoteSrcAddr : UInt16) (ackId : UInt8) (p : Packet) : Prop where
  dest : p.destAddress = hostAddr
  src : p.srcAddress = remoteSrcAddr
  foreign : p.ackId ≠ ackId
  data : p.payloadLength ≠ 0

/-- `Woven … cur rest ps`: after `cur` has occurred for the first time, `ps` goes on with
repetitions of `cur` and foreign packets, then with the packets `rest` in the same way, and
ends with END and its repetitions. -/
inductive Woven (hostAddr remoteSrcAddr : UInt16) (ackId : UInt8) :
    Packet → List Packet → List Packet → Prop
  | again {cur rest ps} : Woven hostAddr remoteSrcAddr ackId cur rest ps →
      Woven hostAddr remoteSrcAddr ackId cur rest (cur :: ps)
  | foreign {cur rest ps p} : ForeignData hostAddr remoteSrcAddr ackId p →
      Woven hostAddr remoteSrcAddr ackId cur rest ps →
      Woven hostAddr remoteSrcAddr ackId cur rest (p :: ps)
  | next {cur d rest ps} : Woven hostAddr remoteSrcAddr ackId d rest ps →
      Woven hostAddr remoteSrcAddr ackId cur (d :: rest) (d :: ps)
  | finish {cur} (k : ℕ) : Woven hostAddr remoteSrcAddr ackId cur []
      (List.replicate (k + 1) (emptyPacket hostAddr remoteSrcAddr ackId 255))

def freshForeign (ackId : UInt8) : Packet → List Packet → List Packet
  | _, [] => []
  | prev, p :: ps =>
    if p.ackId ≠ ackId ∧ ¬ (p.ackId = prev.ackId ∧ p.sequenceNumber = prev.sequenceNumber) then
      p :: freshForeign ackId p ps
    else freshForeign ackId p ps

@[simp] lemma callbacks_nil (ctx : RxHandlerCtx) : callbacks ctx [] = [] := rfl

@[simp] lemma callbacks_cons (ctx : RxHandlerCtx) (p : Packet) (ps : List Packet) :
    callbacks ctx (p :: ps) =
      (rxPacketHandler ctx (some p)).1.callbacks ++ callbacks (rxPacketHandler ctx (some p)).2 ps := by
  simp [callbacks, packetStep]

lemma callbacks_append (ctx : RxHandlerCtx) (ps qs : List Packet) :
    callbacks ctx (ps ++ qs) = callbacks ctx ps ++ callbacks (run packetStep ctx ps) qs := by
  simp [callbacks, outputs_append]

@[simp] lemma endings_append (cs ds : List Callback) : endings (cs ++ ds) = endings cs ++ endings ds :=
  List.filterMap_append

@[simp] lemma commands_append (cs ds : List Callback) :
    commands (cs ++ ds) = commands cs ++ commands ds :=
  List.filterMap_append

lemma endings_commands (ps : List Packet) : endings (ps.map .commandPacketHandler) = [] := by
  simp [endings]

lemma commands_commands (ps : List Packet) : commands (ps.map .commandPacketHandler) = ps := by
  simp [commands, List.filterMap_map]

structure Standing (hostAddr remoteSrcAddr : UInt16) (ackId : UInt8) (ctx : RxHandlerCtx)
    (held : List (Option Packet)) (prev : Packet) : Prop where
  configured : ctx.configured = true
  host : ctx.hostAddr = hostAddr
  remote : ctx.remoteSrcAddr = remoteSrcAddr
  capture : ctx.capture = true
  session : ctx.captureAckId = ackId
  count : ctx.capturedN = held.length
  entries : ctx.captured = held
  last : Repeats ctx prev

/-- Where the handler stands after the packets `done` of the burst: `cur` is the last of
them (BEGIN at first). -/
structure Weaving (hostAddr remoteSrcAddr : UInt16) (ackId : UInt8) (ctx : RxHandlerCtx)
    (done : List Packet) (cur prev : Packet) : Prop
    extends Standing hostAddr remoteSrcAddr ackId ctx (done.map some) prev where
  curDest : cur.destAddress = hostAddr
  curSrc : cur.srcAddress = remoteSrcAddr
  curAck : cur.ackId = ackId
  curSeq : cur.sequenceNumber.toNat = done.length
  curEmpty : cur.payloadLength = 0 → cur.sequenceNumber = 0
  prevSeq : prev.ackId = ackId → prev.sequenceNumber = cur.sequenceNumber

section Steps

variable {hostAddr remoteSrcAddr : UInt16} {ackId : UInt8} {ctx : RxHandlerCtx}
  {held : List (Option Packet)} {done : List Packet} {cur prev : Packet}

lemma Standing.admits (s : Standing hostAddr remoteSrcAddr ackId ctx held prev) {p : Packet}
    (hd : p.destAddress = hostAddr) (hs : p.srcAddress = remoteSrcAddr) : Admits ctx p :=
  ⟨s.configured, hd.trans s.host.symm, hs.trans s.remote.symm⟩

lemma Standing.repeats_iff (s : Standing hostAddr remoteSrcAddr ackId ctx held prev) (p : Packet) :
    Repeats ctx p ↔ p.ackId = prev.ackId ∧ p.sequenceNumber = prev.sequenceNumber := by
  rw [Repeats, ← s.last.1, ← s.last.2]

lemma Standing.remember (s : Standing hostAddr remoteSrcAddr ackId ctx held prev) (p : Packet) :
    Standing hostAddr remoteSrcAddr ackId (ctx.remember p) held p :=
  { s with last := ⟨rfl, rfl⟩ }

lemma Weaving.not_repeats (w : Weaving hostAddr remoteSrcAddr ackId ctx done cur prev) {p : Packet}
    (hack : p.ackId = ackId) (hseq : p.sequenceNumber ≠ cur.sequenceNumber) : ¬ Repeats ctx p := by
  rw [w.repeats_iff]
  rintro ⟨ha, hs⟩
  exact hseq (hs.trans (w.prevSeq (ha.symm.trans hack)))

lemma Weaving.again (w : Weaving hostAddr remoteSrcAddr ackId ctx done cur prev) :
    (rxPacketHandler ctx (some cur)).1.callbacks = [] ∧
      Weaving hostAddr remoteSrcAddr ackId (rxPacketHandler ctx (some cur)).2 done cur cur := by
  have ha := w.admits w.curDest w.curSrc
  have hw : Weaving hostAddr remoteSrcAddr ackId (ctx.remember cur) done cur cur :=
    { w with toStanding := w.remember cur, prevSeq := fun _ => rfl }
  by_cases hr : Repeats ctx cur
  · rw [rxPacketHandler_redundant ha hr]
    exact ⟨rfl, { w with last := hr, prevSeq := fun _ => rfl }⟩
  rw [rxPacketHandler_fresh ha hr]
  by_cases hlen : cur.payloadLength = 0
  · have ht : checkPacketType cur = .packetBegin := by
      simp [checkPacketType, hlen, w.curEmpty hlen]
    rw [switch_begin_on ht hw.capture]
    exact ⟨rfl, hw⟩
  · have hseq : cur.sequenceNumber.toNat ≠ (ctx.remember cur).capturedN + 1 := by
      rw [hw.count, w.curSeq, List.length_map]
      omega
    obtain ⟨ret, -, he⟩ := switch_data_refused ((checkPacketType_data cur).mpr hlen) hw.capture
      (w.curAck.trans hw.session.symm) hseq
    rw [he]
    exact ⟨rfl, hw⟩

lemma Weaving.foreign (w : Weaving hostAddr remoteSrcAddr ackId ctx done cur prev) {p : Packet}
    (hp : ForeignData hostAddr remoteSrcAddr ackId p) :
    (rxPacketHandler ctx (some p)).1.callbacks =
        (if p.ackId = prev.ackId ∧ p.sequenceNumber = prev.sequenceNumber then []
          else [.commandPacketHandler p]) ∧
      Weaving hostAddr remoteSrcAddr ackId (rxPacketHandler ctx (some p)).2 done cur p := by
  have ha := w.admits hp.dest hp.src
  have hprev : p.ackId = ackId → p.sequenceNumber = cur.sequenceNumber :=
    fun he => (hp.foreign he).elim
  by_cases hr : Repeats ctx p
  · rw [rxPacketHandler_redundant ha hr, if_pos ((w.repeats_iff p).mp hr)]
    exact ⟨rfl, { w with last := hr, prevSeq := hprev }⟩
  · have hack : p.ackId ≠ (ctx.remember p).captureAckId := by
      intro he
      exact hp.foreign (he.trans w.session)
    rw [rxPacketHandler_fresh ha hr, if_neg (fun he => hr ((w.repeats_iff p).mpr he)),
      switch_data_command ((checkPacketType_data p).mpr hp.data) hack]
    exact ⟨rfl, { w with toStanding := w.remember p, prevSeq := hprev }⟩

lemma Weaving.next (w : Weaving hostAddr remoteSrcAddr ackId ctx done cur prev) {d : Packet}
    (hd : d.destAddress = hostAddr) (hs : d.srcAddress = remoteSrcAddr) (hack : d.ackId = ackId)
    (hseq : d.sequenceNumber.toNat = done.length + 1) (hdata : d.payloadLength ≠ 0)
    (hn : done.length < packetCaptureMaxCount) :
    (rxPacketHandler ctx (some d)).1.callbacks = [] ∧
      Weaving hostAddr remoteSrcAddr ackId (rxPacketHandler ctx (some d)).2 (done ++ [d]) d d := by
  have hne : d.sequenceNumber ≠ cur.sequenceNumber := by
    intro he
    have hcur := w.curSeq
    rw [← he] at hcur
    omega
  have hw : Standing hostAddr remoteSrcAddr ackId (ctx.remember d) (done.map some) d := w.remember d
  have hcount : (ctx.remember d).capturedN = done.length := by simpa using hw.count
  have hroom : (ctx.remember d).capturedN < packetCaptureMaxCount := by rwa [hcount]
  rw [rxPacketHandler_fresh (w.admits hd hs) (w.not_repeats hack hne),
    switch_data_captured ((checkPacketType_data d).mpr hdata) hw.capture (hack.trans hw.session.symm)
      hroom (by rwa [hcount])]
  refine ⟨rfl, ⟨{ hw with count := ?_, entries := ?_ }, hd, hs, hack, by simpa using hseq,
    fun he => (hdata he).elim, fun _ => rfl⟩⟩
  · simp [RxHandlerCtx.store, hcount]
  · rw [captured_store _ _ hroom, hw.entries]
    simp

lemma Weaving.not_repeats_end (w : Weaving hostAddr remoteSrcAddr ackId ctx done cur prev)
    (hn : done.length ≤ packetCaptureMaxCount) :
    ¬ Repeats ctx (emptyPacket hostAddr remoteSrcAddr ackId 255) := by
  apply w.not_repeats rfl
  intro he
  have hcur := w.curSeq
  rw [← he] at hcur
  have hfin : (emptyPacket hostAddr remoteSrcAddr ackId 255).sequenceNumber.toNat = 255 := rfl
  simp only [packetCaptureMaxCount] at hn
  omega

end Steps

lemma repeated {ctx : RxHandlerCtx} {p : Packet} (ha : Admits ctx p) (hr : Repeats ctx p) (k : ℕ) :
    callbacks ctx (List.replicate k p) = [] ∧ run packetStep ctx (List.replicate k p) = ctx := by
  induction k with
  | zero => exact ⟨rfl, rfl⟩
  | succ k ih =>
    rw [List.replicate_succ, callbacks_cons, run_cons, packetStep, rxPacketHandler_redundant ha hr]
    exact ih

/-- No session is open, and the filter remembers nothing that looks like the BEGIN of a burst
with a non-zero id. -/
structure Idle (hostAddr remoteSrcAddr : UInt16) (ctx : RxHandlerCtx) : Prop where
  configured : ctx.configured = true
  host : ctx.hostAddr = hostAddr
  remote : ctx.remoteSrcAddr = remoteSrcAddr
  capture : ctx.capture = false
  fresh : ctx.lastReceivedAckId = 0 ∨ ctx.lastReceivedSeqNumber ≠ 0

lemma Standing.ended {hostAddr remoteSrcAddr : UInt16} {ackId : UInt8} {ctx : RxHandlerCtx}
    {held : List (Option Packet)} {prev : Packet}
    (s : Standing hostAddr remoteSrcAddr ackId ctx held prev) (endAckId : UInt8)
    (hr : ¬ Repeats ctx (emptyPacket hostAddr remoteSrcAddr endAckId 255)) (k : ℕ) :
    let fins := List.replicate (k + 1) (emptyPacket hostAddr remoteSrcAddr endAckId 255)
    endings (callbacks ctx fins) = [(held, held.length)] ∧ commands (callbacks ctx fins) = [] ∧
      Idle hostAddr remoteSrcAddr (run packetStep ctx fins) := by
  intro fins
  let fin := emptyPacket hostAddr remoteSrcAddr endAckId 255
  have hfins : fins = fin :: List.replicate k fin := rfl
  have hend : rxPacketHandler ctx (some fin) =
      (⟨.captureEnd, [.captureEndHandler ctx.capturedPacketArr ctx.capturedN]⟩,
        rxHandlerReset (ctx.remember fin)) := by
    rw [rxPacketHandler_fresh (s.admits rfl rfl) hr]
    exact switch_end_on rfl s.capture
  have hidle : Idle hostAddr remoteSrcAddr (rxHandlerReset (ctx.remember fin)) :=
    ⟨s.configured, s.host, s.remote, rfl, Or.inr (show (255 : UInt8) ≠ 0 by decide)⟩
  obtain ⟨hcb, hrun⟩ := repeated (p := fin)
    ⟨hidle.configured, hidle.host.symm, hidle.remote.symm⟩ ⟨rfl, rfl⟩ k
  have hfirst : callbacks ctx fins = [.captureEndHandler ctx.capturedPacketArr ctx.capturedN] := by
    rw [hfins, callbacks_cons, hend, hcb]
    rfl
  have harray : endings [.captureEndHandler ctx.capturedPacketArr ctx.capturedN] =
      [(ctx.captured, ctx.capturedN)] := rfl
  rw [hfirst, harray, s.entries, s.count, hfins, run_cons, packetStep, hend, hrun]
  exact ⟨rfl, rfl, hidle⟩

lemma freshForeign_own {ackId : UInt8} {prev p : Packet} (h : p.ackId = ackId) (ps : List Packet) :
    freshForeign ackId prev (p :: ps) = freshForeign ackId p ps := by
  simp [freshForeign, h]

lemma freshForeign_foreign {ackId : UInt8} {prev p : Packet} (h : p.ackId ≠ ackId) (ps : List Packet) :
    freshForeign ackId prev (p :: ps) =
      (if p.ackId = prev.ackId ∧ p.sequenceNumber = prev.sequenceNumber then [] else [p]) ++
        freshForeign ackId p ps := by
  by_cases hr : p.ackId = prev.ackId ∧ p.sequenceNumber = prev.sequenceNumber
  · simp [freshForeign, hr]
  · simp only [freshForeign, h, hr, ne_eq, not_false_eq_true, and_self, if_true, if_false]
    rfl

lemma freshForeign_replicate (ackId : UInt8) (prev p : Packet) (h : p.ackId = ackId) (k : ℕ) :
    freshForeign ackId prev (List.replicate k p) = [] := by
  induction k generalizing prev with
  | zero => rfl
  | succ k ih => rw [List.replicate_succ, freshForeign_own h, ih]

lemma woven_callbacks {hostAddr remoteSrcAddr : UInt16} {ackId : UInt8} {cur : Packet}
    {rest ps : List Packet} (hw : Woven hostAddr remoteSrcAddr ackId cur rest ps)
    {ctx : RxHandlerCtx} {done : List Packet} {prev : Packet}
    (hdata : BurstData hostAddr remoteSrcAddr ackId (done ++ rest))
    (w : Weaving hostAddr remoteSrcAddr ackId ctx done cur prev) :
    endings (callbacks ctx ps) = [((done ++ rest).map some, (done ++ rest).length)] ∧
      commands (callbacks ctx ps) = freshForeign ackId prev ps := by
  induction hw generalizing ctx done prev with
  | again _ ih =>
    obtain ⟨hcb, hw'⟩ := w.again
    obtain ⟨he, hc⟩ := ih hdata hw'
    rw [callbacks_cons, hcb, freshForeign_own w.curAck]
    exact ⟨he, hc⟩
  | @foreign cur rest ps p hp _ ih =>
    obtain ⟨hcb, hw'⟩ := w.foreign hp
    obtain ⟨he, hc⟩ := ih hdata hw'
    rw [callbacks_cons, hcb, endings_append, commands_append, he, hc, freshForeign_foreign hp.foreign]
    split_ifs <;> exact ⟨rfl, rfl⟩
  | @next cur d rest ps _ ih =>
    have hlen := hdata.bound
    simp only [List.length_append, List.length_cons] at hlen
    obtain ⟨hd, hs, hack, hseq, hpay⟩ := hdata.numbered done.length d (by simp)
    obtain ⟨hcb, hw'⟩ := w.next hd hs hack hseq hpay (by omega)
    have hsplit : done ++ d :: rest = done ++ [d] ++ rest := by simp
    rw [hsplit] at hdata ⊢
    obtain ⟨he, hc⟩ := ih hdata hw'
    rw [callbacks_cons, hcb, freshForeign_own hack]
    exact ⟨he, hc⟩
  | @finish cur k =>
    have hbound := hdata.bound
    rw [List.append_nil] at hbound ⊢
    obtain ⟨he, hc, -⟩ := w.ended ackId (w.not_repeats_end hbound) k
    rw [List.length_map] at he
    exact ⟨he, hc.trans (freshForeign_replicate ackId prev _ rfl _).symm⟩

lemma woven_plain (hostAddr remoteSrcAddr : UInt16) (ackId : UInt8) (cur : Packet)
    (rest : List Packet) : Woven hostAddr remoteSrcAddr ackId cur rest
      (rest ++ [emptyPacket hostAddr remoteSrcAddr ackId 255]) := by
  induction rest generalizing cur with
  | nil => exact .finish 0
  | cons d rest ih => exact .next (ih d)

lemma weaving_begin {hostAddr remoteSrcAddr : UInt16} {ackId : UInt8} {ctx : RxHandlerCtx}
    (hconf : ctx.configured = true) (hhost : ctx.hostAddr = hostAddr)
    (hremote : ctx.remoteSrcAddr = remoteSrcAddr) (hoff : ctx.capture = false)
    (hlast : ¬ (ackId = ctx.lastReceivedAckId ∧ 0 = ctx.lastReceivedSeqNumber)) :
    let first := emptyPacket hostAddr remoteSrcAddr ackId 0
    (rxPacketHandler ctx (some first)).1.callbacks = [] ∧
      Weaving hostAddr remoteSrcAddr ackId (rxPacketHandler ctx (some first)).2 [] first first := by
  intro first
  have hoff' : (ctx.remember first).capture = false := hoff
  have hfresh : ¬ Repeats ctx first := hlast
  rw [rxPacketHandler_fresh ⟨hconf, hhost.symm, hremote.symm⟩ hfresh, switch_begin_off rfl hoff']
  exact ⟨rfl, ⟨⟨hconf, hhost, hremote, rfl, rfl, rfl, by
    simp [RxHandlerCtx.captured, delivered, RxHandlerCtx.openSession, rxHandlerReset],
    ⟨rfl, rfl⟩⟩, rfl, rfl, rfl, rfl, fun _ => rfl, fun _ => rfl⟩⟩

theorem foreign_data_transparent (hostAddr remoteSrcAddr : UInt16) (ackId : UInt8)
    (ctx : RxHandlerCtx) (data ps : List Packet) (hconf : ctx.configured = true)
    (hhost : ctx.hostAddr = hostAddr) (hremote : ctx.remoteSrcAddr = remoteSrcAddr)
    (hoff : ctx.capture = false)
    (hlast : ¬ (ackId = ctx.lastReceivedAckId ∧ 0 = ctx.lastReceivedSeqNumber))
    (hdata : BurstData hostAddr remoteSrcAddr ackId data)
    (hw : Woven hostAddr remoteSrcAddr ackId (emptyPacket hostAddr remoteSrcAddr ackId 0) data ps) :
    let first := emptyPacket hostAddr remoteSrcAddr ackId 0
    let fin := emptyPacket hostAddr remoteSrcAddr ackId 255
    endings (callbacks ctx (first :: ps)) = [(data.map some, data.length)] ∧
      endings (callbacks ctx (first :: (data ++ [fin]))) = endings (callbacks ctx (first :: ps)) ∧
      commands (callbacks ctx (first :: ps)) = freshForeign ackId first ps := by
  intro first fin
  obtain ⟨hcb, hstart⟩ := weaving_begin hconf hhost hremote hoff hlast
  have hdata' : BurstData hostAddr remoteSrcAddr ackId ([] ++ data) := hdata
  obtain ⟨he, hc⟩ := woven_callbacks hw hdata' hstart
  obtain ⟨hplain, -⟩ := woven_callbacks (woven_plain _ _ _ _ data) hdata' hstart
  refine ⟨?_, ?_, ?_⟩
  · rw [callbacks_cons, hcb]
    exact he
  · rw [callbacks_cons, callbacks_cons, hcb]
    exact hplain.trans he.symm
  · rw [callbacks_cons, hcb]
    exact hc

theorem foreign_data_transparent_single :
    let d : Packet := ⟨1, 2, 5, 1, 1, [65], rfl⟩
    let c : Packet := ⟨1, 2, 6, 0, 1, [66], rfl⟩
    let first := emptyPacket 1 2 5 0
    let fin := emptyPacket 1 2 5 255
    let ps := [first, c, c, first, d, c, d, fin, fin]
    endings (callbacks (rxHandlerInit 1 2) ps) = [([some d], 1)] ∧
      commands (callbacks (rxHandlerInit 1 2) ps) = [c, c] := by
  intro d c first fin ps
  have hdata : BurstData 1 2 5 [d] := by
    refine ⟨by decide, fun i p hp => ?_⟩
    obtain ⟨hi, rfl⟩ := List.getElem?_eq_some_iff.mp hp
    obtain rfl : i = 0 := by simpa using hi
    exact ⟨rfl, rfl, rfl, rfl, show (1 : UInt8) ≠ 0 by decide⟩
  have hc : ForeignData 1 2 5 c := ⟨rfl, rfl, by decide, by decide⟩
  have hw : Woven 1 2 5 first [d] [c, c, first, d, c, d, fin, fin] :=
    .foreign hc (.foreign hc (.again (.next (.foreign hc (.again (.finish 1))))))
  obtain ⟨he, -, hcs⟩ := foreign_data_transparent 1 2 5 (rxHandlerInit 1 2) [d] _ rfl rfl rfl rfl
    (by decide) hdata hw
  exact ⟨he, hcs⟩

end LoraNetworking
