import LoraNetworking.BurstDelivery

/-! A burst after others that may have been given up: the receiver keeps the session of a burst
that was given up, and the next burst runs into it. -/

namespace LoraNetworking

open StateProg StopAndWait Transducer

structure Serving (hostAddr remoteSrcAddr : UInt16) (ctx : RxHandlerCtx) : Prop where
  configured : ctx.configured = true
  host : ctx.hostAddr = hostAddr
  remote : ctx.remoteSrcAddr = remoteSrcAddr
  bound : ctx.capturedN ≤ packetCaptureMaxCount
  fresh : ctx.capture = false → ctx.lastReceivedAckId = 0 ∨ ctx.lastReceivedSeqNumber ≠ 0

section Handler

variable {hostAddr remoteSrcAddr : UInt16} {ctx : RxHandlerCtx} {p : Packet}

lemma Serving.step (h : Serving hostAddr remoteSrcAddr ctx)
    (hp : p.sequenceNumber = 0 → p.payloadLength = 0) :
    Serving hostAddr remoteSrcAddr (rxPacketHandler ctx (some p)).2 := by
  have hstep := rxPacketHandler_step ctx (some p)
  revert hstep
  generalize (rxPacketHandler ctx (some p)).1 = outcome
  generalize (rxPacketHandler ctx (some p)).2 = ctx'
  intro hstep
  cases hstep with
  | ignored => exact h
  | redundant => exact h
  | begin =>
    exact ⟨h.configured, h.host, h.remote, Nat.zero_le _, by simp [RxHandlerCtx.openSession]⟩
  | refused _ _ _ hbegin =>
    refine ⟨h.configured, h.host, h.remote, h.bound, fun hoff => Or.inr fun hseq => ?_⟩
    have hzero : p.sequenceNumber = 0 := hseq
    have hon : ctx.capture = true := hbegin (by simp [checkPacketType, hp hzero, hzero])
    exact absurd (hoff.symm.trans hon) (by decide)
  | captured _ _ _ hc _ hn =>
    refine ⟨h.configured, h.host, h.remote, hn, fun hoff => ?_⟩
    exact absurd ((show ctx.capture = false from hoff).symm.trans hc) (by decide)
  | command _ _ ht =>
    exact ⟨h.configured, h.host, h.remote, h.bound,
      fun _ => Or.inr fun hseq => (checkPacketType_data p).mp ht (hp hseq)⟩
  | finish _ _ ht =>
    refine ⟨h.configured, h.host, h.remote, Nat.zero_le _, fun _ => Or.inr fun hseq => ?_⟩
    simp [checkPacketType, hp hseq, show p.sequenceNumber = 0 from hseq] at ht

lemma Serving.run {ps : List Packet} (h : Serving hostAddr remoteSrcAddr ctx)
    (hps : ∀ p ∈ ps, p.sequenceNumber = 0 → p.payloadLength = 0) :
    Serving hostAddr remoteSrcAddr (Transducer.run packetStep ctx ps) := by
  induction ps generalizing ctx with
  | nil => exact h
  | cons p ps ih =>
    rw [run_cons]
    exact ih (h.step (hps p List.mem_cons_self)) fun q hq => hps q (List.mem_cons_of_mem p hq)

lemma Serving.idle (h : Serving hostAddr remoteSrcAddr ctx) (hoff : ctx.capture = false) :
    Idle hostAddr remoteSrcAddr ctx :=
  ⟨h.configured, h.host, h.remote, hoff, h.fresh hoff⟩

lemma Serving.standing (h : Serving hostAddr remoteSrcAddr ctx) (hon : ctx.capture = true) :
    Standing hostAddr remoteSrcAddr ctx.captureAckId ctx ctx.captured
      (emptyPacket hostAddr remoteSrcAddr ctx.lastReceivedAckId ctx.lastReceivedSeqNumber) :=
  ⟨h.configured, h.host, h.remote, hon, rfl, (captured_length ctx h.bound).symm, rfl, ⟨rfl, rfl⟩⟩

lemma framedBurst_number_zero {data : List UInt8} {ackId : UInt8} (hfits : data.length ≤ maxBurstBytes)
    (hp : p ∈ framedBurst data hostAddr remoteSrcAddr ackId) (hseq : p.sequenceNumber = 0) :
    p.payloadLength = 0 := by
  rw [framedBurst, List.mem_cons, List.mem_append, List.mem_singleton] at hp
  rcases hp with rfl | hdata | rfl
  · rfl
  · obtain ⟨i, hi⟩ := List.getElem?_of_mem hdata
    obtain ⟨-, -, -, hnumber, -⟩ := (burstData_dataPackets hfits).numbered i p hi
    rw [hseq] at hnumber
    exact absurd hnumber (by simp)
  · rfl

end Handler

/-- What a receiver in the state `ctx` makes of one more burst: with no session open, the burst
is delivered; with a session of another id, that session is, and the data packets are taken for
commands; with a session of its own id, the burst goes on where that session stands. -/
structure Resolved (hostAddr remoteSrcAddr : UInt16) (b : Burst) (ctx : RxHandlerCtx)
    (cs : List Callback) : Prop where
  closed : ctx.capture = false → deliveries cs = [.ok b.data] ∧ commands cs = []
  foreign : ctx.capture = true → b.ackId ≠ ctx.captureAckId →
    endings cs = [(ctx.captured, ctx.capturedN)] ∧
      commands cs = dataPackets b.data hostAddr remoteSrcAddr b.ackId 1
  own : ctx.capture = true → b.ackId = ctx.captureAckId →
    let all := ctx.captured ++ ((dataPackets b.data hostAddr remoteSrcAddr b.ackId 1).drop ctx.capturedN).map some
    endings cs = [(all, all.length)] ∧ commands cs = []

section Sending

variable {hostAddr remoteSrcAddr : UInt16} {n n' : Node Channel} {b : Burst}

lemma Serving.resolved {ctx : RxHandlerCtx} {heard : List Packet}
    (h : Serving hostAddr remoteSrcAddr ctx)
    (hheard : Stuttered (framedBurst b.data hostAddr remoteSrcAddr b.ackId) heard) :
    Resolved hostAddr remoteSrcAddr b ctx (callbacks ctx heard) := by
  refine ⟨fun hoff => ?_, fun hon hother => ?_, fun hon hown => ?_⟩
  · obtain ⟨he, hc, -⟩ := (h.idle hoff).whole b.named b.fits hheard
    refine ⟨?_, hc⟩
    rw [deliveries, he]
    simp [packetArrayToData_dataPackets]
  · have hs := h.standing hon
    obtain ⟨he, hc, -⟩ := hs.whole_foreign hother b.fits hheard
    rw [← hs.count] at he
    exact ⟨he, hc⟩
  · have hs := h.standing hon
    rw [← hown] at hs
    obtain ⟨he, hc, -⟩ := hs.whole_own b.fits hheard
    rw [← hs.count] at he
    exact ⟨he, hc⟩

lemma calls_serving {calls : List (Burst × Sx127xErr)} (hbuf : n.rxBuffer = zeroBuffer)
    (hserving : Serving hostAddr remoteSrcAddr n.radio.receiver.handler)
    (h : Calls hostAddr remoteSrcAddr n calls n') :
    n'.rxBuffer = zeroBuffer ∧ Serving hostAddr remoteSrcAddr n'.radio.receiver.handler := by
  induction calls generalizing n with
  | nil =>
    obtain rfl : n' = n := h
    exact ⟨hbuf, hserving⟩
  | cons call calls ih =>
    obtain ⟨m, hcall, hrest⟩ := h
    obtain ⟨hbuf', -, heard, hheard, hinter, -⟩ := send_heard hbuf hcall
    refine ih hbuf' ?_ hrest
    rw [hheard.handler]
    exact hserving.run fun p hp => framedBurst_number_zero call.1.fits (hinter.mem hp)

lemma SystemStart.serving (h : SystemStart hostAddr remoteSrcAddr n) :
    Serving hostAddr remoteSrcAddr n.radio.receiver.handler := by
  rw [h.handler]
  exact ⟨rfl, rfl, rfl, Nat.zero_le _, fun _ => Or.inl rfl⟩

end Sending

def Recovers (hostAddr remoteSrcAddr : UInt16) (n : Node Channel) (first second : Burst) : Prop :=
  ∀ n₁ n₂, first.send hostAddr remoteSrcAddr n = .ok (.sxTimeout, n₁) →
    second.send hostAddr remoteSrcAddr n₁ = .ok (.sxOk, n₂) →
    ∃ cs, n₂.radio.receiver.callbacks = n₁.radio.receiver.callbacks ++ cs ∧
      deliveries cs = [.ok second.data] ∧ commands cs = []

def nineBytes : Burst := ⟨List.replicate 9 7, 5, by decide, by decide, by decide⟩

def oneByte : Burst := ⟨[8], 6, by decide, by decide, by decide⟩

def gapStart : Node Channel := quietStart 1 2 fun tick => (tick ∉ [2, 3, 4, 5], true)

lemma nineBytes_aborted : ∃ n₁ n₂, nineBytes.send 1 2 gapStart = .ok (.sxTimeout, n₁) ∧
    oneByte.send 1 2 n₁ = .ok (.sxOk, n₂) := by
  have hprintable := quietStart_printable 1 2 fun tick => (tick ∉ [2, 3, 4, 5], true)
  obtain ⟨n₁, h₁, hreach⟩ := send_outcome nineBytes 1 2 .sxTimeout 6 rfl hprintable (by decide)
  obtain ⟨n₂, h₂, -⟩ := send_outcome oneByte 1 2 .sxOk 9 hreach.buffer (hreach.printable hprintable)
    (by rw [hreach.attempts, hreach.tick]; decide)
  exact ⟨n₁, n₂, h₁, h₂⟩

theorem recovers_not_gap :
    SystemStart 1 2 gapStart ∧ oneByte.ackId ≠ nineBytes.ackId ∧ ¬ Recovers 1 2 gapStart nineBytes oneByte := by
  refine ⟨quietStart_start 1 2 _, by decide, fun hrecovers => ?_⟩
  have hcommands : ((nineBytes.send 1 2 gapStart).toOption.bind fun r =>
      (oneByte.send 1 2 r.2).toOption.map fun r' =>
        (commands r.2.radio.receiver.callbacks, commands r'.2.radio.receiver.callbacks)) =
      some ([], [⟨1, 2, 6, 1, 1, [8], rfl⟩]) := by decide +kernel
  obtain ⟨n₁, n₂, h₁, h₂⟩ := nineBytes_aborted
  obtain ⟨cs, hcs, -, hc⟩ := hrecovers n₁ n₂ h₁ h₂
  simp only [h₁, Except.toOption, Option.bind_some, h₂, Option.map_some, Option.some.injEq,
    Prod.mk.injEq] at hcommands
  rw [hcs, commands_append, hcommands.1, hc] at hcommands
  exact absurd hcommands.2 (by simp)

/-- What a burst that was given up leaves: its session, with the first of its data packets, unless
none or all of its packets were received. -/
structure LeftBy (hostAddr remoteSrcAddr : UInt16) (b : Burst) (heard : List Packet)
    (ctx : RxHandlerCtx) : Prop where
  closed : ctx.capture = false ↔
    heard = [] ∨ Stuttered (framedBurst b.data hostAddr remoteSrcAddr b.ackId) heard
  session : ctx.capture = true → ctx.captureAckId = b.ackId ∧
    ∃ i, ctx.captured = ((dataPackets b.data hostAddr remoteSrcAddr b.ackId 1).take i).map some

lemma Idle.leftBy {hostAddr remoteSrcAddr : UInt16} {b : Burst} {ctx : RxHandlerCtx}
    {heard : List Packet} (h : Idle hostAddr remoteSrcAddr ctx)
    (hheard : Interrupted (framedBurst b.data hostAddr remoteSrcAddr b.ackId) heard) :
    LeftBy hostAddr remoteSrcAddr b heard (run packetStep ctx heard) := by
  rcases h.interrupted b.named b.fits hheard with rfl | ⟨-, i, last, hs⟩ | hall
  · have hoff : (run packetStep ctx []).capture = false := h.capture
    exact ⟨⟨fun _ => Or.inl rfl, fun _ => hoff⟩, fun hon => absurd (hoff.symm.trans hon) (by decide)⟩
  · refine ⟨⟨fun hoff => absurd (hoff.symm.trans hs.capture) (by decide), ?_⟩,
      fun _ => ⟨hs.session, i, hs.entries⟩⟩
    rintro (rfl | hall)
    · exact h.capture
    · exact (h.whole b.named b.fits hall).2.2.capture
  · have hoff := (h.whole b.named b.fits hall).2.2.capture
    exact ⟨⟨fun _ => Or.inr hall, fun _ => hoff⟩, fun hon => absurd (hoff.symm.trans hon) (by decide)⟩

theorem burst_after_aborted (hostAddr remoteSrcAddr : UInt16) (n n₁ n₂ n₃ n₄ : Node Channel)
    (sent : List Burst) (first second : Burst) (between : List (Burst × Sx127xErr))
    (hstart : SystemStart hostAddr remoteSrcAddr n) (hsent : Sent hostAddr remoteSrcAddr n sent n₁)
    (hfirst : first.send hostAddr remoteSrcAddr n₁ = .ok (.sxTimeout, n₂))
    (hbetween : Calls hostAddr remoteSrcAddr n₂ between n₃)
    (hsecond : second.send hostAddr remoteSrcAddr n₃ = .ok (.sxOk, n₄)) :
    (∃ heard, Heard heard n₁.radio.receiver n₂.radio.receiver ∧
      Interrupted (framedBurst first.data hostAddr remoteSrcAddr first.ackId) heard ∧
      LeftBy hostAddr remoteSrcAddr first heard n₂.radio.receiver.handler) ∧
    ∃ cs, n₄.radio.receiver.callbacks = n₃.radio.receiver.callbacks ++ cs ∧
      Resolved hostAddr remoteSrcAddr second n₃.radio.receiver.handler cs := by
  obtain ⟨hready, -⟩ := sent_ready hstart.ready hsent
  obtain ⟨hbuf₁, hserving₁⟩ := calls_serving hstart.buffer hstart.serving hsent
  obtain ⟨hbuf₂, -, heard, hheard, hinter, -⟩ := send_heard hbuf₁ hfirst
  refine ⟨⟨heard, hheard, hinter, ?_⟩, ?_⟩
  · rw [hheard.handler]
    exact hready.idle.leftBy hinter
  · have hserving₂ : Serving hostAddr remoteSrcAddr n₂.radio.receiver.handler := by
      rw [hheard.handler]
      exact hserving₁.run fun p hp => framedBurst_number_zero first.fits (hinter.mem hp)
    obtain ⟨hbuf₃, hserving₃⟩ := calls_serving hbuf₂ hserving₂ hbetween
    obtain ⟨-, -, heard', hheard', -, hall⟩ := send_heard hbuf₃ hsecond
    exact ⟨_, hheard'.callbacks, hserving₃.resolved (hall rfl)⟩

theorem burst_after_aborted_gap :
    ∃ n₁ n₂ cs, nineBytes.send 1 2 gapStart = .ok (.sxTimeout, n₁) ∧
      oneByte.send 1 2 n₁ = .ok (.sxOk, n₂) ∧
      n₂.radio.receiver.callbacks = n₁.radio.receiver.callbacks ++ cs ∧
      endings cs = [([some ⟨1, 2, 5, 1, 8, List.replicate 8 7, rfl⟩], 1)] ∧
      commands cs = [⟨1, 2, 6, 1, 1, [8], rfl⟩] := by
  have hctx : (nineBytes.send 1 2 gapStart).toOption.map (fun r =>
      (r.2.radio.receiver.handler.capture, r.2.radio.receiver.handler.captureAckId,
        r.2.radio.receiver.handler.captured, r.2.radio.receiver.handler.capturedN)) =
      some (true, 5, [some ⟨1, 2, 5, 1, 8, List.replicate 8 7, rfl⟩], 1) := by decide +kernel
  obtain ⟨n₁, n₂, h₁, h₂⟩ := nineBytes_aborted
  obtain ⟨-, cs, hcs, hresolved⟩ := burst_after_aborted 1 2 gapStart gapStart n₁ n₁ n₂ [] nineBytes
    oneByte [] (quietStart_start 1 2 _) rfl h₁ rfl h₂
  simp only [h₁, Except.toOption, Option.map_some, Option.some.injEq, Prod.mk.injEq] at hctx
  obtain ⟨hon, hack, hcaptured, hcount⟩ := hctx
  obtain ⟨he, hc⟩ := hresolved.foreign hon (by rw [hack]; decide)
  rw [hcaptured, hcount] at he
  exact ⟨n₁, n₂, cs, h₁, h₂, hcs, he, hc⟩

end LoraNetworking
