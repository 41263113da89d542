import LoraNetworking.Sx127xRxUtils

/-! Failed reads and the packets fabricated from them: `read_last_packet` forgets the result
of the driver, so a packet can be trusted exactly when the radio and the port let the read
succeed. -/

namespace LoraNetworking

open StateProg

section Read

variable {ω : Type}

def answerByte (stored : List (Option UInt8)) : UInt8 := ((stored.take 1).head?.join).getD 0

/-- Every transaction that reading the payload looks at succeeds, RxDone is set and the CRC
flag is clear. The result of the byte-count read is not looked at. -/
def PayloadReadable (m : Machine ω) : Prop :=
  let port := m.sx127xSpiPort
  let standby := port.writer 0x01 [modeLora ||| modeStdby] m.world
  let irq := port.reader 0x12 1 standby.2
  let count := port.reader 0x13 1 irq.2
  let addr := port.reader 0x10 1 count.2
  let pointer := port.writer 0x0D [answerByte addr.1.2] addr.2
  let fifo := port.reader 0x00 (answerByte count.1.2).toNat pointer.2
  port.initialized = true ∧ standby.1 = .sxOk ∧ irq.1.1 = .sxOk ∧
    answerByte irq.1.2 &&& 0b01000000 ≠ 0 ∧ answerByte irq.1.2 &&& 0b00100000 = 0 ∧
    addr.1.1 = .sxOk ∧ pointer.1 = .sxOk ∧ fifo.1.1 = .sxOk

instance (m : Machine ω) : Decidable (PayloadReadable m) :=
  inferInstanceAs (Decidable (_ ∧ _ ∧ _ ∧ _ ∧ _ ∧ _ ∧ _ ∧ _))

lemma spiBurstWriteReg_apply {m : Machine ω} (h : m.sx127xSpiPort.initialized = true) (reg : UInt8)
    (data : List UInt8) : spiBurstWriteReg reg data m =
      .ok ((m.sx127xSpiPort.writer reg data m.world).1,
        { m with world := (m.sx127xSpiPort.writer reg data m.world).2 }) := by
  simp [spiBurstWriteReg, h]

lemma spiReadByte_apply {m : Machine ω} (h : m.sx127xSpiPort.initialized = true) (reg : UInt8) :
    spiReadByte reg 0 m =
      .ok (((m.sx127xSpiPort.reader reg 1 m.world).1.1,
          answerByte (m.sx127xSpiPort.reader reg 1 m.world).1.2),
        { m with world := (m.sx127xSpiPort.reader reg 1 m.world).2 }) := by
  simp [spiReadByte, spiBurstReadReg, Prog.bind_apply, h, answerByte]

lemma spiBurstReadReg_apply {m : Machine ω} (h : m.sx127xSpiPort.initialized = true) (reg : UInt8)
    (len : ℕ) : spiBurstReadReg reg len m =
      .ok (((m.sx127xSpiPort.reader reg len m.world).1.1,
          (m.sx127xSpiPort.reader reg len m.world).1.2.take len),
        { m with world := (m.sx127xSpiPort.reader reg len m.world).2 }) := by
  simp [spiBurstReadReg, h]

def ReadsIff (x : Radio ω PayloadRead) (m : Machine ω) (C : Prop) : Prop :=
  ∀ payload t, x m = .ok (payload, t) → (payload.ret = .sxOk ↔ C)

section Chain

variable {α : Type} {m m₁ : Machine ω} {rest : Radio ω PayloadRead} {C D : Prop}

lemma ReadsIff.congr (h : ReadsIff rest m C) (hC : C ↔ D) : ReadsIff rest m D :=
  fun payload t hrun => (h payload t hrun).trans hC

lemma ReadsIff.pure (r : PayloadRead) (m : Machine ω) : ReadsIff (Pure.pure r) m (r.ret = .sxOk) := by
  intro payload t h
  obtain ⟨rfl, -⟩ : r = payload ∧ m = t := by simpa using h
  exact Iff.rfl

lemma ReadsIff.cleared (r : PayloadRead) (m : Machine ω) :
    ReadsIff (sx1278ClearIrq >>= fun _ => Pure.pure r) m (r.ret = .sxOk) := by
  intro payload t h
  obtain ⟨_, s, -, hpure⟩ := Prog.bind_ok.mp h
  exact ReadsIff.pure r s payload t hpure

lemma ReadsIff.step {x : Radio ω α} {f : α → Radio ω PayloadRead} {a : α} (hx : x m = .ok (a, m₁))
    (hrest : ReadsIff (f a) m₁ C) : ReadsIff (x >>= f) m C := by
  intro payload t h
  rw [Prog.bind_of_ok hx] at h
  exact hrest payload t h

lemma ReadsIff.guarded {c : Prop} [Decidable c] {failed : Radio ω PayloadRead}
    (hfailed : ReadsIff failed m D) (hD : c → ¬ D) (hrest : ReadsIff rest m C) :
    ReadsIff (if c then failed else rest) m (¬ c ∧ C) := by
  intro payload t h
  split_ifs at h with hc
  · rw [hfailed payload t h]
    exact iff_of_false (hD hc) fun hok => hok.1 hc
  · rw [hrest payload t h, and_iff_right hc]

section Transactions

variable {w : ω}

lemma ReadsIff.write (hinit : m.sx127xSpiPort.initialized = true) {reg : UInt8} {data : List UInt8}
    {f : Sx127xErr → Radio ω PayloadRead}
    (hrest : ReadsIff (f (m.sx127xSpiPort.writer reg data w).1)
      { m with world := (m.sx127xSpiPort.writer reg data w).2 } C) :
    ReadsIff (spiBurstWriteReg reg data >>= f) { m with world := w } C :=
  .step (spiBurstWriteReg_apply (m := { m with world := w }) hinit reg data) hrest

lemma ReadsIff.readByte (hinit : m.sx127xSpiPort.initialized = true) {reg : UInt8}
    {f : Sx127xErr × UInt8 → Radio ω PayloadRead}
    (hrest : ReadsIff (f ((m.sx127xSpiPort.reader reg 1 w).1.1, answerByte (m.sx127xSpiPort.reader reg 1 w).1.2))
      { m with world := (m.sx127xSpiPort.reader reg 1 w).2 } C) :
    ReadsIff (spiReadByte reg 0 >>= f) { m with world := w } C :=
  .step (spiReadByte_apply (m := { m with world := w }) hinit reg) hrest

lemma ReadsIff.read (hinit : m.sx127xSpiPort.initialized = true) {reg : UInt8} {n : ℕ}
    {f : Sx127xErr × List (Option UInt8) → Radio ω PayloadRead}
    (hrest : ReadsIff (f ((m.sx127xSpiPort.reader reg n w).1.1, (m.sx127xSpiPort.reader reg n w).1.2.take n))
      { m with world := (m.sx127xSpiPort.reader reg n w).2 } C) :
    ReadsIff (spiBurstReadReg reg n >>= f) { m with world := w } C :=
  .step (spiBurstReadReg_apply (m := { m with world := w }) hinit reg n) hrest

end Transactions

variable {ret : Sx127xErr} {stored : List (Option UInt8)} {len : Option ℕ}

lemma ReadsIff.checked (hrest : ReadsIff rest m C) :
    ReadsIff (if ret ≠ .sxOk then Pure.pure ⟨ret, stored, len⟩ else rest) m (ret = .sxOk ∧ C) := by
  apply (ReadsIff.guarded (.pure ⟨ret, stored, len⟩ m) id hrest).congr
  rw [not_not]

lemma ReadsIff.checked_cleared (hrest : ReadsIff rest m C) :
    ReadsIff (if ret ≠ .sxOk then sx1278ClearIrq >>= fun _ => Pure.pure ⟨ret, stored, len⟩ else rest) m
      (ret = .sxOk ∧ C) := by
  apply (ReadsIff.guarded (.cleared ⟨ret, stored, len⟩ m) id hrest).congr
  rw [not_not]

lemma ReadsIff.refused {c : Prop} [Decidable c] (hret : ret ≠ .sxOk) (hrest : ReadsIff rest m C) :
    ReadsIff (if c then sx1278ClearIrq >>= fun _ => Pure.pure ⟨ret, stored, len⟩ else rest) m
      (¬ c ∧ C) :=
  .guarded (.cleared ⟨ret, stored, len⟩ m) (fun _ => hret) hrest

lemma readsIff_readable (hinit : m.sx127xSpiPort.initialized = true) :
    ReadsIff sx1278ReadLastPayload m (PayloadReadable m) := by
  apply ReadsIff.congr
  · apply ReadsIff.write hinit
    apply ReadsIff.checked
    apply ReadsIff.readByte hinit
    apply ReadsIff.checked
    apply ReadsIff.refused (by decide)
    apply ReadsIff.refused (by decide)
    apply ReadsIff.readByte hinit
    apply ReadsIff.readByte hinit
    apply ReadsIff.checked_cleared
    apply ReadsIff.write hinit
    apply ReadsIff.checked_cleared
    apply ReadsIff.read hinit
    apply ReadsIff.checked_cleared
    exact .cleared _ _
  · simp only [PayloadReadable, hinit, true_and, ne_eq, not_not, and_true]
    rfl

end Chain

lemma readLastPayload_ret_iff {m m' : Machine ω} {payload : PayloadRead}
    (h : sx1278ReadLastPayload m = .ok (payload, m')) :
    payload.ret = .sxOk ↔ PayloadReadable m := by
  cases hinit : m.sx127xSpiPort.initialized with
  | false =>
    have hwrite : spiBurstWriteReg 0x01 [modeLora ||| modeStdby] m = .ok (.sxUnitUnitialized, m) := by
      simp [spiBurstWriteReg, hinit]
    have hread : ReadsIff sx1278ReadLastPayload m (Sx127xErr.sxUnitUnitialized = .sxOk) :=
      .step hwrite (.pure ⟨.sxUnitUnitialized, [], none⟩ m)
    rw [hread payload m' h]
    simp [PayloadReadable, hinit]
  | true => exact readsIff_readable hinit payload m' h

end Read

inductive DriverEvent (σ : Type)
  | read (before : σ) (payload : PayloadRead)
  | send (frame : List UInt8)

structure Traced (σ : Type) where
  radio : σ
  trace : List (DriverEvent σ)

section Trace

variable {σ α : Type}

def untraced (x : Prog σ α) : Prog (Traced σ) α :=
  x.zoom Traced.radio fun radio t => { t with radio := radio }

def record (event : DriverEvent σ) : Prog (Traced σ) Unit :=
  Prog.update fun t => { t with trace := t.trace ++ [event] }

def Driver.traced (d : Driver σ) : Driver (Traced σ) where
  switchMode modeRegister := untraced (d.switchMode modeRegister)
  clearIrq := untraced d.clearIrq
  pollForIrqFlag timeoutMs pollIntervalMs irqAndMask cleanup :=
    untraced (d.pollForIrqFlag timeoutMs pollIntervalMs irqAndMask cleanup)
  pollForIrqFlagNoTimeout pollIntervalMs irqAndMask cleanup :=
    untraced (d.pollForIrqFlagNoTimeout pollIntervalMs irqAndMask cleanup)
  readLastPayload := do
    let before ← Prog.read
    let payload ← untraced d.readLastPayload
    record (.read before.radio payload)
    return payload
  sendPayload buf len switchToRxAfterTx := do
    record (.send (buf.take len.toNat))
    untraced (d.sendPayload buf len switchToRxAfterTx)
  behindRxBuffer t := d.behindRxBuffer t.radio

def eraseTrace (n : Node (Traced σ)) : Node σ := ⟨n.radio.radio, n.rxBuffer⟩

lemma untraced_projects (x : Prog σ α) : Projects Traced.radio (untraced x) x := by
  intro t
  simp only [untraced, Prog.zoom]
  rcases x t.radio with e | ⟨a, s⟩ <;> rfl

lemma onRadio_projects {x : Prog (Traced σ) α} {y : Prog σ α} (h : Projects Traced.radio x y) :
    Projects eraseTrace (onRadio x) (onRadio y) := by
  intro n
  have hr : y n.radio.radio = _ := h n.radio
  simp only [onRadio, Prog.zoom, eraseTrace, hr]
  rcases x n.radio with e | ⟨a, s⟩ <;> rfl

variable (d : Driver σ)

lemma readLastPayload_projects : Projects Traced.radio d.traced.readLastPayload d.readLastPayload := by
  intro t
  simp only [Driver.traced, record, untraced, Prog.bind_apply, Prog.zoom, Prog.read_apply]
  rcases d.readLastPayload t.radio with e | ⟨a, s⟩ <;> rfl

lemma sendPayload_projects (buf : List UInt8) (len : UInt8) (switchToRxAfterTx : Bool) :
    Projects Traced.radio (d.traced.sendPayload buf len switchToRxAfterTx)
      (d.sendPayload buf len switchToRxAfterTx) := by
  intro t
  simp only [Driver.traced, record, untraced, Prog.bind_apply, Prog.zoom, Prog.update_apply]
  rcases d.sendPayload buf len switchToRxAfterTx t.radio with e | ⟨a, s⟩ <;> rfl

lemma readLastPacket_projects : Projects eraseTrace (readLastPacket d.traced) (readLastPacket d) := by
  refine .bind (onRadio_projects (readLastPayload_projects d)) fun payload => ?_
  refine .bind (.update fun _ => rfl) fun _ => .read fun n => ?_
  refine .bind (.update fun _ => rfl) fun _ => ?_
  exact .bind (onRadio_projects (untraced_projects _)) fun _ => .pure _

lemma sx1278SendPacket_projects (p : Packet) (switchToRxAfterTx : Bool) :
    Projects eraseTrace (sx1278SendPacket d.traced p switchToRxAfterTx)
      (sx1278SendPacket d p switchToRxAfterTx) := by
  refine .bind (.ofExcept _) fun _ => .ite (.pure _) ?_
  exact onRadio_projects (sendPayload_projects d _ _ _)

lemma pollAndReadPacket_projects (rxP : Packet) (timeout : ℕ) :
    Projects eraseTrace (sx1278PollAndReadPacket d.traced rxP timeout)
      (sx1278PollAndReadPacket d rxP timeout) := by
  have hbody : Projects eraseTrace (pollAndReadBody d.traced rxP timeout)
      (pollAndReadBody d rxP timeout) := by
    refine .bind (onRadio_projects (untraced_projects _)) fun _ => .ite (.pure _) ?_
    refine .bind (onRadio_projects (untraced_projects _)) fun _ => .ite (.pure _) ?_
    refine .bind (onRadio_projects (untraced_projects _)) fun _ => .ite (.pure _) ?_
    exact .bind (readLastPacket_projects d) fun _ => .ite (.pure _) (.pure _)
  refine .bind hbody fun _ => ?_
  refine .bind (onRadio_projects (untraced_projects _)) fun _ => ?_
  exact .bind (onRadio_projects (untraced_projects _)) fun _ => .pure _

lemma sendAttempts_projects (p : Packet) (ackType : PacketTypes) (n : ℕ) (rxP : Packet) :
    Projects eraseTrace (sendAttempts d.traced p ackType n rxP) (sendAttempts d p ackType n rxP) := by
  induction n generalizing rxP with
  | zero => exact .pure _
  | succ n ih =>
    refine .bind (sx1278SendPacket_projects d p true) fun _ => .ite (.pure _) ?_
    refine .bind (pollAndReadPacket_projects d rxP _) fun _ => .ite (ih _) (.ite ?_ (.pure _))
    exact .bind (.ofExcept _) fun _ => ih _

lemma sendPacketEnsureAck_projects (p : Packet) (timeout : ℤ) (ackType : PacketTypes) :
    Projects eraseTrace (sendPacketEnsureAck d.traced p timeout ackType)
      (sendPacketEnsureAck d p timeout ackType) := by
  refine .bind (sendAttempts_projects d p ackType _ _) fun _ => ?_
  refine .bind (onRadio_projects (untraced_projects _)) fun _ => ?_
  exact .bind (onRadio_projects (untraced_projects _)) fun _ => .pure _

lemma rxRound_projects (handler : RxHandlerCtx) :
    Projects eraseTrace (rxRound d.traced handler) (rxRound d handler) := by
  refine .bind (onRadio_projects (untraced_projects _)) fun _ => .ite (.pure _) ?_
  refine .bind (onRadio_projects (untraced_projects _)) fun _ => .ite (.pure _) ?_
  refine .bind (onRadio_projects (untraced_projects _)) fun _ => .ite (.pure _) ?_
  refine .bind (readLastPacket_projects d) fun ⟨_, rxP⟩ => .ite (.pure _) ?_
  simp only [ackPacket_eq]
  exact .bind (sx1278SendPacket_projects d _ false) fun _ => .ite (.pure _) (.pure _)

lemma startRxLoop_projects (rounds : ℕ) (handler : RxHandlerCtx) :
    Projects eraseTrace (startRxLoop d.traced rounds handler) (startRxLoop d rounds handler) := by
  have hrounds : ∀ rounds handler,
      Projects eraseTrace (rxRounds d.traced rounds handler) (rxRounds d rounds handler) := by
    intro rounds
    induction rounds with
    | zero => exact fun handler => .pure _
    | succ rounds ih =>
      intro handler
      refine .bind (rxRound_projects d handler) fun ⟨round, handler⟩ => ?_
      cases round with
      | leave ret => exact .pure _
      | skip ret => exact .bind (ih handler) fun _ => .pure _
      | handled rxP outcome => exact .bind (ih handler) fun _ => .pure _
  exact .bind (onRadio_projects (untraced_projects _)) fun _ => .ite (.pure _) (hrounds rounds handler)

variable {d} {n n' : Node (Traced σ)}

def Genuine (d : Driver σ) (before : σ) (payload : PayloadRead) : Prop :=
  ∃ after, d.readLastPayload before = .ok (payload, after)

/-- What `read_last_packet` makes of a payload read from the radio `before`: the receive buffer
was zero, and behind it lies what the driver finds there after the read. -/
def DecodedFrom (d : Driver σ) (before : σ) (payload : PayloadRead) (p : Packet) : Prop :=
  ∃ after, d.readLastPayload before = .ok (payload, after) ∧
    p = (parsePacket (rxMemory (zeroBuffer.overwrite payload.stored) (d.behindRxBuffer after))).2

lemma DecodedFrom.genuine {before : σ} {payload : PayloadRead} {p : Packet}
    (h : DecodedFrom d before payload p) : Genuine d before payload :=
  h.imp fun _ hafter => hafter.1

/-- The calls between `n` and `n'` added `es` to the trace and left a cleared buffer cleared. -/
structure Appended (n : Node (Traced σ)) (es : List (DriverEvent σ)) (n' : Node (Traced σ)) : Prop where
  trace : n'.radio.trace = n.radio.trace ++ es
  cleared : n.rxBuffer = zeroBuffer → n'.rxBuffer = zeroBuffer

lemma Appended.refl (n : Node (Traced σ)) : Appended n [] n := ⟨(List.append_nil _).symm, id⟩

lemma Appended.trans {n₁ : Node (Traced σ)} {es es' : List (DriverEvent σ)} (h : Appended n es n₁)
    (h' : Appended n₁ es' n') : Appended n (es ++ es') n' where
  trace := by rw [h'.trace, h.trace, List.append_assoc]
  cleared := h'.cleared ∘ h.cleared

lemma untraced_trace {x : Prog σ α} {a : α} {t t' : Traced σ} (h : untraced x t = .ok (a, t')) :
    t'.trace = t.trace := by
  obtain ⟨s, -, rfl⟩ := Prog.zoom_ok.mp h
  rfl

lemma untraced_appended {x : Prog σ α} {a : α} (h : onRadio (untraced x) n = .ok (a, n')) :
    Appended n [] n' := by
  obtain ⟨hradio, hbuf⟩ := onRadio_ok.mp h
  exact ⟨by rw [untraced_trace hradio, List.append_nil], hbuf.trans⟩

lemma readLastPacket_trace {ret : Sx127xErr} {p : Packet} (hn : n.rxBuffer = zeroBuffer)
    (h : readLastPacket d.traced n = .ok ((ret, p), n')) :
    ret = .sxOk ∧ ∃ payload, DecodedFrom d n.radio.radio payload p ∧
      Appended n [.read n.radio.radio payload] n' := by
  obtain ⟨payload, t, e, hread, hclear, hzero, hret, hp⟩ := readLastPacket_ok.mp h
  obtain ⟨before, t₀, hbefore, hread⟩ := Prog.bind_ok.mp hread
  obtain ⟨rfl, rfl⟩ : n.radio = before ∧ n.radio = t₀ := by simpa using hbefore
  obtain ⟨payload', t₁, hread, hrecord⟩ := Prog.bind_ok.mp hread
  obtain ⟨s, hs, rfl⟩ := Prog.zoom_ok.mp hread
  obtain ⟨rfl, rfl⟩ : payload' = payload ∧ _ = t := by
    simpa [record, Prog.bind_apply] using hrecord
  rw [hn] at hp
  exact ⟨hret, payload', ⟨s, hs, hp⟩, untraced_trace (x := d.clearIrq) hclear, fun _ => hzero⟩

lemma sx1278SendPacket_trace {p : Packet} {switchToRxAfterTx : Bool} {ret : Sx127xErr}
    (h : sx1278SendPacket d.traced p switchToRxAfterTx n = .ok (ret, n')) :
    Appended n [.send (encode p)] n' := by
  have hmax := sx1278SendPacket_bounded h
  rw [sx1278SendPacket_eq hmax] at h
  obtain ⟨hradio, hbuf⟩ := onRadio_ok.mp h
  obtain ⟨a, t, hrecord, hsend⟩ := Prog.bind_ok.mp hradio
  rw [txBuffer_take hmax] at hrecord
  obtain rfl : _ = t := by simpa [record] using hrecord
  exact ⟨untraced_trace hsend, hbuf.trans⟩

/-- The rounds of the receive loop and their events: a round either stays quiet, or it reads
a frame, answers the packet decoded from it and hands over that packet and no other. -/
inductive LoopTrace (d : Driver σ) (Good : σ → PayloadRead → Prop) :
    List RxRound → List (DriverEvent σ) → Prop
  | done : LoopTrace d Good [] []
  | quiet {round rounds es} : (∀ rxP outcome, round ≠ .handled rxP outcome) →
      LoopTrace d Good rounds es → LoopTrace d Good (round :: rounds) es
  | answered {before payload rxP round rounds es} : Good before payload → DecodedFrom d before payload rxP →
      (∀ p outcome, round = .handled p outcome → p = rxP) → LoopTrace d Good rounds es →
      LoopTrace d Good (round :: rounds)
        (.read before payload ::
          .send (encode (emptyPacket rxP.srcAddress rxP.destAddress rxP.ackId rxP.sequenceNumber)) :: es)

lemma loopTrace_iff {Good Better : σ → PayloadRead → Prop} {rounds : List RxRound}
    {es : List (DriverEvent σ)} (h : LoopTrace d Good rounds es) :
    LoopTrace d Better rounds es ↔ ∀ before payload, .read before payload ∈ es → Better before payload := by
  constructor
  · intro hb
    clear h
    induction hb with
    | done => simp
    | quiet _ _ ih => exact ih
    | answered hgood _ _ _ ih =>
      intro before payload hmem
      simp only [List.mem_cons, DriverEvent.read.injEq, reduceCtorEq, false_or] at hmem
      rcases hmem with ⟨rfl, rfl⟩ | hmem
      · exact hgood
      · exact ih _ _ hmem
  · intro hall
    induction h with
    | done => exact .done
    | quiet hround _ ih => exact .quiet hround (ih hall)
    | answered _ hdecoded hround _ ih =>
      refine .answered (hall _ _ (by simp)) hdecoded hround (ih fun before payload hmem => ?_)
      exact hall _ _ (by simp [hmem])

lemma rxRound_trace {handler handler' : RxHandlerCtx} {round : RxRound} (hn : n.rxBuffer = zeroBuffer)
    (h : rxRound d.traced handler n = .ok ((round, handler'), n')) :
    ∃ es, Appended n es n' ∧ ∀ rounds es', LoopTrace d (Genuine d) rounds es' →
      LoopTrace d (Genuine d) (round :: rounds) (es ++ es') := by
  obtain ⟨e₁, n₁, hclear, h⟩ := Prog.bind_ok.mp h
  have ht₁ := untraced_appended hclear
  split_ifs at h with h₁
  · obtain ⟨⟨rfl, -⟩, rfl⟩ : (RxRound.leave e₁ = round ∧ handler = handler') ∧ n₁ = n' := by simpa using h
    exact ⟨_, ht₁, fun _ _ => .quiet (by simp)⟩
  obtain ⟨e₂, n₂, hmode, h⟩ := Prog.bind_ok.mp h
  have ht₂ := ht₁.trans (untraced_appended hmode)
  split_ifs at h with h₂
  · obtain ⟨⟨rfl, -⟩, rfl⟩ : (RxRound.leave e₂ = round ∧ handler = handler') ∧ n₂ = n' := by simpa using h
    exact ⟨_, ht₂, fun _ _ => .quiet (by simp)⟩
  obtain ⟨e₃, n₃, hpoll, h⟩ := Prog.bind_ok.mp h
  have ht₃ := ht₂.trans (untraced_appended hpoll)
  split_ifs at h with h₃
  · obtain ⟨⟨rfl, -⟩, rfl⟩ : (RxRound.skip e₃ = round ∧ handler = handler') ∧ n₃ = n' := by simpa using h
    exact ⟨_, ht₃, fun _ _ => .quiet (by simp)⟩
  obtain ⟨⟨e₄, rxP⟩, n₄, hread, h⟩ := Prog.bind_ok.mp h
  obtain ⟨rfl, payload, hdecoded, ht₄⟩ := readLastPacket_trace (ht₃.cleared hn) hread
  dsimp only at h
  rw [if_neg (not_not.mpr rfl), ackPacket_eq] at h
  obtain ⟨e₅, n₅, hsend, h⟩ := Prog.bind_ok.mp h
  have ht₅ := (ht₃.trans ht₄).trans (sx1278SendPacket_trace hsend)
  split_ifs at h with h₅
  · obtain ⟨⟨rfl, -⟩, rfl⟩ : (RxRound.leave e₅ = round ∧ handler = handler') ∧ n₅ = n' := by simpa using h
    exact ⟨_, ht₅, fun _ _ => .answered hdecoded.genuine hdecoded (by simp)⟩
  · obtain ⟨⟨rfl, -⟩, rfl⟩ : (RxRound.handled rxP (rxPacketHandler handler (some rxP)).1 = round ∧ _) ∧
      n₅ = n' := by simpa using h
    exact ⟨_, ht₅, fun _ _ => .answered hdecoded.genuine hdecoded (by simp +contextual)⟩

lemma rxRounds_trace {rounds : ℕ} {handler handler' : RxHandlerCtx} {out : List RxRound}
    (hn : n.rxBuffer = zeroBuffer) (h : rxRounds d.traced rounds handler n = .ok ((out, handler'), n')) :
    ∃ es, Appended n es n' ∧ LoopTrace d (Genuine d) out es := by
  induction rounds generalizing handler n out with
  | zero =>
    obtain ⟨⟨rfl, -⟩, rfl⟩ : ([] = out ∧ handler = handler') ∧ n = n' := by simpa [rxRounds] using h
    exact ⟨[], .refl n, .done⟩
  | succ rounds ih =>
    obtain ⟨⟨round, handler₁⟩, n₁, hround, h⟩ := Prog.bind_ok.mp h
    obtain ⟨es, hgrow, hextend⟩ := rxRound_trace hn hround
    obtain ⟨tail, rfl, es', hgrow', htail⟩ : ∃ tail, out = round :: tail ∧
        ∃ es', Appended n₁ es' n' ∧ LoopTrace d (Genuine d) tail es' := by
      cases round with
      | leave ret =>
        obtain ⟨⟨rfl, -⟩, rfl⟩ : ([RxRound.leave ret] = out ∧ handler₁ = handler') ∧ n₁ = n' := by
          simpa using h
        exact ⟨[], rfl, [], .refl n₁, .done⟩
      | skip ret =>
        obtain ⟨⟨tail, handler₂⟩, n₂, hrest, h⟩ := Prog.bind_ok.mp h
        obtain ⟨⟨rfl, rfl⟩, rfl⟩ : (RxRound.skip ret :: tail = out ∧ handler₂ = handler') ∧ n₂ = n' := by
          simpa using h
        exact ⟨tail, rfl, ih (hgrow.cleared hn) hrest⟩
      | handled rxP outcome =>
        obtain ⟨⟨tail, handler₂⟩, n₂, hrest, h⟩ := Prog.bind_ok.mp h
        obtain ⟨⟨rfl, rfl⟩, rfl⟩ : (RxRound.handled rxP outcome :: tail = out ∧ handler₂ = handler') ∧
          n₂ = n' := by simpa using h
        exact ⟨tail, rfl, ih (hgrow.cleared hn) hrest⟩
    exact ⟨es ++ es', hgrow.trans hgrow', hextend tail es' htail⟩

lemma startRxLoop_trace {rounds : ℕ} {handler handler' : RxHandlerCtx} {out : List RxRound}
    (hn : n.rxBuffer = zeroBuffer) (h : startRxLoop d.traced rounds handler n = .ok ((out, handler'), n')) :
    ∃ es, Appended n es n' ∧ LoopTrace d (Genuine d) out es := by
  obtain ⟨e, n₁, hmode, h⟩ := Prog.bind_ok.mp h
  have ht := untraced_appended hmode
  split_ifs at h with he
  · obtain ⟨⟨rfl, -⟩, rfl⟩ : ([RxRound.leave e] = out ∧ handler = handler') ∧ n₁ = n' := by simpa using h
    exact ⟨[], ht, .quiet (by simp) .done⟩
  · obtain ⟨es, hgrow, htrace⟩ := rxRounds_trace (ht.cleared hn) h
    exact ⟨es, ht.trans hgrow, htrace⟩

lemma pollAndReadPacket_trace {rxP q : Packet} {timeout : ℕ} {ret : Sx127xErr} (hn : n.rxBuffer = zeroBuffer)
    (h : sx1278PollAndReadPacket d.traced rxP timeout n = .ok ((ret, q), n')) :
    (ret ≠ .sxOk ∧ Appended n [] n') ∨
      ∃ before payload, DecodedFrom d before payload q ∧ Appended n [.read before payload] n' := by
  obtain ⟨out, n₄, hbody, h⟩ := Prog.bind_ok.mp h
  obtain ⟨_, n₅, hclear, h⟩ := Prog.bind_ok.mp h
  obtain ⟨_, n₆, hmode, h⟩ := Prog.bind_ok.mp h
  obtain ⟨rfl, rfl⟩ : out = (ret, q) ∧ n₆ = n' := by simpa using h
  have hend := (untraced_appended hclear).trans (untraced_appended hmode)
  obtain ⟨e₁, n₁, hmode, h⟩ := Prog.bind_ok.mp hbody
  have ht₁ := untraced_appended hmode
  split_ifs at h with h₁
  · obtain ⟨⟨rfl, -⟩, rfl⟩ : (e₁ = ret ∧ rxP = q) ∧ n₁ = n₄ := by simpa using h
    exact Or.inl ⟨h₁, ht₁.trans hend⟩
  obtain ⟨e₂, n₂, hpoll, h⟩ := Prog.bind_ok.mp h
  have ht₂ := ht₁.trans (untraced_appended hpoll)
  split_ifs at h with h₂
  · obtain ⟨⟨rfl, -⟩, rfl⟩ : (e₂ = ret ∧ rxP = q) ∧ n₂ = n₄ := by simpa using h
    exact Or.inl ⟨h₂, ht₂.trans hend⟩
  obtain ⟨e₃, n₃, hmode, h⟩ := Prog.bind_ok.mp h
  have ht₃ := ht₂.trans (untraced_appended hmode)
  split_ifs at h with h₃
  · obtain ⟨⟨rfl, -⟩, rfl⟩ : (e₃ = ret ∧ rxP = q) ∧ n₃ = n₄ := by simpa using h
    exact Or.inl ⟨h₃, ht₃.trans hend⟩
  obtain ⟨⟨e₄, rxP'⟩, n₅, hread, h⟩ := Prog.bind_ok.mp h
  obtain ⟨rfl, payload, hdecoded, ht₄⟩ := readLastPacket_trace (ht₃.cleared hn) hread
  obtain ⟨⟨-, rfl⟩, rfl⟩ : (Sx127xErr.sxOk = ret ∧ rxP' = q) ∧ n₅ = n₄ := by simpa using h
  exact Or.inr ⟨_, payload, hdecoded, (ht₃.trans ht₄).trans hend⟩

def AckRead (d : Driver σ) (es : List (DriverEvent σ)) (p : Packet) (ackType : PacketTypes) : Prop :=
  ∃ before payload q, .read before payload ∈ es ∧ DecodedFrom d before payload q ∧
    checkPacketFeatures q p.destAddress p.srcAddress p.ackId p.sequenceNumber ackType = true

/-- The reads of `es` come from the radio, and a call that returned SX_OK has its ack among them. -/
structure SendTrace (d : Driver σ) (p : Packet) (ackType : PacketTypes) (ret : Sx127xErr)
    (es : List (DriverEvent σ)) : Prop where
  genuine : ∀ before payload, .read before payload ∈ es → Genuine d before payload
  ackRead : ret = .sxOk → AckRead d es p ackType

lemma SendTrace.after {p : Packet} {ackType : PacketTypes} {ret : Sx127xErr} {es es' : List (DriverEvent σ)}
    (hgen : ∀ before payload, .read before payload ∈ es → Genuine d before payload)
    (h : SendTrace d p ackType ret es') : SendTrace d p ackType ret (es ++ es') where
  genuine before payload hmem := (List.mem_append.mp hmem).elim (hgen _ _) (h.genuine _ _)
  ackRead hret := by
    obtain ⟨before, payload, q, hmem, hq⟩ := h.ackRead hret
    exact ⟨before, payload, q, List.mem_append_right _ hmem, hq⟩

lemma sendAttempts_trace {p rxP : Packet} {ackType : PacketTypes} {k : ℕ} {ret : Sx127xErr}
    (hn : n.rxBuffer = zeroBuffer) (h : sendAttempts d.traced p ackType k rxP n = .ok (ret, n')) :
    ∃ es, Appended n es n' ∧ SendTrace d p ackType ret es := by
  induction k generalizing rxP n with
  | zero =>
    obtain ⟨rfl, rfl⟩ : Sx127xErr.sxTimeout = ret ∧ n = n' := by simpa [sendAttempts] using h
    exact ⟨[], .refl n, by simp, by simp⟩
  | succ k ih =>
    obtain ⟨e₁, n₁, hsend, h⟩ := Prog.bind_ok.mp h
    have ht₁ := sx1278SendPacket_trace hsend
    split_ifs at h with h₁
    · obtain ⟨rfl, rfl⟩ : e₁ = ret ∧ n₁ = n' := by simpa using h
      exact ⟨_, ht₁, by simp, fun he => absurd he h₁⟩
    obtain ⟨⟨e₂, q⟩, n₂, hpoll, h⟩ := Prog.bind_ok.mp h
    -- what this attempt appended, and where the reads in it came from
    obtain ⟨es, ht₂, hgen, hq⟩ : ∃ es, Appended n es n₂ ∧
        (∀ before payload, .read before payload ∈ es → Genuine d before payload) ∧
        (e₂ = .sxOk → ∃ before payload, .read before payload ∈ es ∧ DecodedFrom d before payload q) := by
      rcases pollAndReadPacket_trace (ht₁.cleared hn) hpoll with ⟨hne, hquiet⟩ | ⟨before, payload, hdec, hgrow⟩
      · exact ⟨_, ht₁.trans hquiet, by simp, fun he => absurd he hne⟩
      · refine ⟨_, ht₁.trans hgrow, ?_, fun _ => ⟨before, payload, by simp, hdec⟩⟩
        intro before' payload' hmem
        obtain ⟨rfl, rfl⟩ : before' = before ∧ payload' = payload := by simpa using hmem
        exact hdec.genuine
    have hretry : sendAttempts d.traced p ackType k q n₂ = .ok (ret, n') →
        ∃ es, Appended n es n' ∧ SendTrace d p ackType ret es := by
      intro hrest
      obtain ⟨es', ht, hsent⟩ := ih (ht₂.cleared hn) hrest
      exact ⟨es ++ es', ht₂.trans ht, hsent.after hgen⟩
    dsimp only at h
    split_ifs at h with h₂ hcheck
    · exact hretry h
    · obtain ⟨_, n₃, hdesc, h⟩ := Prog.bind_ok.mp h
      cases hd : packetDescription q with
      | error e => simp [hd] at hdesc
      | ok text =>
        obtain ⟨-, rfl⟩ : text = _ ∧ n₂ = n₃ := by simpa [hd] using hdesc
        exact hretry h
    · obtain ⟨rfl, rfl⟩ : Sx127xErr.sxOk = ret ∧ n₂ = n' := by simpa using h
      obtain ⟨before, payload, hmem, hdec⟩ := hq (not_not.mp h₂)
      exact ⟨es, ht₂, hgen, fun _ => ⟨before, payload, q, hmem, hdec, by simpa using hcheck⟩⟩

lemma sendPacketEnsureAck_trace {p : Packet} {timeout : ℤ} {ackType : PacketTypes} {ret : Sx127xErr}
    (hn : n.rxBuffer = zeroBuffer) (h : sendPacketEnsureAck d.traced p timeout ackType n = .ok (ret, n')) :
    ∃ es, Appended n es n' ∧ SendTrace d p ackType ret es := by
  obtain ⟨ret', n₁, hattempts, h⟩ := Prog.bind_ok.mp h
  obtain ⟨_, n₂, hclear, h⟩ := Prog.bind_ok.mp h
  obtain ⟨_, n₃, hmode, h⟩ := Prog.bind_ok.mp h
  obtain ⟨rfl, rfl⟩ : ret' = ret ∧ n₃ = n' := by simpa using h
  obtain ⟨es, ht, hsent⟩ := sendAttempts_trace hn hattempts
  have hend := ht.trans ((untraced_appended hclear).trans (untraced_appended hmode))
  exact ⟨es, by simpa using hend, hsent⟩

end Trace

section Trust

variable {ω : Type}

def Successful {σ : Type} (_ : σ) (payload : PayloadRead) : Prop := payload.ret = .sxOk

def ReadsReadable (es : List (DriverEvent (Machine ω))) : Prop :=
  ∀ before payload, .read before payload ∈ es → PayloadReadable before

def DriverEvent.Readable : DriverEvent (Machine ω) → Prop
  | .read before _ => PayloadReadable before
  | .send _ => True

instance (e : DriverEvent (Machine ω)) : Decidable e.Readable :=
  match e with
  | .read before _ => inferInstanceAs (Decidable (PayloadReadable before))
  | .send _ => inferInstanceAs (Decidable True)

lemma readsReadable_iff {es : List (DriverEvent (Machine ω))} :
    (∀ e ∈ es, e.Readable) ↔ ReadsReadable es := by
  constructor
  · intro h before payload hmem
    exact h _ hmem
  · intro h e hmem
    cases e with
    | read before payload => exact h before payload hmem
    | send frame => trivial

instance (es : List (DriverEvent (Machine ω))) : Decidable (ReadsReadable es) :=
  decidable_of_iff _ readsReadable_iff

lemma Genuine.successful_iff {fuel : ℕ} {behind : Machine ω → ℕ → UInt8} {before : Machine ω}
    {payload : PayloadRead} (h : Genuine (sx127xDriver fuel behind) before payload) :
    Successful before payload ↔ PayloadReadable before := by
  obtain ⟨s, hs⟩ := h
  exact readLastPayload_ret_iff hs

theorem packets_from_successful_reads (fuel : ℕ) (behind : Machine ω → ℕ → UInt8) :
    let d := sx127xDriver fuel behind
    (∀ n n' ret p, readLastPacket d n = .ok ((ret, p), n') →
      ((ret = .sxOk → ∃ payload m, sx1278ReadLastPayload n.radio = .ok (payload, m) ∧
          payload.ret = .sxOk) ↔ PayloadReadable n.radio)) ∧
    (∀ n rounds handler out n', n.rxBuffer = zeroBuffer → startRxLoop d rounds handler n = .ok (out, n') →
      n'.rxBuffer = zeroBuffer ∧
        ∃ trace, startRxLoop d.traced rounds handler ⟨⟨n.radio, []⟩, zeroBuffer⟩ =
            .ok (out, ⟨⟨n'.radio, trace⟩, zeroBuffer⟩) ∧
          (LoopTrace d Successful out.1 trace ↔ ReadsReadable trace)) ∧
    ∀ n p timeout ackType ret n', n.rxBuffer = zeroBuffer →
      sendPacketEnsureAck d p timeout ackType n = .ok (ret, n') →
      n'.rxBuffer = zeroBuffer ∧
        ∃ trace, sendPacketEnsureAck d.traced p timeout ackType ⟨⟨n.radio, []⟩, zeroBuffer⟩ =
            .ok (ret, ⟨⟨n'.radio, trace⟩, zeroBuffer⟩) ∧
          (ReadsReadable trace → ret = .sxOk →
            ∃ before payload q, .read before payload ∈ trace ∧ Successful before payload ∧
              DecodedFrom d before payload q ∧
              checkPacketFeatures q p.destAddress p.srcAddress p.ackId p.sequenceNumber ackType = true) := by
  intro d
  refine ⟨?_, ?_, ?_⟩
  · intro n n' ret p h
    obtain ⟨payload, m, e, hread, -, -, rfl, -⟩ := readLastPacket_ok.mp h
    have hread' : sx1278ReadLastPayload n.radio = .ok (payload, m) := hread
    rw [← readLastPayload_ret_iff hread']
    simp [hread']
  · rintro ⟨m, _⟩ rounds handler out n' rfl h
    obtain ⟨t, hrun, rfl⟩ := (startRxLoop_projects d rounds handler).run (t := ⟨⟨m, []⟩, zeroBuffer⟩) h
    obtain ⟨es, hgrow, htrace⟩ := startRxLoop_trace rfl hrun
    have hgen := (loopTrace_iff htrace).mp htrace
    have hcleared := hgrow.cleared rfl
    obtain ⟨⟨radio, trace⟩, buf⟩ := t
    obtain rfl : trace = es := hgrow.trace
    obtain rfl : buf = zeroBuffer := hcleared
    refine ⟨rfl, trace, hrun, ?_⟩
    rw [loopTrace_iff htrace]
    refine forall_congr' fun before => forall_congr' fun payload => ?_
    exact ⟨fun h hmem => (hgen _ _ hmem).successful_iff.mp (h hmem),
      fun h hmem => (hgen _ _ hmem).successful_iff.mpr (h hmem)⟩
  · rintro ⟨m, _⟩ p timeout ackType ret n' rfl h
    obtain ⟨t, hrun, rfl⟩ :=
      (sendPacketEnsureAck_projects d p timeout ackType).run (t := ⟨⟨m, []⟩, zeroBuffer⟩) h
    obtain ⟨es, hgrow, hsent⟩ := sendPacketEnsureAck_trace rfl hrun
    have hcleared := hgrow.cleared rfl
    obtain ⟨⟨radio, trace⟩, buf⟩ := t
    obtain rfl : trace = es := hgrow.trace
    obtain rfl : buf = zeroBuffer := hcleared
    refine ⟨rfl, trace, hrun, fun hreadable hret => ?_⟩
    obtain ⟨before, payload, q, hmem, hdec, hcheck⟩ := hsent.ackRead hret
    exact ⟨before, payload, q, hmem, (hsent.genuine _ _ hmem).successful_iff.mpr (hreadable _ _ hmem),
      hdec, hcheck⟩

end Trust

def stuckRadio (irq : UInt8) : Machine Unit where
  world := ()
  sx127xSpiPort :=
    ⟨fun _ _ w => (.sxOk, w),
      fun reg len w => ((.sxOk, List.replicate len (some (if reg = 0x12 then irq else 0))), w), true⟩
  sx127xTimerCtx := ⟨fun w => (0, w), fun _ w => w⟩
  loraBandwidthHz := 125000
  spreadingFactor := 12

theorem packets_from_successful_reads_rxDone :
    let d := sx127xDriver 1 fun (_ : Machine Unit) _ => 0
    let n : Node (Machine Unit) := ⟨stuckRadio 0b01001000, zeroBuffer⟩
    let t : Node (Traced (Machine Unit)) := ⟨⟨n.radio, []⟩, zeroBuffer⟩
    (∃ payload m, sx1278ReadLastPayload n.radio = .ok (payload, m) ∧ payload.ret = .sxOk) ∧
    (∃ out n' trace, startRxLoop d 2 (rxHandlerInit 1 2) n = .ok (out, n') ∧ out.1.length = 2 ∧
      startRxLoop d.traced 2 (rxHandlerInit 1 2) t = .ok (out, ⟨⟨n'.radio, trace⟩, zeroBuffer⟩) ∧
      LoopTrace d Successful out.1 trace) ∧
    ∃ n' trace, sendPacketEnsureAck d (emptyPacket 0 0 0 0) 1000 .packetBegin n = .ok (.sxOk, n') ∧
      sendPacketEnsureAck d.traced (emptyPacket 0 0 0 0) 1000 .packetBegin t =
        .ok (.sxOk, ⟨⟨n'.radio, trace⟩, zeroBuffer⟩) ∧
      ∃ before payload q, .read before payload ∈ trace ∧ Successful before payload ∧
        DecodedFrom d before payload q ∧ checkPacketFeatures q 0 0 0 0 .packetBegin = true := by
  intro d n t
  obtain ⟨hread, hloop, hack⟩ := packets_from_successful_reads 1 fun (_ : Machine Unit) _ => 0
  refine ⟨?_, ?_, ?_⟩
  · have hrun : readLastPacket d ⟨stuckRadio 0b01001000, zeroBuffer⟩ =
        .ok ((.sxOk, _), ⟨stuckRadio 0b01001000, zeroBuffer⟩) :=
      readLastPacket_ok.mpr ⟨_, _, _, rfl, rfl, rfl, rfl, rfl⟩
    exact (hread _ _ _ _ hrun).mpr (by decide) rfl
  · have htraced : ∃ out t', startRxLoop d.traced 2 (rxHandlerInit 1 2) t = .ok (out, t') ∧
        out.1.length = 2 ∧ ReadsReadable t'.radio.trace := by
      apply Prog.returns fun (out : List RxRound × RxHandlerCtx) (t' : Node (Traced (Machine Unit))) =>
        out.1.length = 2 ∧ ReadsReadable t'.radio.trace
      decide +kernel
    obtain ⟨out, ⟨⟨m, grown⟩, buf⟩, hrun, hlen, hreadable⟩ := htraced
    have herased := (startRxLoop_projects d 2 (rxHandlerInit 1 2)).erased hrun
    obtain ⟨-, trace, hrun', hgood⟩ := hloop n _ _ _ _ rfl herased
    obtain ⟨rfl, -⟩ : grown = trace ∧ buf = zeroBuffer := by simpa [eraseTrace] using hrun.symm.trans hrun'
    exact ⟨out, _, grown, herased, hlen, hrun', hgood.mpr hreadable⟩
  · have htraced : ∃ ret t', sendPacketEnsureAck d.traced (emptyPacket 0 0 0 0) 1000 .packetBegin t =
        .ok (ret, t') ∧ ret = .sxOk ∧ ReadsReadable t'.radio.trace := by
      apply Prog.returns fun (ret : Sx127xErr) (t' : Node (Traced (Machine Unit))) =>
        ret = .sxOk ∧ ReadsReadable t'.radio.trace
      decide +kernel
    obtain ⟨_, ⟨⟨m, grown⟩, buf⟩, hrun, rfl, hreadable⟩ := htraced
    have herased := (sendPacketEnsureAck_projects d (emptyPacket 0 0 0 0) 1000 .packetBegin).erased hrun
    obtain ⟨-, trace, hrun', hgood⟩ := hack n _ _ _ _ _ rfl herased
    obtain ⟨rfl, -⟩ : grown = trace ∧ buf = zeroBuffer := by simpa [eraseTrace] using hrun.symm.trans hrun'
    exact ⟨_, grown, herased, hrun', hgood hreadable rfl⟩

theorem packet_from_failed_read :
    let d := sx127xDriver 1 fun (_ : Machine Unit) _ => 0
    ∃ payload m p n', sx1278ReadLastPayload (stuckRadio 0b01100000) = .ok (payload, m) ∧
      payload.ret = .sxInvalidCrc ∧
      readLastPacket d ⟨stuckRadio 0b01100000, zeroBuffer⟩ = .ok ((.sxOk, p), n') :=
  ⟨_, _, _, ⟨stuckRadio 0b01100000, zeroBuffer⟩, rfl, rfl,
    readLastPacket_ok.mpr ⟨_, _, _, rfl, rfl, rfl, rfl, rfl⟩⟩

end LoraNetworking
