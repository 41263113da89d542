import LoraNetworking.Sx127xUtils

/-! The order of the sends of `send_burst` and the bound on its retries, on every driver: a run
is a chain of attempts, packet by packet, and ends in LoRa sleep. -/

namespace LoraNetworking

open StateProg

inductive DriverCall
  | switchMode (modeRegister : UInt8)
  | sendPayload (frame : List UInt8) (ret : Sx127xErr)

structure Logged (σ : Type) where
  radio : σ
  calls : List DriverCall

variable {σ α β : Type}

def unlogged (x : Prog σ α) : Prog (Logged σ) α :=
  x.zoom Logged.radio fun radio l => { l with radio := radio }

def logCall (call : DriverCall) : Prog (Logged σ) Unit :=
  Prog.update fun l => { l with calls := l.calls ++ [call] }

def Driver.logged (d : Driver σ) : Driver (Logged σ) where
  switchMode modeRegister := do
    let ret ← unlogged (d.switchMode modeRegister)
    logCall (.switchMode modeRegister)
    return ret
  clearIrq := unlogged d.clearIrq
  pollForIrqFlag timeoutMs pollIntervalMs irqAndMask cleanup :=
    unlogged (d.pollForIrqFlag timeoutMs pollIntervalMs irqAndMask cleanup)
  pollForIrqFlagNoTimeout pollIntervalMs irqAndMask cleanup :=
    unlogged (d.pollForIrqFlagNoTimeout pollIntervalMs irqAndMask cleanup)
  readLastPayload := unlogged d.readLastPayload
  sendPayload buf len switchToRxAfterTx := do
    let ret ← unlogged (d.sendPayload buf len switchToRxAfterTx)
    logCall (.sendPayload (buf.take len.toNat) ret)
    return ret
  behindRxBuffer l := d.behindRxBuffer l.radio

def sentFrames (calls : List DriverCall) : List (List UInt8 × Sx127xErr) :=
  calls.filterMap fun
    | .sendPayload frame ret => some (frame, ret)
    | .switchMode _ => none

inductive SendAttempt
  | unsent (ret : Sx127xErr)
  | sent (ret : Sx127xErr) (rxP : Packet)

def SendAttempt.sendRet : SendAttempt → Sx127xErr
  | .unsent ret => ret
  | .sent _ _ => .sxOk

def Answers (p : Packet) (ackType : PacketTypes) (rxP : Packet) : Prop :=
  rxP.srcAddress = p.destAddress ∧ rxP.destAddress = p.srcAddress ∧ rxP.ackId = p.ackId ∧
    rxP.sequenceNumber = p.sequenceNumber ∧ checkPacketType rxP = ackType

def SendAttempt.Answered (p : Packet) (ackType : PacketTypes) : SendAttempt → Prop
  | .unsent _ => False
  | .sent ret rxP => ret = .sxOk ∧ Answers p ackType rxP

def SendAttempt.Unanswered (p : Packet) (ackType : PacketTypes) : SendAttempt → Prop
  | .unsent _ => False
  | .sent ret rxP => ¬ (ret = .sxOk ∧ Answers p ackType rxP)

section Chain

variable (d : Driver σ) (p : Packet)

def Attempted (rxP : Packet) (n : Node σ) : SendAttempt → Node σ → Prop
  | .unsent ret, n' => ret ≠ .sxOk ∧ sx1278SendPacket d p true n = .ok (ret, n')
  | .sent ret q, n' => ∃ n₁, sx1278SendPacket d p true n = .ok (.sxOk, n₁) ∧
      sx1278PollAndReadPacket d rxP phyTimeoutMsec n₁ = .ok ((ret, q), n')

def SendAttempt.rxP (before : Packet) : SendAttempt → Packet
  | .unsent _ => before
  | .sent _ rxP => rxP

inductive Attempts : Packet → Node σ → List SendAttempt → Node σ → Prop
  | nil {rxP n} : Attempts rxP n [] n
  | cons {rxP n a n₁ as n'} : Attempted d p rxP n a n₁ → Attempts (a.rxP rxP) n₁ as n' →
      Attempts rxP n (a :: as) n'

def Closed (n n' : Node σ) : Prop :=
  ∃ n₁ e e', onRadio d.clearIrq n = .ok (e, n₁) ∧
    onRadio (d.switchMode (modeLora ||| modeSleep)) n₁ = .ok (e', n')

inductive Exchanges : List Packet → Node σ → List (List SendAttempt) → Node σ → Prop
  | nil {ps n} : Exchanges ps n [] n
  | cons {p ps n as n₁ n₂ xs n'} : Attempts d p mallocPacket n as n₁ → Closed d n₁ n₂ →
      Exchanges ps n₂ xs n' → Exchanges (p :: ps) n (as :: xs) n'

end Chain

inductive AttemptsOutcome (p : Packet) (ackType : PacketTypes) : ℕ → Sx127xErr → List SendAttempt → Prop
  | exhausted : AttemptsOutcome p ackType 0 .sxTimeout []
  | unsent {k ret} : ret ≠ .sxOk → AttemptsOutcome p ackType (k + 1) ret [.unsent ret]
  | answered {k a} : a.Answered p ackType → AttemptsOutcome p ackType (k + 1) .sxOk [a]
  | retried {k ret a as} : a.Unanswered p ackType → AttemptsOutcome p ackType k ret as →
      AttemptsOutcome p ackType (k + 1) ret (a :: as)

/-- `xs` are the attempts for the first packets of `ps`, packet by packet. -/
structure BurstRecord (ackType : ℕ → PacketTypes) (ps : List Packet) (ret : Sx127xErr)
    (xs : List (List SendAttempt)) : Prop where
  begun : ps ≠ [] → xs ≠ []
  reached : xs.length ≤ ps.length
  tries : ∀ as ∈ xs, 1 ≤ as.length ∧ as.length ≤ 4
  answered : ∀ i p as, i + 1 < xs.length → ps[i]? = some p → xs[i]? = some as →
    ∃ a, as.getLast? = some a ∧ a.Answered p (ackType i)
  ok_iff : ret = .sxOk ↔ xs.length = ps.length ∧
    ∀ i p as, i + 1 = xs.length → ps[i]? = some p → xs[i]? = some as →
      ∃ a, as.getLast? = some a ∧ a.Answered p (ackType i)
  failed : ret ≠ .sxOk → ∀ i p as, i + 1 = xs.length → ps[i]? = some p → xs[i]? = some as →
    as.getLast? = some (.unsent ret) ∨
      ret = .sxTimeout ∧ as.length = 4 ∧ ∀ a ∈ as, a.Unanswered p (ackType i)

section Outcome

variable {p : Packet} {ackType : PacketTypes} {k : ℕ} {ret : Sx127xErr} {as : List SendAttempt}

lemma AttemptsOutcome.length_le (h : AttemptsOutcome p ackType k ret as) : as.length ≤ k := by
  induction h with
  | exhausted => exact Nat.le_refl 0
  | unsent _ => exact Nat.le_add_left 1 _
  | answered _ => exact Nat.le_add_left 1 _
  | retried _ _ ih => exact Nat.succ_le_succ ih

lemma AttemptsOutcome.ne_nil (h : AttemptsOutcome p ackType (k + 1) ret as) : as ≠ [] := by
  cases h with
  | unsent _ => simp
  | answered _ => simp
  | retried _ _ => simp

lemma AttemptsOutcome.answered_last (h : AttemptsOutcome p ackType k ret as) (hret : ret = .sxOk) :
    ∃ a, as.getLast? = some a ∧ a.Answered p ackType := by
  induction h with
  | exhausted => exact absurd hret (by simp)
  | unsent hne => exact absurd hret hne
  | answered ha => exact ⟨_, rfl, ha⟩
  | retried _ _ ih =>
    obtain ⟨a, hlast, ha⟩ := ih hret
    exact ⟨a, by rw [List.getLast?_cons, hlast]; rfl, ha⟩

lemma AttemptsOutcome.failed (h : AttemptsOutcome p ackType k ret as) (hret : ret ≠ .sxOk) :
    as.getLast? = some (.unsent ret) ∨
      ret = .sxTimeout ∧ as.length = k ∧ ∀ a ∈ as, a.Unanswered p ackType := by
  induction h with
  | exhausted => exact Or.inr ⟨rfl, rfl, by simp⟩
  | unsent _ => exact Or.inl rfl
  | answered _ => exact absurd rfl hret
  | retried ha _ ih =>
    cases ih hret with
    | inl hlast => exact Or.inl (by rw [List.getLast?_cons, hlast]; rfl)
    | inr htimeout =>
      obtain ⟨hcode, hlen, hall⟩ := htimeout
      exact Or.inr ⟨hcode, by rw [List.length_cons, hlen], by simpa using ⟨ha, hall⟩⟩

-- An attempt whose answer counted is neither a failed send nor an unanswered one.
lemma AttemptsOutcome.not_answered (h : AttemptsOutcome p ackType k ret as) (hret : ret ≠ .sxOk) :
    ¬ ∃ a, as.getLast? = some a ∧ a.Answered p ackType := by
  rintro ⟨a, hlast, ha⟩
  cases h.failed hret with
  | inl hunsent =>
    rw [hlast] at hunsent
    obtain rfl := Option.some.inj hunsent
    exact ha
  | inr htimeout =>
    have hun := htimeout.2.2 a (List.mem_of_getLast? hlast)
    cases a with
    | unsent code => exact ha
    | sent code rxP => exact hun ha

end Outcome

section Runs

variable {d : Driver σ} {p rxP : Packet} {ps : List Packet} {ackType : PacketTypes} {k : ℕ}
  {n n' : Node σ} {ret : Sx127xErr}

lemma Attempted.retry {a : SendAttempt} {n₁ : Node σ} (ha : Attempted d p rxP n a n₁)
    (hun : a.Unanswered p ackType)
    (hrest : ∃ as, Attempts d p (a.rxP rxP) n₁ as n' ∧ AttemptsOutcome p ackType k ret as) :
    ∃ as, Attempts d p rxP n as n' ∧ AttemptsOutcome p ackType (k + 1) ret as := by
  obtain ⟨as, has, hout⟩ := hrest
  exact ⟨a :: as, .cons ha has, .retried hun hout⟩

lemma sendAttempts_run (h : sendAttempts d p ackType k rxP n = .ok (ret, n')) :
    ∃ as, Attempts d p rxP n as n' ∧ AttemptsOutcome p ackType k ret as := by
  induction k generalizing rxP n with
  | zero =>
    obtain ⟨rfl, rfl⟩ : Sx127xErr.sxTimeout = ret ∧ n = n' := by simpa [sendAttempts] using h
    exact ⟨[], .nil, .exhausted⟩
  | succ k ih =>
    obtain ⟨e₁, n₁, hsend, h⟩ := Prog.bind_ok.mp h
    split_ifs at h with h₁
    · obtain ⟨rfl, rfl⟩ : e₁ = ret ∧ n₁ = n' := by simpa using h
      exact ⟨[.unsent e₁], .cons ⟨h₁, hsend⟩ .nil, .unsent h₁⟩
    obtain rfl := not_not.mp h₁
    obtain ⟨⟨e₂, q⟩, n₂, hpoll, h⟩ := Prog.bind_ok.mp h
    have ha : Attempted d p rxP n (.sent e₂ q) n₂ := ⟨n₁, hsend, hpoll⟩
    dsimp only at h
    split_ifs at h with h₂ hcheck
    · exact ha.retry (fun hans => h₂ hans.1) (ih h)
    · obtain ⟨text, n₃, hdesc, h⟩ := Prog.bind_ok.mp h
      have hun : SendAttempt.Unanswered p ackType (.sent e₂ q) := fun hans => by
        rw [(checkPacketFeatures_iff q _ _ _ _ _).mpr hans.2] at hcheck
        exact absurd hcheck (by simp)
      cases hd : packetDescription q with
      | error e => simp [hd] at hdesc
      | ok _ =>
        obtain ⟨-, rfl⟩ : _ = text ∧ n₂ = n₃ := by simpa [hd] using hdesc
        exact ha.retry hun (ih h)
    · obtain ⟨rfl, rfl⟩ : Sx127xErr.sxOk = ret ∧ n₂ = n' := by simpa using h
      have hans := (checkPacketFeatures_iff q _ _ _ _ _).mp (Bool.not_eq_false _ ▸ hcheck)
      exact ⟨[.sent e₂ q], .cons ha .nil, .answered ⟨not_not.mp h₂, hans⟩⟩

lemma sendPacketEnsureAck_run
    (h : sendPacketEnsureAck d p (4 * phyTimeoutMsec) ackType n = .ok (ret, n')) :
    ∃ as n₁, Attempts d p mallocPacket n as n₁ ∧ Closed d n₁ n' ∧ AttemptsOutcome p ackType 4 ret as := by
  obtain ⟨ret', n₁, hattempts, h⟩ := Prog.bind_ok.mp h
  obtain ⟨e, n₂, hclear, h⟩ := Prog.bind_ok.mp h
  obtain ⟨e', n₃, hmode, h⟩ := Prog.bind_ok.mp h
  obtain ⟨rfl, rfl⟩ : ret' = ret ∧ n₃ = n' := by simpa using h
  rw [timeoutN_burst] at hattempts
  obtain ⟨as, has, hout⟩ := sendAttempts_run hattempts
  exact ⟨as, n₁, has, ⟨n₂, e, e', hclear, hmode⟩, hout⟩

lemma BurstRecord.nil {ackType : ℕ → PacketTypes} : BurstRecord ackType [] .sxOk [] where
  begun h := absurd rfl h
  reached := Nat.le_refl 0
  tries := by simp
  answered := by simp
  ok_iff := by simp
  failed h := absurd rfl h

lemma AttemptsOutcome.tries {as : List SendAttempt} (h : AttemptsOutcome p ackType 4 ret as) :
    1 ≤ as.length ∧ as.length ≤ 4 :=
  ⟨List.length_pos_of_ne_nil h.ne_nil, h.length_le⟩

lemma BurstRecord.fail {ackType : ℕ → PacketTypes} {as : List SendAttempt}
    (h : AttemptsOutcome p (ackType 0) 4 ret as) (hret : ret ≠ .sxOk) :
    BurstRecord ackType (p :: ps) ret [as] where
  begun _ := by simp
  reached := by simp
  tries := by simpa using h.tries
  answered := by simp
  ok_iff := by
    refine ⟨fun hok => absurd hok hret, fun hlast => absurd ?_ (h.not_answered hret)⟩
    exact hlast.2 0 p as rfl rfl rfl
  failed _ i q bs hi hq hbs := by
    obtain rfl : i = 0 := by simpa using hi
    obtain rfl : p = q := by simpa using hq
    obtain rfl : as = bs := by simpa using hbs
    exact h.failed hret

lemma BurstRecord.cons {ackType : ℕ → PacketTypes} {as : List SendAttempt} {xs : List (List SendAttempt)}
    (h : AttemptsOutcome p (ackType 0) 4 .sxOk as)
    (hrest : BurstRecord (fun i => ackType (i + 1)) ps ret xs) :
    BurstRecord ackType (p :: ps) ret (as :: xs) where
  begun _ := by simp
  reached := Nat.succ_le_succ hrest.reached
  tries := by simpa using ⟨h.tries, hrest.tries⟩
  answered i q bs hi hq hbs := by
    cases i with
    | zero =>
      obtain rfl : p = q := by simpa using hq
      obtain rfl : as = bs := by simpa using hbs
      exact h.answered_last rfl
    | succ i => exact hrest.answered i q bs (Nat.lt_of_succ_lt_succ hi) hq hbs
  ok_iff := by
    rw [hrest.ok_iff]
    constructor
    · rintro ⟨hlen, hlast⟩
      refine ⟨congrArg (· + 1) hlen, fun i q bs hi hq hbs => ?_⟩
      cases i with
      | zero =>
        obtain rfl : p = q := by simpa using hq
        obtain rfl : as = bs := by simpa using hbs
        exact h.answered_last rfl
      | succ i => exact hlast i q bs (Nat.succ_injective hi) hq hbs
    · rintro ⟨hlen, hlast⟩
      exact ⟨Nat.succ_injective hlen, fun i q bs hi hq hbs =>
        hlast (i + 1) q bs (congrArg (· + 1) hi) hq hbs⟩
  failed hret i q bs hi hq hbs := by
    cases i with
    | zero =>
      -- no packet was left, and a burst without packets does not fail
      have hxs : xs = [] := List.length_eq_zero_iff.mp (Nat.succ_injective hi).symm
      have hps : ps = [] := by
        by_contra hne
        exact hrest.begun hne hxs
      exact absurd (hrest.ok_iff.mpr ⟨by rw [hxs, hps]; rfl, by simp [hxs]⟩) hret
    | succ i => exact hrest.failed hret i q bs (Nat.succ_injective hi) hq hbs

lemma sendBurstFrom_run {len i : ℕ} (h : sendBurstFrom d len i (ps.map some) n = .ok (ret, n')) :
    ∃ xs, Exchanges d ps n xs n' ∧ BurstRecord (fun j => burstAckType len (i + j)) ps ret xs := by
  induction ps generalizing i n with
  | nil =>
    obtain ⟨rfl, rfl⟩ : Sx127xErr.sxOk = ret ∧ n = n' := by simpa [sendBurstFrom] using h
    exact ⟨[], .nil, .nil⟩
  | cons p ps ih =>
    rw [List.map_cons, sendBurstFrom] at h
    obtain ⟨e, n₂, hsend, h⟩ := Prog.bind_ok.mp h
    obtain ⟨as, n₁, has, hclosed, hout⟩ := sendPacketEnsureAck_run hsend
    split_ifs at h with he
    · obtain ⟨rfl, rfl⟩ : e = ret ∧ n₂ = n' := by simpa using h
      exact ⟨[as], .cons has hclosed .nil, .fail hout he⟩
    obtain rfl := not_not.mp he
    obtain ⟨xs, hxs, hrecord⟩ := ih h
    refine ⟨as :: xs, .cons has hclosed hxs, .cons hout ?_⟩
    simpa only [Nat.add_assoc, Nat.add_comm 1] using hrecord

end Runs

def burstSends (ps : List Packet) (xs : List (List SendAttempt)) : List (List UInt8 × Sx127xErr) :=
  (ps.zip xs).flatMap fun e => e.2.map fun a => (encode e.1, a.sendRet)

section Log

variable {d : Driver σ} {p rxP : Packet} {ps : List Packet} {n n' : Node (Logged σ)} {ret : Sx127xErr}
  {a : SendAttempt} {as : List SendAttempt} {xs : List (List SendAttempt)}

def Node.sentFrames (n : Node (Logged σ)) : List (List UInt8 × Sx127xErr) :=
  LoraNetworking.sentFrames n.radio.calls

def Silent (x : Prog (Node (Logged σ)) α) : Prop :=
  ∀ frames, Triple (fun n => n.sentFrames = frames) x fun _ n => n.sentFrames = frames

lemma Silent.bind {x : Prog (Node (Logged σ)) α} {f : α → Prog (Node (Logged σ)) β} (hx : Silent x)
    (hf : ∀ a, Silent (f a)) : Silent (x >>= f) :=
  fun frames => .bind (hx frames) fun a => hf a frames

lemma Silent.pure (a : α) : Silent (Pure.pure a : Prog (Node (Logged σ)) α) :=
  fun _ => .pure fun _ hn => hn

lemma Silent.ite {c : Prop} [Decidable c] {x y : Prog (Node (Logged σ)) α} (hx : Silent x)
    (hy : Silent y) : Silent (if c then x else y) :=
  fun frames => .ite (fun _ => hx frames) fun _ => hy frames

lemma unlogged_calls {x : Prog σ α} {b : α} {l l' : Logged σ} (h : unlogged x l = .ok (b, l')) :
    l'.calls = l.calls := by
  obtain ⟨s, -, rfl⟩ := Prog.zoom_ok.mp h
  rfl

lemma unlogged_silent (x : Prog σ α) : Silent (onRadio (unlogged x)) := by
  intro frames n b n' hn h
  rw [Node.sentFrames, unlogged_calls (onRadio_ok.mp h).1]
  exact hn

lemma switchMode_calls {modeRegister : UInt8}
    (h : onRadio (d.logged.switchMode modeRegister) n = .ok (ret, n')) :
    n'.radio.calls = n.radio.calls ++ [.switchMode modeRegister] := by
  obtain ⟨e, l, hswitch, h⟩ := Prog.bind_ok.mp (onRadio_ok.mp h).1
  obtain ⟨-, hl⟩ : e = ret ∧ ({ l with calls := l.calls ++ [.switchMode modeRegister] } : Logged σ) =
      n'.radio := by simpa [logCall, Prog.bind_apply] using h
  rw [← hl, ← unlogged_calls hswitch]

lemma switchMode_silent (modeRegister : UInt8) : Silent (onRadio (d.logged.switchMode modeRegister)) := by
  intro frames n b n' hn h
  rw [Node.sentFrames, switchMode_calls h, LoraNetworking.sentFrames, List.filterMap_append]
  exact (List.append_nil _).trans hn

lemma readLastPacket_silent : Silent (readLastPacket d.logged) := by
  intro frames n b n' hn h
  obtain ⟨payload, l, e, hread, hclear, -⟩ := readLastPacket_ok.mp h
  rw [Node.sentFrames, unlogged_calls (x := d.clearIrq) hclear, unlogged_calls (x := d.readLastPayload) hread]
  exact hn

lemma pollAndReadPacket_silent (rxP : Packet) (timeout : ℕ) :
    Silent (sx1278PollAndReadPacket d.logged rxP timeout) := by
  have hbody : Silent (pollAndReadBody d.logged rxP timeout) := by
    refine .bind (switchMode_silent _) fun _ => .ite (.pure _) ?_
    refine .bind (unlogged_silent _) fun _ => .ite (.pure _) ?_
    refine .bind (switchMode_silent _) fun _ => .ite (.pure _) ?_
    exact .bind readLastPacket_silent fun _ => .ite (.pure _) (.pure _)
  refine .bind hbody fun _ => .bind (unlogged_silent _) fun _ => ?_
  exact .bind (switchMode_silent _) fun _ => .pure _

lemma sendPacket_sentFrames {switchToRxAfterTx : Bool}
    (h : sx1278SendPacket d.logged p switchToRxAfterTx n = .ok (ret, n')) :
    n'.sentFrames = n.sentFrames ++ [(encode p, ret)] := by
  have hmax := sx1278SendPacket_bounded h
  rw [sx1278SendPacket_eq hmax] at h
  obtain ⟨e, l, hsend, h⟩ := Prog.bind_ok.mp (onRadio_ok.mp h).1
  rw [txBuffer_take hmax] at h
  obtain ⟨rfl, hl⟩ : e = ret ∧ ({ l with calls := l.calls ++ [.sendPayload (encode p) e] } : Logged σ) =
      n'.radio := by simpa [logCall, Prog.bind_apply] using h
  rw [Node.sentFrames, ← hl, unlogged_calls hsend, LoraNetworking.sentFrames, List.filterMap_append]
  rfl

lemma Attempted.sentFrames (h : Attempted d.logged p rxP n a n') :
    n'.sentFrames = n.sentFrames ++ [(encode p, a.sendRet)] := by
  cases a with
  | unsent ret => exact sendPacket_sentFrames h.2
  | sent ret q =>
    obtain ⟨n₁, hsend, hpoll⟩ := h
    exact pollAndReadPacket_silent rxP phyTimeoutMsec _ _ _ _ (sendPacket_sentFrames hsend) hpoll

lemma Attempts.sentFrames (h : Attempts d.logged p rxP n as n') :
    n'.sentFrames = n.sentFrames ++ as.map fun a => (encode p, a.sendRet) := by
  induction h with
  | nil => simp
  | cons ha _ ih => rw [ih, ha.sentFrames, List.append_assoc]; rfl

lemma Closed.sentFrames (h : Closed d.logged n n') : n'.sentFrames = n.sentFrames := by
  obtain ⟨n₁, e, e', hclear, hmode⟩ := h
  exact switchMode_silent _ _ _ _ _ (unlogged_silent _ _ _ _ _ rfl hclear) hmode

lemma Closed.last (h : Closed d.logged n n') :
    n'.radio.calls.getLast? = some (.switchMode (modeLora ||| modeSleep)) := by
  obtain ⟨n₁, e, e', -, hmode⟩ := h
  rw [switchMode_calls hmode]
  exact List.getLast?_concat

lemma Exchanges.sentFrames (h : Exchanges d.logged ps n xs n') :
    n'.sentFrames = n.sentFrames ++ burstSends ps xs := by
  induction h with
  | nil => simp [burstSends]
  | cons has hclosed _ ih =>
    rw [ih, hclosed.sentFrames, has.sentFrames, List.append_assoc]
    rfl

lemma Exchanges.last (h : Exchanges d.logged ps n xs n') (hxs : xs ≠ []) :
    n'.radio.calls.getLast? = some (.switchMode (modeLora ||| modeSleep)) := by
  induction h with
  | nil => exact absurd rfl hxs
  | cons _ hclosed hrest ih =>
    cases hrest with
    | nil => exact hclosed.last
    | cons has hclosed' hrest => exact ih (by simp)

end Log

/-- Every call of the driver comes back, and no reply announces more than eight bytes. -/
structure Responsive (d : Driver σ) : Prop where
  switchMode : ∀ modeRegister s, ∃ ret t, d.switchMode modeRegister s = .ok (ret, t)
  clearIrq : ∀ s, ∃ ret t, d.clearIrq s = .ok (ret, t)
  pollForIrqFlag : ∀ timeoutMs pollIntervalMs irqAndMask cleanup s,
    ∃ ret t, d.pollForIrqFlag timeoutMs pollIntervalMs irqAndMask cleanup s = .ok (ret, t)
  sendPayload : ∀ buf len switchToRxAfterTx s,
    ∃ ret t, d.sendPayload buf len switchToRxAfterTx s = .ok (ret, t)
  readLastPayload : ∀ s, ∃ payload t, d.readLastPayload s = .ok (payload, t) ∧
    (parsePacket (rxMemory (zeroBuffer.overwrite payload.stored) (d.behindRxBuffer t))).2.payloadLength.toNat ≤
      payloadLengthMax

section Totality

variable {d : Driver σ} {p : Packet} {ps : List Packet}

def Zeroed (n : Node σ) : Prop := n.rxBuffer = zeroBuffer

lemma unlogged_of_ok {x : Prog σ α} {l : Logged σ} {a : α} {t : σ} (h : x l.radio = .ok (a, t)) :
    unlogged x l = .ok (a, { l with radio := t }) := by
  simp [unlogged, Prog.zoom, h]

lemma Responsive.logged (h : Responsive d) : Responsive d.logged where
  switchMode modeRegister l := by
    obtain ⟨ret, t, hrun⟩ := h.switchMode modeRegister l.radio
    exact ⟨ret, _, Prog.bind_of_ok (unlogged_of_ok hrun)⟩
  clearIrq l := by
    obtain ⟨ret, t, hrun⟩ := h.clearIrq l.radio
    exact ⟨ret, _, unlogged_of_ok hrun⟩
  pollForIrqFlag timeoutMs pollIntervalMs irqAndMask cleanup l := by
    obtain ⟨ret, t, hrun⟩ := h.pollForIrqFlag timeoutMs pollIntervalMs irqAndMask cleanup l.radio
    exact ⟨ret, _, unlogged_of_ok hrun⟩
  sendPayload buf len switchToRxAfterTx l := by
    obtain ⟨ret, t, hrun⟩ := h.sendPayload buf len switchToRxAfterTx l.radio
    exact ⟨ret, _, Prog.bind_of_ok (unlogged_of_ok hrun)⟩
  readLastPayload l := by
    obtain ⟨payload, t, hrun, hmax⟩ := h.readLastPayload l.radio
    exact ⟨payload, _, unlogged_of_ok hrun, hmax⟩

lemma onRadio_total {x : Prog σ α} (hx : ∀ s, ∃ a t, x s = .ok (a, t)) :
    Total Zeroed (onRadio x) fun _ => Zeroed := by
  intro n hn
  obtain ⟨a, t, hrun⟩ := hx n.radio
  exact ⟨a, _, onRadio_of_ok hrun, hn⟩

lemma Responsive.readLastPacket (h : Responsive d) :
    Total Zeroed (readLastPacket d) fun out n =>
      Zeroed n ∧ out.2.payloadLength.toNat ≤ payloadLengthMax := by
  intro n hn
  obtain ⟨payload, s, hread, hmax⟩ := h.readLastPayload n.radio
  obtain ⟨e, t, hclear⟩ := h.clearIrq s
  have hrun : LoraNetworking.readLastPacket d n = .ok ((.sxOk, _), ⟨t, zeroBuffer⟩) :=
    readLastPacket_ok.mpr ⟨payload, s, e, hread, hclear, rfl, rfl, rfl⟩
  refine ⟨_, _, hrun, rfl, ?_⟩
  rw [hn]
  exact hmax

/-- The packet behind the pointer is a received one whenever the code goes on to look at it. -/
def ReplyBounded (out : Sx127xErr × Packet) (n : Node σ) : Prop :=
  Zeroed n ∧ (out.1 = .sxOk → out.2.payloadLength.toNat ≤ payloadLengthMax)

lemma replyBounded_failed {ret : Sx127xErr} (hret : ret ≠ .sxOk) (rxP : Packet) :
    Total Zeroed (pure (ret, rxP) : Prog (Node σ) (Sx127xErr × Packet)) ReplyBounded :=
  .pure fun _ hn => ⟨hn, fun hok => absurd hok hret⟩

lemma Responsive.pollAndReadPacket (h : Responsive d) (rxP : Packet) (timeout : ℕ) :
    Total Zeroed (sx1278PollAndReadPacket d rxP timeout) ReplyBounded := by
  have hbody : Total Zeroed (pollAndReadBody d rxP timeout) ReplyBounded := by
    refine .bind (onRadio_total (h.switchMode _)) fun _ => .ite (fun he => replyBounded_failed he _) fun _ => ?_
    refine .bind (onRadio_total (h.pollForIrqFlag _ _ _ _)) fun _ =>
      .ite (fun he => replyBounded_failed he _) fun _ => ?_
    refine .bind (onRadio_total (h.switchMode _)) fun _ => .ite (fun he => replyBounded_failed he _) fun _ => ?_
    refine .bind h.readLastPacket fun out => .ite (fun he => ?_) fun _ => ?_
    · exact .pure fun n hn => ⟨hn.1, fun _ => hn.2⟩
    · exact .pure fun n hn => ⟨hn.1, fun _ => hn.2⟩
  have hkeep : ∀ (out : Sx127xErr × Packet) {x : Prog σ Sx127xErr}, (∀ s, ∃ a t, x s = .ok (a, t)) →
      Total (ReplyBounded out) (onRadio x) fun _ => ReplyBounded out := by
    intro out x hx n hn
    obtain ⟨a, t, hrun, hzero⟩ := onRadio_total hx n hn.1
    exact ⟨a, t, hrun, hzero, hn.2⟩
  refine .bind hbody fun out => .bind (hkeep out h.clearIrq) fun _ => ?_
  exact .bind (hkeep out (h.switchMode _)) fun _ => .pure fun _ hn => hn

lemma Responsive.sendPacket (h : Responsive d) (hp : p.payloadLength.toNat ≤ payloadLengthMax) :
    Total Zeroed (sx1278SendPacket d p true) fun _ => Zeroed := by
  rw [sx1278SendPacket_eq hp]
  exact onRadio_total (h.sendPayload _ _ _)

lemma Responsive.sendAttempts (h : Responsive d) (hp : p.payloadLength.toNat ≤ payloadLengthMax)
    (ackType : PacketTypes) (k : ℕ) (rxP : Packet) :
    Total Zeroed (sendAttempts d p ackType k rxP) fun _ => Zeroed := by
  induction k generalizing rxP with
  | zero => exact .pure fun _ hn => hn
  | succ k ih =>
    refine .bind (h.sendPacket hp) fun _ => .ite (fun _ => .pure fun _ hn => hn) fun _ => ?_
    refine .bind (h.pollAndReadPacket rxP _) fun out n hn => ?_
    obtain ⟨e, q⟩ := out
    dsimp only
    split_ifs with he hcheck
    · exact ih q n hn.1
    · rw [packetDescription_ok q (hn.2 (not_not.mp he)), Prog.bind_of_ok (Prog.ofExcept_ok _ n)]
      exact ih q n hn.1
    · exact ⟨_, n, rfl, hn.1⟩

lemma Responsive.sendPacketEnsureAck (h : Responsive d)
    (hp : p.payloadLength.toNat ≤ payloadLengthMax) (timeout : ℤ) (ackType : PacketTypes) :
    Total Zeroed (sendPacketEnsureAck d p timeout ackType) fun _ => Zeroed := by
  refine .bind (h.sendAttempts hp ackType _ _) fun _ => ?_
  refine .bind (onRadio_total h.clearIrq) fun _ => ?_
  exact .bind (onRadio_total (h.switchMode _)) fun _ => .pure fun _ hn => hn

lemma Responsive.sendBurstFrom (h : Responsive d)
    (hps : ∀ p ∈ ps, p.payloadLength.toNat ≤ payloadLengthMax) (len i : ℕ) :
    Total Zeroed (sendBurstFrom d len i (ps.map some)) fun _ => Zeroed := by
  induction ps generalizing i with
  | nil => exact .pure fun _ hn => hn
  | cons p ps ih =>
    refine .bind (h.sendPacketEnsureAck (hps p (by simp)) _ _) fun _ => ?_
    exact .ite (fun _ => .pure fun _ hn => hn) fun _ => ih (fun q hq => hps q (by simp [hq])) (i + 1)

end Totality

theorem send_burst_order (d : Driver σ) (ps : List Packet) (hlen : 2 ≤ ps.length) (radio : σ) :
    (∀ buf ret n', sendBurst d.logged (ps.map some) ⟨⟨radio, []⟩, buf⟩ = .ok (ret, n') →
      ∃ xs, Exchanges d.logged ps ⟨⟨radio, []⟩, buf⟩ xs n' ∧
        BurstRecord (burstAckType ps.length) ps ret xs ∧
        sentFrames n'.radio.calls = burstSends ps xs ∧
        n'.radio.calls.getLast? = some (.switchMode (modeLora ||| modeSleep))) ∧
    (Responsive d → (∀ p ∈ ps, p.payloadLength.toNat ≤ payloadLengthMax) →
      ∃ ret n', sendBurst d.logged (ps.map some) ⟨⟨radio, []⟩, zeroBuffer⟩ = .ok (ret, n')) := by
  refine ⟨fun buf ret n' h => ?_, fun hd hps => ?_⟩
  · obtain ⟨xs, hxs, hrecord⟩ := sendBurstFrom_run h
    rw [List.length_map] at hrecord
    simp only [Nat.zero_add] at hrecord
    have hne : xs ≠ [] := hrecord.begun (List.ne_nil_of_length_pos (by omega))
    exact ⟨xs, hxs, hrecord, hxs.sentFrames, hxs.last hne⟩
  · obtain ⟨ret, n', hrun, -⟩ := hd.logged.sendBurstFrom hps (ps.map some).length 0
      ⟨⟨radio, []⟩, zeroBuffer⟩ rfl
    exact ⟨ret, n', hrun⟩

def beginPacket : Packet := emptyPacket 2 1 7 0

def endPacket : Packet := emptyPacket 2 1 7 255

def firstReplyLost : Driver ℕ where
  switchMode _ := pure .sxOk
  clearIrq := pure .sxOk
  pollForIrqFlag _ _ _ _ := Prog.step fun sent => (if sent = 1 then .sxTimeout else .sxOk, sent)
  pollForIrqFlagNoTimeout _ _ _ := pure .sxOk
  readLastPayload := Prog.step fun sent =>
    (⟨.sxOk, (encode (emptyPacket 1 2 7 (if sent = 2 then 0 else 255))).map some, some 7⟩, sent)
  sendPayload _ _ _ := Prog.step fun sent => (.sxOk, sent + 1)
  behindRxBuffer _ _ := 0

lemma firstReplyLost_responsive : Responsive firstReplyLost where
  switchMode _ _ := ⟨_, _, rfl⟩
  clearIrq _ := ⟨_, _, rfl⟩
  pollForIrqFlag _ _ _ _ _ := ⟨_, _, rfl⟩
  sendPayload _ _ _ _ := ⟨_, _, rfl⟩
  readLastPayload sent := by
    refine ⟨_, sent, rfl, ?_⟩
    have hlen : (encode (emptyPacket 1 2 7 (if sent = 2 then 0 else 255))).length ≤ 255 := by
      rw [encode_length]
      exact (by decide : overhead ≤ 255)
    rw [parsePacket_encode _ fun i hi => rxMemory_overwrite _ _ hlen hi]
    exact Nat.zero_le _

theorem send_burst_order_resent :
    let ps := [beginPacket, endPacket]
    let n : Node (Logged ℕ) := ⟨⟨0, []⟩, zeroBuffer⟩
    (∃ ret n', sendBurst firstReplyLost.logged (ps.map some) n = .ok (ret, n')) ∧
    ∃ n', sendBurst firstReplyLost.logged (ps.map some) n = .ok (.sxOk, n') ∧
      ∃ xs, Exchanges firstReplyLost.logged ps n xs n' ∧ BurstRecord (burstAckType 2) ps .sxOk xs ∧
        burstSends ps xs =
          [(encode beginPacket, .sxOk), (encode beginPacket, .sxOk), (encode endPacket, .sxOk)] ∧
        n'.radio.calls.getLast? = some (.switchMode (modeLora ||| modeSleep)) := by
  intro ps n
  obtain ⟨hruns, htotal⟩ := send_burst_order firstReplyLost ps (by decide) 0
  refine ⟨htotal firstReplyLost_responsive (by decide), ?_⟩
  have hrun : ∃ ret n', sendBurst firstReplyLost.logged (ps.map some) n = .ok (ret, n') ∧ ret = .sxOk ∧
      sentFrames n'.radio.calls =
        [(encode beginPacket, .sxOk), (encode beginPacket, .sxOk), (encode endPacket, .sxOk)] := by
    apply Prog.returns fun (ret : Sx127xErr) (n' : Node (Logged ℕ)) => ret = .sxOk ∧
      sentFrames n'.radio.calls =
        [(encode beginPacket, .sxOk), (encode beginPacket, .sxOk), (encode endPacket, .sxOk)]
    decide +kernel
  obtain ⟨ret, n', hrun, rfl, hsends⟩ := hrun
  obtain ⟨xs, hxs, hrecord, hframes, hlast⟩ := hruns _ _ _ hrun
  exact ⟨n', hrun, xs, hxs, hrecord, hframes.symm.trans hsends, hlast⟩

end LoraNetworking
