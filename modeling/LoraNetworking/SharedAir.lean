import LoraNetworking.Receiver

/-! One sender and any number of nodes on one radio channel: a frame reaches some of the nodes that
listen, and every node that gets a frame answers it, whoever it was for. -/

namespace LoraNetworking

open StateProg

structure Emission (ι : Type) where
  node : ι
  listeners : ι → Bool
  reachesSender : Bool

/-- One attempt of the sender: the replies in the air before it, the nodes in reach of its frame, and
the replies while it listens. -/
structure Airtime (ι : Type) where
  before : List (Emission ι)
  listeners : ι → Bool
  after : List (Emission ι)

/-- The channel as the sender sees it. `received` is the history of its own frames: the attempts and
the frames that each node has received. -/
structure Air (ι : Type) where
  attempts : ℕ → Airtime ι
  tick : ℕ
  node : ι → Receiver
  owed : ι → List (List UInt8)
  pending : Option (List UInt8)
  received : ι → List (ℕ × List UInt8)
  memory : ℕ → UInt8

/-- The node after a round of its loop on `frame`, and every frame the round gave it to send. -/
def react (frame : List UInt8) (r : Receiver) : Receiver × List (List UInt8) :=
  match hear frame r with
  | .ok (acks, r') => (r', acks)
  | .error _ => (r, [])

section Air

variable {ι : Type}

def Air.receives (a : Air ι) (listeners : ι → Bool) (i : ι) : Bool :=
  -- a node that still has to answer does not listen
  listeners i && (a.owed i).isEmpty

def Air.broadcast (a : Air ι) (frame : List UInt8) (listeners : ι → Bool) : Air ι :=
  { a with
    node := fun i => if a.receives listeners i then (react frame (a.node i)).1 else a.node i
    owed := fun i => if a.receives listeners i then (react frame (a.node i)).2 else a.owed i }

variable [DecidableEq ι]

def Air.answered (a : Air ι) (i : ι) : Air ι :=
  { a with owed := Function.update a.owed i (a.owed i).tail }

def Air.emit (a : Air ι) (e : Emission ι) : Air ι :=
  match a.owed e.node with
  | [] => a
  | frame :: _ =>
    -- the sender keeps the first frame that reaches it
    { (a.answered e.node).broadcast frame (fun i => e.listeners i && decide (i ≠ e.node)) with
      pending := a.pending.or (if e.reachesSender then some frame else none) }

def Air.send (frame : List UInt8) (a : Air ι) : Air ι :=
  let b := (a.attempts a.tick).before.foldl Air.emit a
  -- what was sent before is gone: the sender did not listen
  { b.broadcast frame (a.attempts a.tick).listeners with
    pending := none
    received := fun i =>
      if b.receives (a.attempts a.tick).listeners i then b.received i ++ [(a.tick, frame)]
      else b.received i }

def Air.listen (a : Air ι) : Air ι :=
  { (a.attempts a.tick).after.foldl Air.emit a with tick := a.tick + 1 }

def air : Medium (Air ι) where
  transmit frame := Prog.update (Air.send frame)
  listen := Air.listen
  received := Air.pending
  take a := { a with pending := none }
  memory := Air.memory

def Air.receivedSince (a b : Air ι) (i : ι) : List (ℕ × List UInt8) :=
  (b.received i).drop (a.received i).length

def AckedByAddressee (p : Packet) (timeout : ℤ) (n : Node (Air ι)) : Prop :=
  ∀ n', sendPacketEnsureAck air.driver p timeout (checkPacketType (ackFor p)) n = .ok (.sxOk, n') →
    ∃ i tick, (n.radio.node i).handler.hostAddr = p.destAddress ∧
      (tick, encode p) ∈ n.radio.receivedSince n'.radio i

/-- No reply to a packet with the header of `p`, or of its ack, is still to be sent. -/
def Quiet (p : Packet) (a : Air ι) : Prop :=
  ∀ i, ∀ f ∈ a.owed i,
    ∃ q, f = encode (ackFor q) ∧ ackFor q ≠ ackFor p ∧ ackFor q ≠ ackFor (ackFor p)

def Unanswered (p : Packet) (a : Air ι) : Prop :=
  ∀ f, a.pending = some f → decodeFrame a.memory f ≠ ackFor p

section Emissions

variable {a : Air ι} {p q : Packet}

lemma react_encode (hmax : p.payloadLength.toNat ≤ payloadLengthMax) (r : Receiver) :
    (react (encode p) r).2 = [encode (ackFor p)] := by
  obtain ⟨r', hr, -⟩ := hear_encode hmax r
  rw [react, hr]

omit [DecidableEq ι] in
lemma Quiet.broadcast (h : Quiet p a) (hq : ackFor q ≠ ackFor p) (hq' : ackFor q ≠ ackFor (ackFor p))
    (listeners : ι → Bool) : Quiet p (a.broadcast (encode (ackFor q)) listeners) := by
  intro i f hf
  simp only [Air.broadcast] at hf
  split_ifs at hf with hi
  · -- who hears an ack answers it with an ack the other way round
    rw [react_encode (ackFor_bounded q), List.mem_singleton] at hf
    refine ⟨ackFor q, hf, fun he => hq' ?_, fun he => hq ?_⟩
    · rw [← he, ackFor_ackFor_ackFor]
    · rw [← ackFor_ackFor_ackFor q, he, ackFor_ackFor_ackFor]
  · exact h i f hf

lemma Quiet.answered (h : Quiet p a) (i : ι) : Quiet p (a.answered i) := by
  intro j f hf
  by_cases hj : j = i
  · subst hj
    simp only [Air.answered, Function.update_self] at hf
    exact h j f (List.mem_of_mem_tail hf)
  · simp only [Air.answered, Function.update_of_ne hj] at hf
    exact h j f hf

lemma Quiet.emit (h : Quiet p a) (e : Emission ι) : Quiet p (a.emit e) := by
  cases hr : a.owed e.node with
  | nil =>
    rw [Air.emit, hr]
    exact h
  | cons f fs =>
    obtain ⟨q, rfl, hq, hq'⟩ := h e.node f (by simp [hr])
    rw [Air.emit, hr]
    exact (h.answered e.node).broadcast hq hq' _

lemma Unanswered.emit (hu : Unanswered p a) (h : Quiet p a) (e : Emission ι) :
    Unanswered p (a.emit e) := by
  cases hr : a.owed e.node with
  | nil =>
    rw [Air.emit, hr]
    exact hu
  | cons f fs =>
    obtain ⟨q, rfl, hq, -⟩ := h e.node f (by simp [hr])
    intro g hg
    rw [Air.emit, hr] at hg ⊢
    cases hp : a.pending with
    | some f' =>
      rw [hp] at hg
      exact hu g (hp.trans hg)
    | none =>
      obtain ⟨-, rfl⟩ : e.reachesSender = true ∧ encode (ackFor q) = g := by simpa [hp] using hg
      rw [decodeFrame_encode (ackFor_bounded q)]
      exact hq

lemma received_emit (a : Air ι) (e : Emission ι) : (a.emit e).received = a.received := by
  rw [Air.emit]
  cases a.owed e.node with
  | nil => rfl
  | cons f fs => rfl

lemma foldl_emit (p : Packet) (a : Air ι) (es : List (Emission ι)) :
    (es.foldl Air.emit a).received = a.received ∧
      (Quiet p a → Quiet p (es.foldl Air.emit a) ∧ (Unanswered p a → Unanswered p (es.foldl Air.emit a))) := by
  induction es generalizing a with
  | nil => exact ⟨rfl, fun h => ⟨h, id⟩⟩
  | cons e es ih =>
    obtain ⟨hreceived, hkeep⟩ := ih (a.emit e)
    refine ⟨hreceived.trans (received_emit a e), fun h => ?_⟩
    obtain ⟨hquiet, hunanswered⟩ := hkeep (h.emit e)
    exact ⟨hquiet, fun hu => hunanswered (hu.emit h e)⟩

def Delivered (p : Packet) (start a : Air ι) : Prop :=
  ∃ i tick, (tick, encode p) ∈ start.receivedSince a i

variable {start : Air ι}

lemma received_send (a : Air ι) (frame : List UInt8) (i : ι) :
    (a.send frame).received i = a.received i ∨ (a.send frame).received i = a.received i ++ [(a.tick, frame)] := by
  obtain ⟨hreceived, -⟩ := foldl_emit mallocPacket a (a.attempts a.tick).before
  simp only [Air.send, hreceived]
  split_ifs
  · exact Or.inr rfl
  · exact Or.inl rfl

lemma Delivered.send (h : Delivered p start a) (frame : List UInt8) : Delivered p start (a.send frame) := by
  obtain ⟨i, tick, hmem⟩ := h
  refine ⟨i, tick, ?_⟩
  rw [Air.receivedSince] at hmem ⊢
  cases received_send a frame i with
  | inl hsame => rwa [hsame]
  | inr hmore =>
    rw [hmore, List.drop_append]
    exact List.mem_append_left _ hmem

/-- The nodes keep what they had received, and either one of them has received the packet of the call or
no frame that could pass for its ack is in the air. -/
structure AckSafe (p : Packet) (start a : Air ι) : Prop where
  kept : ∀ i, start.received i <+: a.received i
  safe : Delivered p start a ∨ Quiet p a

lemma AckSafe.send (h : AckSafe p start a) : (∀ i, start.received i <+: (a.send (encode p)).received i) ∧
    (Delivered p start (a.send (encode p)) ∨
      Quiet p (a.send (encode p)) ∧ Unanswered p (a.send (encode p))) := by
  have hkept : ∀ i, start.received i <+: (a.send (encode p)).received i := by
    intro i
    cases received_send a (encode p) i with
    | inl hsame => exact hsame ▸ h.kept i
    | inr hmore => exact hmore ▸ (h.kept i).trans (List.prefix_append _ _)
  refine ⟨hkept, ?_⟩
  cases h.safe with
  | inl hdelivered => exact Or.inl (hdelivered.send _)
  | inr hquiet =>
    obtain ⟨hreceived, hkeep⟩ := foldl_emit p a (a.attempts a.tick).before
    by_cases hgot : ∃ i, ((a.attempts a.tick).before.foldl Air.emit a).receives
        (a.attempts a.tick).listeners i = true
    · obtain ⟨i, hi⟩ := hgot
      refine Or.inl ⟨i, a.tick, ?_⟩
      have hmore : (a.send (encode p)).received i = a.received i ++ [(a.tick, encode p)] := by
        simp only [Air.send, hi, hreceived, if_true]
      rw [Air.receivedSince, hmore, List.drop_append_of_le_length (h.kept i).length_le]
      exact List.mem_append_right _ List.mem_cons_self
    · refine Or.inr ⟨fun i f hf => ?_, fun f hf => absurd hf (by simp [Air.send])⟩
      have hi : ¬ ((a.attempts a.tick).before.foldl Air.emit a).receives
          (a.attempts a.tick).listeners i = true := fun hi => hgot ⟨i, hi⟩
      simp only [Air.send, Air.broadcast, hi] at hf
      exact (hkeep hquiet).1 i f hf

lemma attempted_air {a' : Air ι} {frame : Option (List UInt8)} (hsafe : AckSafe p start a)
    (h : air.Attempted p a frame a') : AckSafe p start a' ∧
      ∀ f, frame = some f → decodeFrame (air.memory a') f = ackFor p → Delivered p start a' := by
  obtain ⟨s, hs, rfl, rfl⟩ := h
  obtain rfl : a.send (encode p) = s := by simpa [air] using hs
  obtain ⟨hkept, hsent⟩ := hsafe.send
  generalize a.send (encode p) = s at hkept hsent
  obtain ⟨hreceived, hkeep⟩ := foldl_emit p s (s.attempts s.tick).after
  change s.listen.received = s.received at hreceived
  have hend : Delivered p start s.listen ∨ Quiet p s.listen ∧ Unanswered p s.listen := by
    cases hsent with
    | inl hd =>
      obtain ⟨i, tick, hmem⟩ := hd
      exact Or.inl ⟨i, tick, by rwa [Air.receivedSince, hreceived]⟩
    | inr hq => exact Or.inr ⟨(hkeep hq.1).1, (hkeep hq.1).2 hq.2⟩
  have hkept' : ∀ i, start.received i <+: s.listen.received i := by
    rw [hreceived]
    exact hkept
  cases hp : air.received (air.listen s) with
  | none => exact ⟨⟨hkept', hend.imp_right And.left⟩, by simp⟩
  | some f =>
    refine ⟨⟨hkept', hend.imp_right And.left⟩, fun g hg hack => ?_⟩
    obtain rfl : f = g := by simpa using hg
    cases hend with
    | inl hd => exact hd
    | inr hquiet => exact absurd hack (hquiet.2 f hp)

end Emissions

/-- With no reply still in the air, and nobody but the addressee receiving in the attempts that the call
makes, an accepted ack is the addressee's. -/
theorem ack_from_addressee (p : Packet) (timeout : ℤ) (n : Node (Air ι)) (hbuf : n.rxBuffer = zeroBuffer)
    (hquiet : Quiet p n.radio)
    (hreach : ∀ n', sendPacketEnsureAck air.driver p timeout (checkPacketType (ackFor p)) n = .ok (.sxOk, n') →
      ∀ i, n.radio.receivedSince n'.radio i ≠ [] → (n.radio.node i).handler.hostAddr = p.destAddress) :
    AckedByAddressee p timeout n := by
  intro n' hrun
  have hstep : ∀ (left : ℕ) (a : Air ι) frame a', AckSafe p n.radio a → p.payloadLength.toNat ≤ payloadLengthMax →
      air.Attempted p a frame a' → AckSafe p n.radio a' ∧
        ∀ f, frame = some f → decodeFrame (air.memory a') f = ackFor p → Delivered p n.radio a' :=
    fun _ _ _ _ hsafe _ hattempt => attempted_air hsafe hattempt
  have hattempts := hrun
  rw [Medium.sendPacketEnsureAck_eq] at hattempts
  obtain ⟨-, -, hret⟩ := Medium.sendAttempts_invariant (fun _ => AckSafe p n.radio) (Delivered p n.radio) hstep
    ⟨fun i => List.prefix_refl _, Or.inr hquiet⟩ hbuf hattempts
  cases hret with
  | inl hacked =>
    obtain ⟨i, tick, hmem⟩ := hacked.2
    exact ⟨i, tick, hreach n' hrun i (List.ne_nil_of_mem hmem), hmem⟩
  | inr htimeout => exact absurd htimeout (by decide)

end Air

def twoNodes (reached : Bool) : Node (Air Bool) where
  radio :=
    { attempts := fun _ => ⟨[], fun i => i == reached, [⟨reached, fun _ => false, true⟩]⟩
      tick := 0
      node := fun i => ⟨⟨⟨[], []⟩, zeroBuffer⟩, rxHandlerInit (if i then 4 else 3) 9, []⟩
      owed := fun _ => []
      pending := none
      received := fun _ => []
      memory := fun _ => 0 }
  rxBuffer := zeroBuffer

def sendBegin : Prog (Node (Air Bool)) Sx127xErr :=
  sendPacketEnsureAck air.driver (emptyPacket 3 9 1 0) 3000 (checkPacketType (ackFor (emptyPacket 3 9 1 0)))

lemma sendBegin_ok (reached : Bool) : ∃ n', sendBegin (twoNodes reached) = .ok (.sxOk, n') ∧
    n'.radio.received (!reached) = [] := by
  have hrun : ∃ ret n', sendBegin (twoNodes reached) = .ok (ret, n') ∧
      ret = .sxOk ∧ n'.radio.received (!reached) = [] := by
    apply Prog.returns fun (ret : Sx127xErr) (n' : Node (Air Bool)) => ret = .sxOk ∧ n'.radio.received (!reached) = []
    cases reached with
    | false => decide +kernel
    | true => decide +kernel
  obtain ⟨_, n', hsend, rfl, hnone⟩ := hrun
  exact ⟨n', hsend, hnone⟩

theorem ackedByAddressee_not_bystander :
    (∀ i j, ((twoNodes true).radio.node i).handler.hostAddr =
      ((twoNodes true).radio.node j).handler.hostAddr → i = j) ∧
      ¬ AckedByAddressee (emptyPacket 3 9 1 0) 3000 (twoNodes true) := by
  refine ⟨by decide, fun hacked => ?_⟩
  obtain ⟨n', hsend, hnone⟩ := sendBegin_ok true
  obtain ⟨i, tick, hi, hmem⟩ := hacked n' hsend
  cases i with
  | false =>
    rw [Bool.not_true] at hnone
    simp [Air.receivedSince, hnone] at hmem
  | true => exact absurd hi (by decide)

theorem ack_from_addressee_alone : ∃ n', sendBegin (twoNodes false) = .ok (.sxOk, n') ∧
    ∃ tick, (tick, encode (emptyPacket 3 9 1 0)) ∈ n'.radio.received false := by
  have hquiet : Quiet (emptyPacket 3 9 1 0) (twoNodes false).radio :=
    fun i f hf => absurd hf (by simp [twoNodes])
  obtain ⟨n', hsend, hnone⟩ := sendBegin_ok false
  have hacked := ack_from_addressee (emptyPacket 3 9 1 0) 3000 (twoNodes false) rfl hquiet
    (fun m hm i hi => by
      obtain rfl : n' = m := by simpa using hsend.symm.trans hm
      cases i with
      | false => rfl
      | true =>
        rw [Bool.not_false] at hnone
        exact absurd hi (by simp [Air.receivedSince, hnone]))
  obtain ⟨i, tick, hi, hmem⟩ := hacked n' hsend
  cases i with
  | false => exact ⟨n', hsend, tick, hmem⟩
  | true => exact absurd hi (by decide)

end LoraNetworking
