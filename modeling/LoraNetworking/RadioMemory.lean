import LoraNetworking.Lib.Lockstep
import LoraNetworking.PacketMemory
import LoraNetworking.Receiver

/-! Packets over the radio, with the heap that they lie in (`sx127x_utils.c`, and `read_last_packet` of
`sx127x_rx_utils.c`). -/

namespace LoraNetworking.InMemory

open Heap StateProg

structure Board (σ : Type) where
  node : Node σ
  memory : PacketHeap

variable {σ α : Type}

def onNode (x : Prog (Node σ) α) : Prog (Board σ) α := x.zoom Board.node fun node b => { b with node := node }

def inMemory (x : Prog PacketHeap α) : Prog (Board σ) α :=
  x.zoom Board.memory fun memory b => { b with memory := memory }

def checkPacketFeatures (p : PacketRecord) (srcAddr destAddr : UInt16) (ackId sequenceNumber : UInt8)
    (packetType : PacketTypes) : Bool :=
  if p.srcAddress ≠ srcAddr then false
  else if p.destAddress ≠ destAddr then false
  else if p.ackId ≠ ackId then false
  else if p.sequenceNumber ≠ sequenceNumber then false
  else if checkPacketType p ≠ packetType then false
  else true

variable (A : Allocator Cell) (d : Driver σ)

def mallocRxPacket : Prog PacketHeap ℕ := do
  let rxP ← malloc A .uninit
  Heap.store rxP (.fresh none)
  return rxP

def readLastPacket (p : ℕ) : Prog (Board σ) Sx127xErr := do
  let payload ← onNode (onRadio d.readLastPayload)
  onNode (Prog.update fun n => { n with rxBuffer := n.rxBuffer.overwrite payload.stored })
  let n ← onNode Prog.read
  let packetSize ← inMemory (parsePacket A (rxMemory n.rxBuffer (d.behindRxBuffer n.radio)) p)
  let ret : Sx127xErr := if packetSize = -1 then .sxInvalidState else .sxOk
  onNode (Prog.update fun n => { n with rxBuffer := zeroBuffer })
  let _ ← onNode (onRadio d.clearIrq)
  return ret

def sx1278SendPacket (p : ℕ) (switchToRxAfterTx : Bool) : Prog (Board σ) Sx127xErr := do
  let pDesc ← inMemory (mallocBytes A 255)
  inMemory (packetDescription A p)
  inMemory (free pDesc)
  let pkt ← inMemory (readPacket p)
  let (packetSize, txBuffer) := packetToBytestream (List.replicate 255 0) 255 pkt
  if packetSize = -1 then return .sxInvalidState
  onNode (onRadio (d.sendPayload txBuffer (UInt8.ofNat packetSize.toNat) switchToRxAfterTx))

def pollAndReadBody (rxP : ℕ) (timeout : ℕ) : Prog (Board σ) Sx127xErr := do
  let ret ← onNode (onRadio (d.switchMode (modeLora ||| modeRxSingle)))
  if ret ≠ .sxOk then return ret
  let ret ← onNode (onRadio (d.pollForIrqFlag timeout 1 ((1 : UInt8) <<< 6) false))
  if ret ≠ .sxOk then return ret
  let ret ← onNode (onRadio (d.switchMode (modeLora ||| modeStdby)))
  if ret ≠ .sxOk then return ret
  let ret ← readLastPacket A d rxP
  if ret ≠ .sxOk then return ret
  return .sxOk

def sx1278PollAndReadPacket (rxP : ℕ) (timeout : ℕ) : Prog (Board σ) Sx127xErr := do
  let ret ← pollAndReadBody A d rxP timeout
  let _ ← onNode (onRadio d.clearIrq)
  let _ ← onNode (onRadio (d.switchMode (modeLora ||| modeStdby)))
  return ret

def sendAttempts (p : ℕ) (ackType : PacketTypes) (rxP : ℕ) : ℕ → Prog (Board σ) Sx127xErr
  | 0 => return .sxTimeout
  | n + 1 => do
    let ret ← sx1278SendPacket A d p true
    if ret ≠ .sxOk then return ret
    let ret ← sx1278PollAndReadPacket A d rxP phyTimeoutMsec
    if ret ≠ .sxOk then sendAttempts p ackType rxP n
    else do
      let q ← inMemory (readRecord rxP)
      let r ← inMemory (readRecord p)
      if checkPacketFeatures q r.destAddress r.srcAddress r.ackId r.sequenceNumber ackType = false then do
        inMemory (packetDescription A rxP)
        sendAttempts p ackType rxP n
      else return .sxOk

def sendPacketEnsureAck (p : ℕ) (timeout : ℤ) (ackType : PacketTypes) : Prog (Board σ) Sx127xErr := do
  let rxP ← inMemory (mallocRxPacket A)
  let pDesc ← inMemory (mallocBytes A 2048)
  let ret ← sendAttempts A d p ackType rxP (timeoutN timeout).toNat
  let _ ← onNode (onRadio d.clearIrq)
  inMemory (freePacket rxP)
  inMemory (free pDesc)
  let _ ← onNode (onRadio (d.switchMode (modeLora ||| modeSleep)))
  return ret

def sendBurstFrom (len : ℕ) : ℕ → List (Option ℕ) → Prog (Board σ) Sx127xErr
  | _, [] => return .sxOk
  | _, none :: _ => Prog.stop .undefined
  | i, some currPacket :: rest => do
    let ret ← sendPacketEnsureAck A d currPacket (4 * phyTimeoutMsec) (burstAckType len i)
    if ret ≠ .sxOk then return ret
    inMemory (free currPacket)
    sendBurstFrom len (i + 1) rest

def sendBurst (pBuf : List (Option ℕ)) : Prog (Board σ) Sx127xErr := sendBurstFrom A d pBuf.length 0 pBuf

/-! ## The radio over values -/

section Refinement

variable {A d} {owned : Finset ℕ} {l : List ℕ} {p q : Packet} {pl : Place} {b : Board σ} {a : α} {m : PacketHeap}

lemma inMemory_run {x : Prog PacketHeap α} (hx : x b.memory = .ok (a, m)) :
    inMemory x b = .ok (a, { b with memory := m }) := by
  simp [inMemory, Prog.zoom, hx]

lemma inMemory_stop {x : Prog PacketHeap α} {e : Stop} (hx : x b.memory = .error e) :
    inMemory x b = .error e := by
  simp [inMemory, Prog.zoom, hx]

lemma onNode_lockstep (x : Prog (Node σ) α) (b : Board σ) :
    Lockstep (fun a b' a' n => a = a' ∧ b' = { b with node := n }) (onNode x b) (x b.node) := by
  refine (Lockstep.zoomed (.refl _)).mono ?_
  rintro a b' a' n ⟨_, ⟨ha, rfl⟩, hb⟩
  exact ⟨ha, hb⟩

lemma sx1278SendPacket_lockstep (h : Lies b.memory p pl) (switchToRxAfterTx : Bool) :
    Lockstep (fun ret b' ret' n => ret = ret' ∧ b' = { b with node := n })
      (sx1278SendPacket A d pl.record switchToRxAfterTx b)
      (LoraNetworking.sx1278SendPacket d p switchToRxAfterTx b.node) := by
  have hkept : Lies (b.memory.insert (A.pick b.memory) (.bytes (List.replicate 255 none))) p pl :=
    h.keeps (keeps_malloc A h.live _)
  refine .left (inMemory_run (mallocBytes_apply 255)) ?_
  by_cases hmax : p.payloadLength.toNat ≤ payloadLengthMax
  · have hfree : free (A.pick b.memory) (b.memory.insert (A.pick b.memory)
        (.bytes (List.replicate 255 none))) = .ok ((), b.memory) := by
      rw [free_of_mem (Finmap.mem_insert.mpr (Or.inl rfl)), malloc_free]
    refine .left (inMemory_run (packetDescription_lies hkept hmax)) ?_
    refine .left (inMemory_run hfree) (.left (inMemory_run (readPacket_lies h)) ?_)
    rw [LoraNetworking.sx1278SendPacket, packetDescription_ok p hmax]
    refine .right (Prog.ofExcept_ok _ _) ?_
    exact .ite (fun _ => .done ⟨rfl, rfl⟩) fun _ => onNode_lockstep _ _
  · rw [LoraNetworking.sx1278SendPacket, LoraNetworking.packetDescription_long p hmax, Prog.bind_apply,
      inMemory_stop (packetDescription_long hkept hmax)]
    exact .stopped _

/-- The packet at `rx_p` as `malloc` and the assignment of its payload leave it, or a packet that was
parsed. -/
inductive Received (m : PacketHeap) : Packet → Place → Prop
  | fresh {rxP : ℕ} (h : m.lookup rxP = some (.fresh none)) : Received m mallocPacket ⟨rxP, none⟩
  | parsed {q : Packet} {pl : Place} (h : Lies m q pl) : Received m q pl

/-- What a call has read into the packet at `rxP` by its `k`-th parse, and the payloads it lost of the
packets that lay there before. -/
structure Buffered (owned : Finset ℕ) (l : List ℕ) (rxP k : ℕ) (q : Packet) (m m' : PacketHeap)
    (payload : Option ℕ) (lost : List ℕ) : Prop where
  received : Received m' q ⟨rxP, payload⟩
  keeps : Keeps l m m'
  accounts : Accounts owned (rxP :: (payload.toList ++ (lost ++ l))) m'
  lost_le : lost.length ≤ k - 1
  held_le : lost.length + payload.toList.length ≤ k

section Reading

variable {rxP k n : ℕ} {m : PacketHeap} {payload : Option ℕ} {lost : List ℕ}

lemma parsePacket_result (mem : ℕ → UInt8) :
    (if (LoraNetworking.parsePacket mem).1 = -1 then Sx127xErr.sxInvalidState else .sxOk) = .sxOk := by
  rw [parsePacket_size]
  exact if_neg (by omega)

lemma readLastPacket_lockstep (hacc : Accounts owned (rxP :: l) b.memory) :
    Lockstep (fun ret b' out n => ret = .sxOk ∧ out.1 = .sxOk ∧ b'.node = n ∧ ∃ payload,
        Lies b'.memory out.2 ⟨rxP, payload⟩ ∧ Keeps l b.memory b'.memory ∧
        Accounts owned (rxP :: (payload.toList ++ l)) b'.memory)
      (readLastPacket A d rxP b) (LoraNetworking.readLastPacket d b.node) := by
  rw [readLastPacket, LoraNetworking.readLastPacket]
  refine .bind (onNode_lockstep _ _) ?_
  rintro payload _ _ n ⟨rfl, rfl⟩
  refine .bind (onNode_lockstep _ _) ?_
  rintro _ _ _ n ⟨-, rfl⟩
  refine .bind (onNode_lockstep _ _) ?_
  rintro n' _ _ n ⟨rfl, rfl⟩
  set mem := rxMemory n'.rxBuffer (d.behindRxBuffer n'.radio)
  obtain ⟨payload', m', hrun, hlies, hkeeps, hacc'⟩ := parsePacket_placed (A := A) hacc mem
  refine .left (inMemory_run hrun) (.bind (onNode_lockstep _ _) ?_)
  rintro _ _ _ n ⟨-, rfl⟩
  refine .bind (onNode_lockstep _ _) ?_
  rintro _ _ _ n ⟨-, rfl⟩
  exact .done ⟨parsePacket_result mem, parsePacket_result mem, rfl, payload', hlies, hkeeps, hacc'⟩

lemma Received.keeps {m' : PacketHeap} (h : Received m q pl) (hk : Keeps pl.blocks m m') : Received m' q pl := by
  cases h with
  | fresh h => exact .fresh ((hk _ List.mem_cons_self).trans h)
  | parsed h => exact .parsed (h.keeps hk)

lemma Received.payload_length (h : Received m q pl) : pl.payload.toList.length = payloadBlocks [q] := by
  cases h with
  | fresh h => rfl
  | parsed h => exact h.payload_length

lemma Received.payloadPointer (h : Received m q pl) : payloadPointer pl.record m = .ok (pl.payload, m) := by
  cases h with
  | fresh h => exact payloadPointer_fresh h
  | parsed h => exact payloadPointer_lies h

lemma mallocRxPacket_run (A : Allocator Cell) (hl : ∀ a ∈ l, a ∈ m) :
    ∃ m', mallocRxPacket A m = .ok (A.pick m, m') ∧ Received m' mallocPacket ⟨A.pick m, none⟩ ∧ Keeps l m m' ∧
      ∀ owned, Accounts owned l m → Accounts owned (A.pick m :: l) m' := by
  refine ⟨m.insert (A.pick m) (.fresh none), ?_, .fresh (Finmap.lookup_insert m), keeps_malloc A hl _,
    fun _ hacc => hacc.malloc A _⟩
  rw [mallocRxPacket, Prog.bind_of_ok malloc_apply,
    Prog.bind_of_ok (store_of_mem (Finmap.mem_insert.mpr (Or.inl rfl)) _), Finmap.insert_insert]
  rfl

lemma Buffered.mono {m₀ : PacketHeap} {k' : ℕ} (h : Buffered owned l rxP k q m₀ m payload lost) (hk : k ≤ k') :
    Buffered owned l rxP k' q m₀ m payload lost :=
  ⟨h.received, h.keeps, h.accounts, h.lost_le.trans (Nat.sub_le_sub_right hk 1), h.held_le.trans hk⟩

lemma pollAndReadBody_lockstep {m₀ : PacketHeap} (hb : Buffered owned l rxP k q m₀ b.memory payload lost)
    (timeout : ℕ) :
    Lockstep (fun ret b' out n => ret = out.1 ∧ b'.node = n ∧ ∃ payload lost,
        Buffered owned l rxP (k + 1) out.2 m₀ b'.memory payload lost ∧
        (ret = .sxOk → Lies b'.memory out.2 ⟨rxP, payload⟩))
      (pollAndReadBody A d rxP timeout b) (LoraNetworking.pollAndReadBody d q timeout b.node) := by
  rw [pollAndReadBody, LoraNetworking.pollAndReadBody]
  refine .bind (onNode_lockstep _ _) ?_
  rintro ret _ _ n ⟨rfl, rfl⟩
  refine .ite (fun hret => .done ⟨rfl, rfl, payload, lost, hb.mono (Nat.le_succ k), fun h => absurd h hret⟩) fun _ => ?_
  refine .bind (onNode_lockstep _ _) ?_
  rintro ret _ _ n ⟨rfl, rfl⟩
  refine .ite (fun hret => .done ⟨rfl, rfl, payload, lost, hb.mono (Nat.le_succ k), fun h => absurd h hret⟩) fun _ => ?_
  refine .bind (onNode_lockstep _ _) ?_
  rintro ret _ _ n ⟨rfl, rfl⟩
  refine .ite (fun hret => .done ⟨rfl, rfl, payload, lost, hb.mono (Nat.le_succ k), fun h => absurd h hret⟩) fun _ => ?_
  refine .bind (readLastPacket_lockstep hb.accounts) ?_
  rintro _ b' ⟨_, q'⟩ n ⟨rfl, rfl, rfl, payload', hlies, hkeeps, hacc⟩
  have hread : Buffered owned l rxP (k + 1) q' m₀ b'.memory payload' (payload.toList ++ lost) := by
    refine ⟨.parsed hlies, hb.keeps.trans (hkeeps.mono fun a ha => by simp [ha]), ?_, ?_, ?_⟩
    · rwa [List.append_assoc]
    · have hheld := hb.held_le
      simp only [List.length_append]
      omega
    · have hheld := hb.held_le
      have hone : payload'.toList.length ≤ 1 := by cases payload' <;> simp
      simp only [List.length_append]
      omega
  exact .done ⟨rfl, rfl, payload', _, hread, fun _ => hlies⟩

lemma sx1278PollAndReadPacket_lockstep {m₀ : PacketHeap}
    (hb : Buffered owned l rxP k q m₀ b.memory payload lost) (timeout : ℕ) :
    Lockstep (fun ret b' out n => ret = out.1 ∧ b'.node = n ∧ ∃ payload lost,
        Buffered owned l rxP (k + 1) out.2 m₀ b'.memory payload lost ∧
        (ret = .sxOk → Lies b'.memory out.2 ⟨rxP, payload⟩))
      (sx1278PollAndReadPacket A d rxP timeout b) (LoraNetworking.sx1278PollAndReadPacket d q timeout b.node) := by
  refine .bind (pollAndReadBody_lockstep hb timeout) ?_
  rintro ret b' ⟨_, q'⟩ n ⟨rfl, rfl, hread⟩
  refine .bind (onNode_lockstep _ _) ?_
  rintro _ _ _ n ⟨-, rfl⟩
  refine .bind (onNode_lockstep _ _) ?_
  rintro _ _ _ n ⟨-, rfl⟩
  exact .done ⟨rfl, rfl, hread⟩

lemma sendAttempts_lockstep {m₀ : PacketHeap} (hp : Lies m₀ p pl) (hpl : ∀ a ∈ pl.blocks, a ∈ l)
    (ackType : PacketTypes) (n : ℕ) (hb : Buffered owned l rxP k q m₀ b.memory payload lost) :
    Lockstep (fun ret b' ret' n' => ret = ret' ∧ b'.node = n' ∧ ∃ q payload lost,
        Buffered owned l rxP (k + n) q m₀ b'.memory payload lost)
      (sendAttempts A d pl.record ackType rxP n b) (LoraNetworking.sendAttempts d p ackType n q b.node) := by
  induction n generalizing k q b payload lost with
  | zero => exact .done ⟨rfl, rfl, q, payload, lost, hb⟩
  | succ n ih =>
    rw [sendAttempts, LoraNetworking.sendAttempts, Nat.add_comm n 1, ← Nat.add_assoc]
    have hmore : k ≤ k + 1 + n := by omega
    refine .bind (sx1278SendPacket_lockstep (hp.keeps (hb.keeps.mono hpl)) true) ?_
    rintro ret _ _ n' ⟨rfl, rfl⟩
    refine .ite (fun _ => .done ⟨rfl, rfl, q, payload, lost, hb.mono hmore⟩) fun _ => ?_
    refine .bind (sx1278PollAndReadPacket_lockstep (b := ⟨n', b.memory⟩) hb phyTimeoutMsec) ?_
    rintro ret b' ⟨_, q'⟩ n' ⟨rfl, rfl, payload', lost', hb', hparsed⟩
    refine .ite (fun _ => ih hb') fun hret => ?_
    have hlies : Lies b'.memory q' ⟨rxP, payload'⟩ := hparsed (not_not.mp hret)
    have hp' : Lies b'.memory p pl := hp.keeps (hb'.keeps.mono hpl)
    refine .left (inMemory_run (readRecord_lies hlies)) (.left (inMemory_run (readRecord_lies hp')) ?_)
    refine .ite (fun _ => ?_) fun _ => .done ⟨rfl, rfl, q', payload', lost', hb'.mono (Nat.le_add_right _ n)⟩
    by_cases hmax : q'.payloadLength.toNat ≤ payloadLengthMax
    · rw [LoraNetworking.packetDescription_ok q' hmax]
      exact .left (inMemory_run (packetDescription_lies hlies hmax)) (.right (Prog.ofExcept_ok _ _) (ih hb'))
    · rw [LoraNetworking.packetDescription_long q' hmax, Prog.bind_apply, Prog.bind_apply,
        inMemory_stop (packetDescription_long hlies hmax)]
      exact .stopped _

/-- Besides the blocks of `l` the call leaves the payloads of all packets that it read but the last one. -/
lemma sendPacketEnsureAck_lockstep (hp : Lies b.memory p pl) (hpl : ∀ a ∈ pl.blocks, a ∈ l)
    (hacc : Accounts owned l b.memory) (timeout : ℤ) (ackType : PacketTypes) :
    Lockstep (fun ret b' ret' n => ret = ret' ∧ b'.node = n ∧ ∃ lost : List ℕ, Keeps l b.memory b'.memory ∧
        Accounts owned (lost ++ l) b'.memory ∧ lost.length ≤ (timeoutN timeout).toNat - 1)
      (sendPacketEnsureAck A d pl.record timeout ackType b)
      (LoraNetworking.sendPacketEnsureAck d p timeout ackType b.node) := by
  rw [sendPacketEnsureAck, LoraNetworking.sendPacketEnsureAck]
  obtain ⟨m₁, hrun₁, hfresh, hkeeps₁, haccounts₁⟩ := mallocRxPacket_run A hacc.live
  set rxP := A.pick b.memory
  have hacc₁ : Accounts owned (rxP :: l) m₁ := haccounts₁ owned hacc
  set pDesc := A.pick m₁
  set m₂ := m₁.insert pDesc (.bytes (List.replicate 2048 none)) with hm₂
  have hkeeps₂ : Keeps (rxP :: l) m₁ m₂ := keeps_malloc A hacc₁.live _
  have hlive₂ : ∀ a ∈ l, a ∈ m₂ := fun a ha => Finmap.mem_insert.mpr (Or.inr (hacc₁.live a (by simp [ha])))
  have hb : Buffered owned (pDesc :: l) rxP 0 mallocPacket m₂ m₂ none [] := by
    refine ⟨hfresh.keeps (hkeeps₂.mono (by simp [Place.blocks])), .refl _ _, ?_, le_rfl, le_rfl⟩
    exact (hacc₁.malloc A _).perm (List.Perm.swap _ _ _)
  have hp₂ : Lies m₂ p pl := by
    refine hp.keeps ((hkeeps₁.mono hpl).trans (hkeeps₂.mono fun a ha => ?_))
    exact List.mem_cons_of_mem _ (hpl a ha)
  refine .left (inMemory_run hrun₁) (.left (inMemory_run (mallocBytes_apply 2048)) ?_)
  refine .bind (sendAttempts_lockstep hp₂ (fun a ha => List.mem_cons_of_mem _ (hpl a ha)) ackType _ hb) ?_
  rintro ret b₃ _ n ⟨rfl, rfl, q, payload, lost, hb₃⟩
  refine .bind (onNode_lockstep _ _) ?_
  rintro _ _ _ n ⟨-, rfl⟩
  obtain ⟨m₄, hrun₄, hkeeps₄, hacc₄⟩ := freePacket_run hb₃.received.payloadPointer (l := pDesc :: (lost ++ l))
    (hb₃.accounts.perm (by simp only [Place.blocks]; grind))
  refine .left (inMemory_run hrun₄) (.left (inMemory_run (free_of_mem (hacc₄.live pDesc List.mem_cons_self))) ?_)
  refine .bind (onNode_lockstep _ _) ?_
  rintro _ _ _ n ⟨-, rfl⟩
  have hnotMem := (List.nodup_cons.mp hacc₄.nodup).1
  refine .done ⟨rfl, rfl, lost, ?_, hacc₄.free, by simpa using hb₃.lost_le⟩
  have h₂ : Keeps l b.memory m₂ := hkeeps₁.trans hkeeps₂.tail
  have h₃ : Keeps l b.memory b₃.memory := h₂.trans hb₃.keeps.tail
  have h₄ : Keeps l b.memory m₄ := h₃.trans (hkeeps₄.mono fun a ha => by simp [ha])
  exact h₄.trans (keeps_erase fun ha => hnotMem (List.mem_append_right _ ha))

/-- A run of `send_burst`: `send_packet_ensure_ack` has returned SX_OK for the packets `sent`, and `ret`
for the one after them if there is one. -/
inductive Acknowledged (d : Driver σ) (len : ℕ) :
    ℕ → List Packet → Node σ → List Packet → Sx127xErr → Node σ → Prop
  | all {i n} : Acknowledged d len i [] n [] .sxOk n
  | failed {i p ps n ret n'} : LoraNetworking.sendPacketEnsureAck d p (4 * phyTimeoutMsec)
      (burstAckType len i) n = .ok (ret, n') → ret ≠ .sxOk → Acknowledged d len i (p :: ps) n [] ret n'
  | next {i p ps n n₁ sent ret n'} : LoraNetworking.sendPacketEnsureAck d p (4 * phyTimeoutMsec)
      (burstAckType len i) n = .ok (.sxOk, n₁) → Acknowledged d len (i + 1) ps n₁ sent ret n' →
      Acknowledged d len i (p :: ps) n (p :: sent) ret n'

/-- What `send_burst` leaves: the structs of the packets `sent` are freed and their payloads are not, the
packets of `rest` lie where they lay, and at most three received payloads are lost for each packet tried. -/
structure BurstLeaves (owned : Finset ℕ) (l : List ℕ) (cs sent rest : List (Packet × Place)) (lost : List ℕ)
    (m m' : PacketHeap) : Prop where
  split : cs = sent ++ rest
  lies : ∀ c ∈ rest, Lies m' c.1 c.2
  keeps : Keeps l m m'
  accounts : Accounts owned (lost ++ payloadsOf sent ++ (blocksOf rest ++ l)) m'
  lost_le : lost.length ≤ 3 * (sent.length + (rest.take 1).length)

lemma sendBurstFrom_lockstep (len i : ℕ) (cs : List (Packet × Place)) (hlies : ∀ c ∈ cs, Lies b.memory c.1 c.2)
    (hacc : Accounts owned (blocksOf cs ++ l) b.memory) :
    Lockstep (fun ret b' ret' n => ret = ret' ∧ b'.node = n ∧ ∃ sent rest lost, (ret = .sxOk ↔ rest = []) ∧
        Acknowledged d len i (cs.map Prod.fst) b.node (sent.map Prod.fst) ret n ∧
        BurstLeaves owned l cs sent rest lost b.memory b'.memory)
      (sendBurstFrom A d len i (cs.map fun c => some c.2.record) b)
      (LoraNetworking.sendBurstFrom d len i (cs.map fun c => some c.1) b.node) := by
  induction cs generalizing i l b with
  | nil =>
    refine .done ⟨rfl, rfl, [], [], [], by simp, .all, ⟨rfl, by simp, .refl _ _, hacc, le_rfl⟩⟩
  | cons c cs ih =>
    have hblocks : blocksOf (c :: cs) = c.2.blocks ++ blocksOf cs := List.flatMap_cons
    rw [hblocks] at hacc
    refine .bind (sendPacketEnsureAck_lockstep (hlies c List.mem_cons_self)
      (fun a ha => List.mem_append_left _ (List.mem_append_left _ ha)) hacc (4 * phyTimeoutMsec)
      (burstAckType len i)).ran ?_
    rintro ret b₁ _ n ⟨⟨rfl, rfl, lost₁, hkeeps₁, hacc₁, hlost₁⟩, hran⟩
    have hbudget : lost₁.length ≤ 3 := by rwa [timeoutN_burst] at hlost₁
    refine .ite (fun hret => ?_) fun hret => ?_
    · refine .done ⟨rfl, rfl, [], c :: cs, lost₁, by simp [hret], .failed hran hret,
        ⟨rfl, lies_keeps hlies ?_, hkeeps₁.right, ?_, ?_⟩⟩
      · rw [hblocks]
        exact hkeeps₁.left
      · rwa [hblocks, payloadsOf, List.flatMap_nil, List.append_nil]
      · exact hbudget
    · obtain rfl := not_not.mp hret
      have hacc₂ : Accounts owned (blocksOf cs ++ (c.2.payload.toList ++ (lost₁ ++ l)))
          (b₁.memory.erase c.2.record) := by
        refine Accounts.free (hacc₁.perm ?_)
        simp only [Place.blocks]
        grind
      have hrecord : c.2.record ∉ blocksOf cs ++ l := by
        have hnodup : c.2.record ∉ c.2.payload.toList ++ blocksOf cs ++ l := (List.nodup_cons.mp hacc.nodup).1
        simp only [List.mem_append, not_or] at hnodup ⊢
        exact ⟨hnodup.1.2, hnodup.2⟩
      have hkeeps₂ : Keeps (blocksOf cs ++ l) b.memory (b₁.memory.erase c.2.record) := by
        refine (hkeeps₁.mono fun a ha => ?_).trans (keeps_erase hrecord)
        simp only [List.mem_append] at ha ⊢
        exact ha.imp_left Or.inr
      refine .left (inMemory_run (free_of_mem (hacc₁.live _ (by simp [Place.blocks])))) ?_
      have hlies₂ := lies_keeps (fun c' hc' => hlies c' (List.mem_cons_of_mem c hc')) hkeeps₂.left
      refine (ih (b := ⟨b₁.node, b₁.memory.erase c.2.record⟩) (i + 1) hlies₂ hacc₂).mono ?_
      rintro ret b₃ _ n ⟨rfl, rfl, sent, rest, lost, hrest, hsent, hleaves⟩
      refine ⟨rfl, rfl, c :: sent, rest, lost ++ lost₁, hrest, .next hran hsent,
        ⟨by rw [hleaves.split]; rfl, hleaves.lies, hkeeps₂.right.trans hleaves.keeps.right.right,
          hleaves.accounts.perm ?_, ?_⟩⟩
      · simp only [payloadsOf, List.flatMap_cons]
        grind
      · have hlost := hleaves.lost_le
        simp only [List.length_append, List.length_cons]
        omega

/-- `send_burst` on the heap returns what it returns on values and never uses a block that it does not
hold. It frees the structs of the packets that were acknowledged, and no others. -/
theorem send_burst_on_heap (cs : List (Packet × Place)) (hlies : ∀ c ∈ cs, Lies b.memory c.1 c.2)
    (hacc : Accounts owned (blocksOf cs ++ l) b.memory) :
    Lockstep (fun ret b' ret' n => ret = ret' ∧ b'.node = n ∧ ∃ sent rest lost, (ret = .sxOk ↔ rest = []) ∧
        Acknowledged d cs.length 0 (cs.map Prod.fst) b.node (sent.map Prod.fst) ret n ∧
        BurstLeaves owned l cs sent rest lost b.memory b'.memory)
      (sendBurst A d (cs.map fun c => some c.2.record) b)
      (LoraNetworking.sendBurst d (cs.map fun c => some c.1) b.node) := by
  rw [sendBurst, LoraNetworking.sendBurst, List.length_map, List.length_map]
  exact sendBurstFrom_lockstep cs.length 0 cs hlies hacc

theorem send_burst_on_heap_begin :
    let p := emptyPacket 2 1 1 0
    let b : Board Mailbox := ⟨⟨⟨[encode (ackFor p)], []⟩, zeroBuffer⟩,
      (∅ : PacketHeap).insert 1 (.packet (recordOf p none))⟩
    ∃ b' lost, sendBurst (.above Cell) mailbox.driver [some 1] b = .ok (.sxOk, b') ∧
      Accounts ∅ lost b'.memory ∧ lost.length ≤ 3 := by
  intro p b
  obtain ⟨ret, b', hrun, hret⟩ := Prog.returns (x := sendBurst (.above Cell) mailbox.driver [some 1]) (s := b)
    (fun ret _ => ret = .sxOk) (by decide +kernel)
  obtain rfl : ret = .sxOk := hret
  have hplaced : Placed p [] ∅ b.memory ⟨1, none⟩ := placed_empty (.above Cell) (by simp) rfl
  have hlies : ∀ c ∈ [(p, (⟨1, none⟩ : Place))], Lies b.memory c.1 c.2 := by simpa using hplaced.lies
  have hlock := send_burst_on_heap (A := .above Cell) (d := mailbox.driver) (l := []) [(p, ⟨1, none⟩)] hlies
    (hplaced.accounts ∅ accounts_empty)
  obtain ⟨-, n, -, -, -, sent, rest, lost, hall, -, hleaves⟩ := hlock.of_ok hrun
  obtain rfl := hall.mp rfl
  obtain rfl : [(p, ⟨1, none⟩)] = sent := by simpa using hleaves.split
  have hacc := hleaves.accounts
  have hlost := hleaves.lost_le
  simp only [payloadsOf, blocksOf, List.flatMap_cons, List.flatMap_nil, Option.toList_none, List.append_nil] at hacc
  exact ⟨b', lost, hrun, hacc, by simpa using hlost⟩

end Reading

end Refinement

end LoraNetworking.InMemory
