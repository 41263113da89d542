import LoraNetworking.Lib.Heap
import LoraNetworking.Packet

/-! The functions of `packet.c` over a heap: where packets and their payloads lie, what is allocated
for them and what is freed. Every `malloc` that the source leaves unchecked succeeds. -/

namespace LoraNetworking.InMemory

open Heap StateProg

/-- A `packet` as it lies in memory. A null payload is `none`. -/
structure PacketRecord where
  destAddress : UInt16
  srcAddress : UInt16
  ackId : UInt8
  sequenceNumber : UInt8
  payloadLength : UInt8
  payload : Option ℕ
  deriving DecidableEq

inductive Cell
  | uninit
  -- a packet of which only the payload pointer was written
  | fresh (payload : Option ℕ)
  | packet (p : PacketRecord)
  -- a byte that was not written yet is `none`
  | bytes (data : List (Option UInt8))
  deriving DecidableEq

abbrev PacketHeap := Memory Cell

def mallocBytes (A : Allocator Cell) (n : ℕ) : Prog PacketHeap ℕ := malloc A (.bytes (List.replicate n none))

def readRecord (p : ℕ) : Prog PacketHeap PacketRecord := do
  match ← Heap.load p with
  | .packet r => return r
  | _ => Prog.stop .undefined

def readBytes (a n : ℕ) : Prog PacketHeap (List UInt8) := do
  match ← Heap.load a with
  | .bytes data =>
    if n ≤ data.length ∧ (data.take n).all Option.isSome then return (data.take n).filterMap id
    else Prog.stop .undefined
  | _ => Prog.stop .undefined

def writeBytes (a : ℕ) (src : List UInt8) : Prog PacketHeap Unit := do
  match ← Heap.load a with
  | .bytes data =>
    if src.length ≤ data.length then Heap.store a (.bytes (src.map some ++ data.drop src.length))
    else Prog.stop .undefined
  | _ => Prog.stop .undefined

/-- The bytes that `memcpy` takes from a payload pointer. Nothing is taken from a null one. -/
def readPayload (payload : Option ℕ) (n : ℕ) : Prog PacketHeap (List UInt8) :=
  match payload with
  | none => if n = 0 then return [] else Prog.stop .undefined
  | some a => readBytes a n

def readPacket (p : ℕ) : Prog PacketHeap Packet := do
  let r ← readRecord p
  let payload ← readPayload r.payload r.payloadLength.toNat
  if h : payload.length = r.payloadLength.toNat then
    return ⟨r.destAddress, r.srcAddress, r.ackId, r.sequenceNumber, r.payloadLength, payload, h⟩
  else Prog.stop .undefined

def checkPacketType (p : PacketRecord) : PacketTypes :=
  if p.sequenceNumber = 0 ∧ p.payloadLength = 0 then .packetBegin
  else if p.sequenceNumber = 255 ∧ p.payloadLength = 0 then .packetEnd
  else if p.payloadLength = 0 then .packetAck
  else .packetData

def packetDescription (A : Allocator Cell) (p : ℕ) : Prog PacketHeap Unit := do
  let str ← mallocBytes A 9
  let r ← readRecord p
  let payload ← readPayload r.payload r.payloadLength.toNat
  writeBytes str (payload ++ [0])
  free str

def copyPacket (A : Allocator Cell) (p : ℕ) : Prog PacketHeap ℕ := do
  let np ← malloc A .uninit
  let r ← readRecord p
  let npPayloadBuf ← mallocBytes A r.payloadLength.toNat
  Heap.store np (.packet r)
  let payload ← readPayload r.payload r.payloadLength.toNat
  writeBytes npPayloadBuf payload
  Heap.store np (.packet { r with payload := some npPayloadBuf })
  return np

def packetConstructor (A : Allocator Cell) (destAddress srcAddress : UInt16)
    (ackId sequenceNumber payloadLength : UInt8) (payload : Option ℕ) : Prog PacketHeap (Option ℕ) := do
  if payloadLength.toNat > payloadLengthMax then return none
  let p ← malloc A .uninit
  Heap.store p (.packet ⟨destAddress, srcAddress, ackId, sequenceNumber, payloadLength, payload⟩)
  return some p

def ackPacket (A : Allocator Cell) (destAddress srcAddress : UInt16) (ackId sequenceNumber : UInt8) :
    Prog PacketHeap (Option ℕ) :=
  packetConstructor A destAddress srcAddress ackId sequenceNumber 0 none

def parsePayload (A : Allocator Cell) (q : Packet) : Prog PacketHeap (Option ℕ) := do
  if q.payloadLength.toNat > 0 then
    let payload ← mallocBytes A q.payloadLength.toNat
    writeBytes payload q.payload
    return some payload
  else return none

/-- The packet that `p` held before is overwritten, and its payload is not freed. -/
def parsePacket (A : Allocator Cell) (packetDataRaw : ℕ → UInt8) (p : ℕ) : Prog PacketHeap ℤ := do
  let (packetSize, q) := LoraNetworking.parsePacket packetDataRaw
  let payload ← parsePayload A q
  Heap.store p (.packet ⟨q.destAddress, q.srcAddress, q.ackId, q.sequenceNumber, q.payloadLength, payload⟩)
  return packetSize

def payloadPointer (p : ℕ) : Prog PacketHeap (Option ℕ) := do
  match ← Heap.load p with
  | .fresh payload => return payload
  | .packet r => return r.payload
  | _ => Prog.stop .undefined

def freePacket (p : ℕ) : Prog PacketHeap Unit := do
  let payload ← payloadPointer p
  freePointer payload
  free p

def freePackets : List (Option ℕ) → Prog PacketHeap Unit
  | [] => return ()
  | none :: ps => freePackets ps
  | some p :: ps => do
    freePacket p
    freePackets ps

/-! ## Where packets lie -/

structure Place where
  record : ℕ
  payload : Option ℕ
  deriving DecidableEq

def Place.blocks (pl : Place) : List ℕ := pl.record :: pl.payload.toList

def blocksOf (cs : List (Packet × Place)) : List ℕ := cs.flatMap fun c => c.2.blocks

def payloadsOf (cs : List (Packet × Place)) : List ℕ := cs.flatMap fun c => c.2.payload.toList

def payloadBlocks (ps : List Packet) : ℕ := ps.countP fun p => p.payloadLength ≠ 0

def recordOf (p : Packet) (payload : Option ℕ) : PacketRecord :=
  ⟨p.destAddress, p.srcAddress, p.ackId, p.sequenceNumber, p.payloadLength, payload⟩

@[simp] lemma checkPacketType_recordOf (p : Packet) (payload : Option ℕ) :
    checkPacketType (recordOf p payload) = LoraNetworking.checkPacketType p := rfl

structure Lies (m : PacketHeap) (p : Packet) (pl : Place) : Prop where
  record : m.lookup pl.record = some (.packet (recordOf p pl.payload))
  null_iff : pl.payload = none ↔ p.payloadLength = 0
  payload : ∀ a, pl.payload = some a → m.lookup a = some (.bytes (p.payload.map some))

section Specs

variable {A : Allocator Cell} {m m' : PacketHeap} {p : Packet} {pl : Place} {l : List ℕ} {owned : Finset ℕ}
  {a n : ℕ} {src : List UInt8} {data : List (Option UInt8)}

lemma Lies.keeps (h : Lies m p pl) (hk : Keeps pl.blocks m m') : Lies m' p pl := by
  refine ⟨(hk _ List.mem_cons_self).trans h.record, h.null_iff, fun a ha => ?_⟩
  have hmem : a ∈ pl.blocks := List.mem_cons_of_mem _ (by simp [ha])
  exact (hk a hmem).trans (h.payload a ha)

lemma lies_keeps {cs : List (Packet × Place)} (h : ∀ c ∈ cs, Lies m c.1 c.2) (hk : Keeps (blocksOf cs) m m') :
    ∀ c ∈ cs, Lies m' c.1 c.2 :=
  fun c hc => (h c hc).keeps (hk.mono fun _ ha => List.mem_flatMap.mpr ⟨c, hc, ha⟩)

lemma mallocBytes_apply (n : ℕ) : mallocBytes A n m =
    .ok (A.pick m, m.insert (A.pick m) (.bytes (List.replicate n none))) := rfl

lemma readRecord_lies (h : Lies m p pl) : readRecord pl.record m = .ok (recordOf p pl.payload, m) := by
  rw [readRecord, Prog.bind_of_ok (load_of_lookup h.record)]
  rfl

lemma payloadPointer_lies (h : Lies m p pl) : payloadPointer pl.record m = .ok (pl.payload, m) := by
  rw [payloadPointer, Prog.bind_of_ok (load_of_lookup h.record)]
  rfl

lemma payloadPointer_fresh (h : m.lookup a = some (.fresh none)) : payloadPointer a m = .ok (none, m) := by
  rw [payloadPointer, Prog.bind_of_ok (load_of_lookup h)]
  rfl

lemma readBytes_written (h : m.lookup a = some (.bytes (src.map some))) :
    readBytes a src.length m = .ok (src, m) := by
  have htake : (src.map some).take src.length = src.map some := List.take_of_length_le (by simp)
  rw [readBytes, Prog.bind_of_ok (load_of_lookup h)]
  dsimp only
  rw [htake, if_pos (by simp), List.filterMap_map]
  simp

lemma readPayload_lies (h : Lies m p pl) :
    readPayload pl.payload p.payloadLength.toNat m = .ok (p.payload, m) := by
  rw [← p.payload_length_eq]
  cases hp : pl.payload with
  | none =>
    have hnil : p.payload = [] := (payload_eq_nil_iff p).mpr (h.null_iff.mp hp)
    rw [hnil]
    rfl
  | some a => exact readBytes_written (h.payload a hp)

lemma readPacket_lies (h : Lies m p pl) : readPacket pl.record m = .ok (p, m) := by
  rw [readPacket, Prog.bind_of_ok (readRecord_lies h)]
  exact (Prog.bind_of_ok (readPayload_lies h)).trans (dif_pos p.payload_length_eq ▸ rfl)

lemma writeBytes_run (h : m.lookup a = some (.bytes data)) (hlen : src.length ≤ data.length) :
    writeBytes a src m = .ok ((), m.insert a (.bytes (src.map some ++ data.drop src.length))) := by
  rw [writeBytes, Prog.bind_of_ok (load_of_lookup h)]
  dsimp only
  rw [if_pos hlen]
  exact store_of_mem (Finmap.mem_of_lookup_eq_some h) _

lemma Lies.live (h : Lies m p pl) : ∀ a ∈ pl.blocks, a ∈ m := by
  intro a ha
  cases List.mem_cons.mp ha with
  | inl heq =>
    subst heq
    exact Finmap.mem_of_lookup_eq_some h.record
  | inr hmem => exact Finmap.mem_of_lookup_eq_some (h.payload a (by simpa using hmem))

lemma blocksOf_append (cs ds : List (Packet × Place)) : blocksOf (cs ++ ds) = blocksOf cs ++ blocksOf ds :=
  List.flatMap_append

lemma payloadBlocks_cons (p : Packet) (ps : List Packet) :
    payloadBlocks (p :: ps) = payloadBlocks [p] + payloadBlocks ps := by
  rw [payloadBlocks, payloadBlocks, payloadBlocks, ← List.countP_append, List.singleton_append]

lemma Lies.payload_length (h : Lies m p pl) : pl.payload.toList.length = payloadBlocks [p] := by
  have hnull := h.null_iff
  rw [payloadBlocks, List.countP_singleton]
  cases hp : pl.payload with
  | none => simp [hnull.mp hp]
  | some a =>
    have hdata : p.payloadLength ≠ 0 := fun hzero => absurd (hnull.mpr hzero) (by simp [hp])
    simp [hdata]

lemma payloadsOf_length {cs : List (Packet × Place)} (hlies : ∀ c ∈ cs, Lies m c.1 c.2) :
    (payloadsOf cs).length = payloadBlocks (cs.map Prod.fst) := by
  induction cs with
  | nil => rfl
  | cons c cs ih =>
    have hrest := ih fun c hc => hlies c (List.mem_cons_of_mem _ hc)
    rw [payloadsOf] at hrest ⊢
    rw [List.flatMap_cons, List.length_append, (hlies c List.mem_cons_self).payload_length, hrest, List.map_cons,
      payloadBlocks_cons c.1 (cs.map Prod.fst)]

lemma blocksOf_length {cs : List (Packet × Place)} (hlies : ∀ c ∈ cs, Lies m c.1 c.2) :
    (blocksOf cs).length = cs.length + payloadBlocks (cs.map Prod.fst) := by
  rw [← payloadsOf_length hlies]
  clear hlies
  induction cs with
  | nil => rfl
  | cons c cs ih =>
    rw [blocksOf, payloadsOf] at ih ⊢
    rw [List.flatMap_cons, List.flatMap_cons, List.length_append, List.length_append, ih, Place.blocks,
      List.length_cons, List.length_cons]
    omega

lemma packetDescription_lies (h : Lies m p pl) (hmax : p.payloadLength.toNat ≤ payloadLengthMax) :
    packetDescription A pl.record m = .ok ((), m) := by
  have hkept : Lies (m.insert (A.pick m) (.bytes (List.replicate 9 none))) p pl :=
    h.keeps (keeps_malloc A h.live _)
  have hfits : (p.payload ++ [0]).length ≤ (List.replicate 9 (none : Option UInt8)).length := by
    simp only [payloadLengthMax] at hmax
    simp only [List.length_append, List.length_singleton, List.length_replicate, p.payload_length_eq]
    omega
  have hwrite := writeBytes_run (Finmap.lookup_insert m (a := A.pick m)) hfits
  have hfree : free (A.pick m) (m.insert (A.pick m)
      (.bytes ((p.payload ++ [0]).map some ++ (List.replicate 9 none).drop (p.payload ++ [0]).length))) =
      .ok ((), m) := by
    rw [free_of_mem (Finmap.mem_insert.mpr (Or.inl rfl)), malloc_free]
  rw [Finmap.insert_insert] at hwrite
  exact (Prog.bind_of_ok (mallocBytes_apply 9)).trans <| (Prog.bind_of_ok (readRecord_lies hkept)).trans <|
    (Prog.bind_of_ok (readPayload_lies hkept)).trans <| (Prog.bind_of_ok hwrite).trans hfree

lemma packetDescription_long (h : Lies m p pl) (hmax : ¬ p.payloadLength.toNat ≤ payloadLengthMax) :
    packetDescription A pl.record m = .error .undefined := by
  have hkept : Lies (m.insert (A.pick m) (.bytes (List.replicate 9 none))) p pl :=
    h.keeps (keeps_malloc A h.live _)
  have hlong : ¬ (p.payload ++ [0]).length ≤ (List.replicate 9 (none : Option UInt8)).length := by
    simp only [payloadLengthMax] at hmax
    simp only [List.length_append, List.length_singleton, List.length_replicate, p.payload_length_eq]
    omega
  have hwrite : writeBytes (A.pick m) (p.payload ++ [0])
      (m.insert (A.pick m) (.bytes (List.replicate 9 none))) = .error .undefined := by
    rw [writeBytes, Prog.bind_of_ok (load_of_lookup (Finmap.lookup_insert m))]
    dsimp only
    rw [if_neg hlong]
    rfl
  refine (Prog.bind_of_ok (mallocBytes_apply 9)).trans <| (Prog.bind_of_ok (readRecord_lies hkept)).trans <|
    (Prog.bind_of_ok (readPayload_lies hkept)).trans ?_
  rw [Prog.bind_apply, hwrite]

/-- Whoever keeps account of the blocks `l` goes on with the blocks of the new packet on top. -/
structure Placed (p : Packet) (l : List ℕ) (m m' : PacketHeap) (pl : Place) : Prop where
  lies : Lies m' p pl
  keeps : Keeps l m m'
  accounts : ∀ owned, Accounts owned l m → Accounts owned (pl.blocks ++ l) m'

lemma Placed.live (h : Placed p l m m' pl) (hl : ∀ a ∈ l, a ∈ m) : ∀ a ∈ pl.blocks ++ l, a ∈ m' := by
  intro a ha
  cases List.mem_append.mp ha with
  | inl hnew => exact h.lies.live a hnew
  | inr hold => exact h.keeps.live hl a hold

lemma placed_empty (A : Allocator Cell) (hl : ∀ a ∈ l, a ∈ m) (hzero : p.payloadLength = 0) :
    Placed p l m (m.insert (A.pick m) (.packet (recordOf p none))) ⟨A.pick m, none⟩ :=
  ⟨⟨Finmap.lookup_insert m, by simp [hzero], by simp⟩, keeps_malloc A hl _, fun _ h => h.malloc A _⟩

lemma ackPacket_placed (hl : ∀ a ∈ l, a ∈ m) (destAddress srcAddress : UInt16) (ackId sequenceNumber : UInt8) :
    ∃ m', ackPacket A destAddress srcAddress ackId sequenceNumber m = .ok (some (A.pick m), m') ∧
      Placed (emptyPacket destAddress srcAddress ackId sequenceNumber) l m m' ⟨A.pick m, none⟩ := by
  refine ⟨_, ?_, placed_empty A hl rfl⟩
  rw [ackPacket, packetConstructor, if_neg (by decide), Prog.bind_of_ok malloc_apply,
    Prog.bind_of_ok (store_of_mem (Finmap.mem_insert.mpr (Or.inl rfl)) _), Finmap.insert_insert]
  rfl

lemma copyPacket_placed (h : Lies m p pl) (hdata : p.payloadLength ≠ 0) (hl : ∀ a ∈ l, a ∈ m) :
    ∃ pl' m', copyPacket A pl.record m = .ok (pl'.record, m') ∧ Placed p l m m' pl' := by
  set np := A.pick m with hnp
  set m₁ := m.insert np .uninit with hm₁
  set buf := A.pick m₁ with hbuf
  set m₂ := m₁.insert buf (.bytes (List.replicate p.payloadLength.toNat none)) with hm₂
  set m₃ := m₂.insert np (.packet (recordOf p pl.payload)) with hm₃
  set m₄ := m₃.insert buf (.bytes (p.payload.map some)) with hm₄
  set m₅ := m₄.insert np (.packet (recordOf p (some buf))) with hm₅
  have hlive₁ : ∀ {l : List ℕ}, (∀ a ∈ l, a ∈ m) → ∀ a ∈ np :: l, a ∈ m₁ := by
    intro l hl a ha
    rw [hm₁, Finmap.mem_insert]
    exact (List.mem_cons.mp ha).imp_right (hl a)
  have hfar : ∀ {l : List ℕ}, (∀ a ∈ l, a ∈ m) → np ∉ l ∧ buf ∉ l ∧ np ≠ buf := by
    intro l hl
    have hnotMem := pick_notMem_of_live A (hlive₁ hl)
    rw [← hbuf, List.mem_cons, not_or] at hnotMem
    exact ⟨pick_notMem_of_live A hl, hnotMem.2, Ne.symm hnotMem.1⟩
  have hkeeps : ∀ {l : List ℕ}, (∀ a ∈ l, a ∈ m) → Keeps l m m₁ ∧ Keeps l m m₃ ∧ Keeps l m m₅ := by
    intro l hl
    obtain ⟨hnpl, hbufl, -⟩ := hfar hl
    have h₁ : Keeps l m m₁ := keeps_insert hnpl _
    have h₃ : Keeps l m m₃ := (h₁.trans (keeps_insert hbufl _)).trans (keeps_insert hnpl _)
    exact ⟨h₁, h₃, (h₃.trans (keeps_insert hbufl _)).trans (keeps_insert hnpl _)⟩
  obtain ⟨hkeep₁, hkeep₃, -⟩ := hkeeps h.live
  obtain ⟨-, -, hne⟩ := hfar h.live
  have hbuf₃ : m₃.lookup buf = some (.bytes (List.replicate p.payloadLength.toNat none)) := by
    rw [hm₃, Finmap.lookup_insert_of_ne _ hne.symm, hm₂, Finmap.lookup_insert]
  have hwrite : writeBytes buf p.payload m₃ = .ok ((), m₄) := by
    rw [writeBytes_run hbuf₃ (by simp [p.payload_length_eq]), List.drop_of_length_le (by simp [p.payload_length_eq]),
      List.append_nil]
  have hmem₂ : np ∈ m₂ := Finmap.mem_insert.mpr (Or.inr (Finmap.mem_insert.mpr (Or.inl rfl)))
  have hmem₄ : np ∈ m₄ := Finmap.mem_insert.mpr (Or.inr (Finmap.mem_insert.mpr (Or.inl rfl)))
  refine ⟨⟨np, some buf⟩, m₅, ?_, ⟨Finmap.lookup_insert _, by simp [hdata], fun a ha => ?_⟩, (hkeeps hl).2.2,
    fun owned hacc => ?_⟩
  · exact (Prog.bind_of_ok malloc_apply).trans <| (Prog.bind_of_ok (readRecord_lies (h.keeps hkeep₁))).trans <|
      (Prog.bind_of_ok (mallocBytes_apply _)).trans <| (Prog.bind_of_ok (store_of_mem hmem₂ _)).trans <|
      (Prog.bind_of_ok (readPayload_lies (h.keeps hkeep₃))).trans <| (Prog.bind_of_ok hwrite).trans <|
      (Prog.bind_of_ok (store_of_mem hmem₄ _)).trans rfl
  · obtain rfl := Option.some.inj ha
    rw [hm₅, Finmap.lookup_insert_of_ne _ hne.symm, hm₄, Finmap.lookup_insert]
  · have hacc₂ := ((hacc.malloc A .uninit).malloc A (.bytes (List.replicate p.payloadLength.toNat none))).perm
      (List.Perm.swap np buf l)
    exact ((hacc₂.store (by simp) _).store (by simp) _).store (by simp) _

lemma parsePacket_placed (hacc : Accounts owned (a :: l) m) (raw : ℕ → UInt8) :
    ∃ payload m', parsePacket A raw a m = .ok ((LoraNetworking.parsePacket raw).1, m') ∧
      Lies m' (LoraNetworking.parsePacket raw).2 ⟨a, payload⟩ ∧ Keeps l m m' ∧
      Accounts owned (a :: (payload.toList ++ l)) m' := by
  obtain ⟨hnotMem, -⟩ := List.nodup_cons.mp hacc.nodup
  have hlive : a ∈ m := hacc.live a List.mem_cons_self
  set size := (LoraNetworking.parsePacket raw).1
  set q := (LoraNetworking.parsePacket raw).2 with hq
  by_cases hlen : q.payloadLength.toNat > 0
  · have hdata : q.payloadLength ≠ 0 := fun hzero => by simp [hzero] at hlen
    set b := A.pick m with hb
    set m₁ := m.insert b (.bytes (List.replicate q.payloadLength.toNat none)) with hm₁
    set m₂ := m.insert b (.bytes (q.payload.map some)) with hm₂
    have hwrite : writeBytes b q.payload m₁ = .ok ((), m₂) := by
      rw [writeBytes_run (Finmap.lookup_insert m) (by simp [q.payload_length_eq]),
        List.drop_of_length_le (by simp [q.payload_length_eq]), List.append_nil, Finmap.insert_insert]
    have hba : b ≠ a := (pick_ne A hlive).symm
    refine ⟨some b, m₂.insert a (.packet (recordOf q (some b))), ?_, ⟨Finmap.lookup_insert _, by simp [hdata],
      fun c hc => ?_⟩, ?_, ?_⟩
    · have hpayload : parsePayload A q m = .ok (some b, m₂) := by
        rw [parsePayload, if_pos hlen]
        exact (Prog.bind_of_ok (mallocBytes_apply _)).trans <| (Prog.bind_of_ok hwrite).trans rfl
      have hstored : a ∈ m₂ := Finmap.mem_insert.mpr (Or.inr hlive)
      exact (Prog.bind_of_ok hpayload).trans <| (Prog.bind_of_ok (store_of_mem hstored _)).trans rfl
    · obtain rfl := Option.some.inj hc
      rw [Finmap.lookup_insert_of_ne _ hba, hm₂, Finmap.lookup_insert]
    · have hnew : b ∉ l := pick_notMem_of_live A fun c hc => hacc.live c (List.mem_cons_of_mem a hc)
      exact (keeps_insert hnew _).trans (keeps_insert hnotMem _)
    · have hacc₂ := (hacc.malloc A (.bytes (q.payload.map some))).store (a := a) (by simp)
        (.packet (recordOf q (some b)))
      exact hacc₂.perm (List.Perm.swap a b l)
  · have hzero : q.payloadLength = 0 := UInt8.toNat_inj.mp (by simpa using hlen)
    refine ⟨none, m.insert a (.packet (recordOf q none)), ?_, ⟨Finmap.lookup_insert _, by simp [hzero], by simp⟩,
      keeps_insert hnotMem _, hacc.store List.mem_cons_self _⟩
    have hpayload : parsePayload A q m = .ok (none, m) := by
      rw [parsePayload, if_neg hlen]
      rfl
    exact (Prog.bind_of_ok hpayload).trans <| (Prog.bind_of_ok (store_of_mem hlive _)).trans rfl

lemma freePacket_run (h : payloadPointer pl.record m = .ok (pl.payload, m))
    (hacc : Accounts owned (pl.blocks ++ l) m) :
    ∃ m', freePacket pl.record m = .ok ((), m') ∧ Keeps l m m' ∧ Accounts owned l m' := by
  cases hpl : pl.payload with
  | none =>
    rw [Place.blocks, hpl] at hacc
    have hnotMem := (List.nodup_cons.mp hacc.nodup).1
    refine ⟨m.erase pl.record, ?_, keeps_erase hnotMem, hacc.free⟩
    have hnull : freePointer pl.payload m = .ok ((), m) := by
      rw [hpl]
      rfl
    exact (Prog.bind_of_ok h).trans <| (Prog.bind_of_ok hnull).trans <|
      free_of_mem (hacc.live _ List.mem_cons_self)
  | some b =>
    rw [Place.blocks, hpl] at hacc
    have hswapped := hacc.perm (List.Perm.swap b pl.record l)
    have hb := (List.nodup_cons.mp hswapped.nodup).1
    have hfirst := hswapped.free
    have hrecord := (List.nodup_cons.mp hfirst.nodup).1
    refine ⟨(m.erase b).erase pl.record, ?_, (keeps_erase fun hl => hb (List.mem_cons_of_mem _ hl)).trans
      (keeps_erase hrecord), hfirst.free⟩
    have hpayload : freePointer pl.payload m = .ok ((), m.erase b) := by
      rw [hpl]
      exact free_of_mem (hswapped.live b List.mem_cons_self)
    exact (Prog.bind_of_ok h).trans <| (Prog.bind_of_ok hpayload).trans <|
      free_of_mem (hfirst.live _ List.mem_cons_self)

lemma freePackets_run {cs : List (Packet × Place)} (hlies : ∀ c ∈ cs, Lies m c.1 c.2)
    (hacc : Accounts owned (blocksOf cs ++ l) m) :
    ∃ m', freePackets (cs.map fun c => some c.2.record) m = .ok ((), m') ∧ Keeps l m m' ∧ Accounts owned l m' := by
  induction cs generalizing m with
  | nil => exact ⟨m, rfl, .refl l m, hacc⟩
  | cons c cs ih =>
    rw [blocksOf, List.flatMap_cons, List.append_assoc] at hacc
    obtain ⟨m₁, hfirst, hkeeps₁, hacc₁⟩ := freePacket_run (payloadPointer_lies (hlies c List.mem_cons_self)) hacc
    have hlies₁ := lies_keeps (fun c' hc' => hlies c' (List.mem_cons_of_mem c hc')) hkeeps₁.left
    obtain ⟨m₂, hrest, hkeeps₂, hacc₂⟩ := ih hlies₁ hacc₁
    refine ⟨m₂, (Prog.bind_of_ok hfirst).trans hrest, ?_, hacc₂⟩
    exact hkeeps₁.right.trans hkeeps₂

end Specs

end LoraNetworking.InMemory
