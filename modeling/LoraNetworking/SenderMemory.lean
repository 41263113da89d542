import LoraNetworking.BurstExample
import LoraNetworking.RadioMemory
import LoraNetworking.Reassembly

/-! Fragmentation (`network_data_operations.c`) and the sender of the burst example over the heap. -/

namespace LoraNetworking.InMemory

open Heap StateProg

section Fragmentation

variable (A : Allocator Cell)

def fragmentAt (data : ℕ → UInt8) (destAddr srcAddr : UInt16) (ackId : UInt8) (seqOffset i bytesLeft : ℕ) :
    Prog PacketHeap (Option ℕ) := do
  let pDataBuf ← mallocBytes A (payloadSize bytesLeft)
  writeBytes pDataBuf (memcpy (offset data (i * payloadLengthMax)) (payloadSize bytesLeft))
  packetConstructor A destAddr srcAddr ackId (UInt8.ofNat (seqOffset + i)) (UInt8.ofNat (payloadSize bytesLeft))
    (some pDataBuf)

def fragments (data : ℕ → UInt8) (destAddr srcAddr : UInt16) (ackId : UInt8) (seqOffset : ℕ) :
    ℕ → ℕ → ℕ → Prog PacketHeap (List (Option ℕ))
  | 0, _, _ => return []
  | count + 1, i, bytesLeft => do
    let p ← fragmentAt A data destAddr srcAddr ackId seqOffset i bytesLeft
    let rest ← fragments data destAddr srcAddr ackId seqOffset count (i + 1) (bytesLeft - payloadSize bytesLeft)
    return p :: rest

/-- The array `buf` is a block, and the pointers in it are passed along as a list. A `realloc` that
succeeds moves the block; one that fails leaves it where it is, and the pointer to it is gone. -/
def dataToPacketArray (mallocOk reallocOk : Bool) (data : List UInt8) (destAddr srcAddr : UInt16)
    (ackId : UInt8) (includeHandshakes : Bool) : Prog PacketHeap (ℤ × List (Option ℕ)) :=
  if mallocOk = false then return (-1, [])
  else do
    let buf ← malloc A .uninit
    let seqOffset := if includeHandshakes then 1 else 0
    let ps ← fragments A (fun k => data.getD k 0) destAddr srcAddr ackId seqOffset (npackets data.length) 0
      data.length
    if includeHandshakes then
      if reallocOk = false then return (-1, [])
      else do
        let moved ← malloc A .uninit
        free buf
        let first ← ackPacket A destAddr srcAddr ackId 0
        let last ← ackPacket A destAddr srcAddr ackId 255
        free moved
        return (0, first :: ps ++ [last])
    else do
      free buf
      return (0, ps)

end Fragmentation

section Sender

open BurstExample

variable {σ : Type} (A : Allocator Cell) (d : Driver σ)

def senderTask (pBufOk mallocOk reallocOk : Bool) (burstData : List UInt8) : Prog (Board σ) SenderReport := do
  if pBufOk = false then return .outOfMemory
  let block ← inMemory (malloc A .uninit)
  let (ret, pBuf) ← inMemory (dataToPacketArray A mallocOk reallocOk burstData receiverAddr senderAddr
    BurstExample.ackId true)
  if ret ≠ 0 then do
    inMemory (free block)
    return .buildFailed
  let ret ← sendBurst A d pBuf
  if ret ≠ .sxOk then do
    inMemory (free block)
    return .sendFailed
  inMemory (free block)
  return .burstSent

end Sender

/-! ## Fragmentation over values -/

section Specs

open BurstExample

variable {A : Allocator Cell} {m : PacketHeap} {l : List ℕ} {owned : Finset ℕ} {destAddr srcAddr : UInt16}
  {ackId : UInt8} {seqOffset i : ℕ} {data : List UInt8}

structure AllPlaced (cs : List (Packet × Place)) (l : List ℕ) (m m' : PacketHeap) : Prop where
  lies : ∀ c ∈ cs, Lies m' c.1 c.2
  keeps : Keeps l m m'
  accounts : ∀ owned, Accounts owned l m → Accounts owned (blocksOf cs ++ l) m'

lemma AllPlaced.nil (l : List ℕ) (m : PacketHeap) : AllPlaced [] l m m :=
  ⟨by simp, .refl l m, fun _ h => h⟩

lemma Placed.all {p : Packet} {pl : Place} {m₁ m₂ : PacketHeap} {cs : List (Packet × Place)}
    (h : Placed p l m m₁ pl) (hrest : AllPlaced cs (pl.blocks ++ l) m₁ m₂) :
    AllPlaced ((p, pl) :: cs) l m m₂ where
  lies c hc := by
    cases List.mem_cons.mp hc with
    | inl heq =>
      subst heq
      exact h.lies.keeps hrest.keeps.left
    | inr hmem => exact hrest.lies c hmem
  keeps := h.keeps.trans hrest.keeps.right
  accounts owned hacc := by
    refine (hrest.accounts owned (h.accounts owned hacc)).perm ?_
    rw [blocksOf, blocksOf, List.flatMap_cons]
    grind

lemma fragmentAt_placed (destAddr srcAddr : UInt16) (ackId : UInt8) (seqOffset : ℕ) (hl : ∀ a ∈ l, a ∈ m)
    (hi : i * payloadLengthMax < data.length) :
    ∃ pl m', fragmentAt A (fun k => data.getD k 0) destAddr srcAddr ackId seqOffset i
        (data.length - i * payloadLengthMax) m = .ok (some pl.record, m') ∧
      Placed (fragment data destAddr srcAddr ackId seqOffset i) l m m' pl := by
  set q := fragment data destAddr srcAddr ackId seqOffset i with hq
  set size := payloadSize (data.length - i * payloadLengthMax) with hsize
  have hpayload : memcpy (offset (fun k => data.getD k 0) (i * payloadLengthMax)) size = q.payload :=
    memcpy_fragment data (i * payloadLengthMax)
  have hlen : q.payload.length = size := by rw [← hpayload, memcpy_length]
  have hsize' : 0 < size ∧ size ≤ payloadLengthMax := by
    rw [hsize, payloadSize_eq]
    simp only [payloadLengthMax] at hi ⊢
    omega
  have hbyte : (UInt8.ofNat size).toNat = size := payloadSize_toNat _
  have hdata : q.payloadLength ≠ 0 := by
    intro hzero
    have hnil := (payload_eq_nil_iff q).mpr hzero
    rw [hnil] at hlen
    exact hsize'.1.ne hlen
  set b := A.pick m
  set m₁ := m.insert b (.bytes (q.payload.map some)) with hm₁
  set np := A.pick m₁
  have hwrite : writeBytes b q.payload (m.insert b (.bytes (List.replicate size none))) = .ok ((), m₁) := by
    rw [writeBytes_run (Finmap.lookup_insert m) (by simp [hlen]), List.drop_of_length_le (by simp [hlen]),
      List.append_nil, Finmap.insert_insert]
  have hlive₁ : ∀ a ∈ b :: l, a ∈ m₁ := by
    intro a ha
    rw [hm₁, Finmap.mem_insert]
    exact (List.mem_cons.mp ha).imp_right (hl a)
  have hnp : np ∉ b :: l := pick_notMem_of_live A hlive₁
  rw [List.mem_cons, not_or] at hnp
  refine ⟨⟨np, some b⟩, m₁.insert np (.packet (recordOf q (some b))), ?_,
    ⟨Finmap.lookup_insert _, by simp [hdata], fun a ha => ?_⟩, ?_, fun owned hacc => ?_⟩
  · rw [fragmentAt, hpayload, Prog.bind_of_ok (mallocBytes_apply size), Prog.bind_of_ok hwrite, packetConstructor,
      if_neg (by rw [hbyte]; omega), Prog.bind_of_ok malloc_apply,
      Prog.bind_of_ok (store_of_mem (Finmap.mem_insert.mpr (Or.inl rfl)) _), Finmap.insert_insert]
    rfl
  · obtain rfl := Option.some.inj ha
    rw [Finmap.lookup_insert_of_ne _ (Ne.symm hnp.1), hm₁, Finmap.lookup_insert]
  · exact (keeps_malloc A hl _).trans (keeps_insert hnp.2 _)
  · exact (hacc.malloc A _).malloc A _

lemma fragments_placed (destAddr srcAddr : UInt16) (ackId : UInt8) (seqOffset count i : ℕ) (hl : ∀ a ∈ l, a ∈ m)
    (hcount : i + count ≤ npackets data.length) :
    ∃ cs m', fragments A (fun k => data.getD k 0) destAddr srcAddr ackId seqOffset count i
        (data.length - i * payloadLengthMax) m = .ok (cs.map fun c => some c.2.record, m') ∧
      cs.map Prod.fst = (List.range' i count).map (fragment data destAddr srcAddr ackId seqOffset) ∧
      AllPlaced cs l m m' := by
  induction count generalizing i l m with
  | zero => exact ⟨[], m, rfl, rfl, .nil l m⟩
  | succ count ih =>
    have hi : i * payloadLengthMax < data.length := by
      simp only [npackets, payloadLengthMax] at hcount ⊢
      omega
    have hleft : data.length - i * payloadLengthMax - payloadSize (data.length - i * payloadLengthMax) =
        data.length - (i + 1) * payloadLengthMax := by
      rw [payloadSize_eq, Nat.add_mul]
      omega
    obtain ⟨pl, m₁, hfirst, hplaced⟩ := fragmentAt_placed (A := A) destAddr srcAddr ackId seqOffset hl hi
    obtain ⟨cs, m₂, hrest, hcs, hall⟩ := ih (i + 1) (hplaced.live hl) (by omega)
    refine ⟨(fragment data destAddr srcAddr ackId seqOffset i, pl) :: cs, m₂, ?_, ?_, hplaced.all hall⟩
    · rw [fragments, Prog.bind_of_ok hfirst, hleft, Prog.bind_of_ok hrest]
      rfl
    · rw [List.map_cons, hcs, List.range'_succ, List.map_cons]

/-- What the call leaves besides the packets: nothing, unless `realloc` fails. Then the array is lost, and with
it the data packets that lie in it. -/
def LostFragments (m' : PacketHeap) (mallocOk reallocOk includeHandshakes : Bool) (packets : List Packet)
    (lost : List ℕ) : Prop :=
  if mallocOk = true ∧ includeHandshakes = true ∧ reallocOk = false then
    ∃ buf cs, lost = buf :: blocksOf cs ∧ cs.map Prod.fst = packets ∧ ∀ c ∈ cs, Lies m' c.1 c.2
  else lost = []

lemma LostFragments.keeps {m' : PacketHeap} {mallocOk reallocOk includeHandshakes : Bool} {packets : List Packet}
    {lost : List ℕ} (h : LostFragments m mallocOk reallocOk includeHandshakes packets lost) (hk : Keeps lost m m') :
    LostFragments m' mallocOk reallocOk includeHandshakes packets lost := by
  rw [LostFragments] at h ⊢
  split_ifs at h ⊢
  · obtain ⟨buf, cs, rfl, hcs, hlies⟩ := h
    exact ⟨buf, cs, rfl, hcs, lies_keeps hlies hk.tail⟩
  · exact h

lemma free_frame {cs : List (Packet × Place)} {a : ℕ} (hlies : ∀ c ∈ cs, Lies m c.1 c.2)
    (hacc : Accounts owned (a :: (blocksOf cs ++ l)) m) :
    free a m = .ok ((), m.erase a) ∧ (∀ c ∈ cs, Lies (m.erase a) c.1 c.2) ∧ Keeps l m (m.erase a) ∧
      Accounts owned (blocksOf cs ++ l) (m.erase a) := by
  have hkeeps : Keeps (blocksOf cs ++ l) m (m.erase a) := keeps_erase (List.nodup_cons.mp hacc.nodup).1
  exact ⟨free_of_mem (hacc.live a List.mem_cons_self), lies_keeps hlies hkeeps.left, hkeeps.right, hacc.free⟩

lemma handshakes_placed {cs : List (Packet × Place)} (destAddr srcAddr : UInt16) (ackId : UInt8)
    (hlies : ∀ c ∈ cs, Lies m c.1 c.2) (hacc : Accounts owned (blocksOf cs ++ l) m) :
    ∃ f g m₁ m₂, ackPacket A destAddr srcAddr ackId 0 m = .ok (some f, m₁) ∧
      ackPacket A destAddr srcAddr ackId 255 m₁ = .ok (some g, m₂) ∧
      let cs' := (emptyPacket destAddr srcAddr ackId 0, ⟨f, none⟩) ::
        (cs ++ [(emptyPacket destAddr srcAddr ackId 255, ⟨g, none⟩)])
      (∀ c ∈ cs', Lies m₂ c.1 c.2) ∧ Keeps l m m₂ ∧ Accounts owned (blocksOf cs' ++ l) m₂ := by
  obtain ⟨m₁, hfirst, hplaced₁⟩ := ackPacket_placed (A := A) hacc.live destAddr srcAddr ackId 0
  have hacc₁ := hplaced₁.accounts owned hacc
  obtain ⟨m₂, hlast, hplaced₂⟩ := ackPacket_placed (A := A) hacc₁.live destAddr srcAddr ackId 255
  have hacc₂ := hplaced₂.accounts owned hacc₁
  refine ⟨_, _, m₁, m₂, hfirst, hlast, fun c hc => ?_, ?_, hacc₂.perm ?_⟩
  · rw [List.mem_cons, List.mem_append, List.mem_singleton] at hc
    rcases hc with rfl | hmem | rfl
    · exact hplaced₁.lies.keeps hplaced₂.keeps.left
    · exact lies_keeps hlies (hplaced₁.keeps.left.trans hplaced₂.keeps.right.left) c hmem
    · exact hplaced₂.lies
  · exact hplaced₁.keeps.right.trans hplaced₂.keeps.right.right
  · simp only [blocksOf, List.flatMap_cons, List.flatMap_append, List.flatMap_nil, Place.blocks, Option.toList_none]
    grind

lemma filled_placed (hacc : Accounts owned l m) (data : List UInt8) (destAddr srcAddr : UInt16) (ackId : UInt8)
    (seqOffset : ℕ) :
    ∃ cs m', fragments A (fun k => data.getD k 0) destAddr srcAddr ackId seqOffset (npackets data.length) 0
        data.length (m.insert (A.pick m) .uninit) = .ok (cs.map fun c => some c.2.record, m') ∧
      cs.map Prod.fst = dataPackets data destAddr srcAddr ackId seqOffset ∧ (∀ c ∈ cs, Lies m' c.1 c.2) ∧
      Keeps l m m' ∧ Accounts owned (A.pick m :: (blocksOf cs ++ l)) m' := by
  have hacc₁ := hacc.malloc A Cell.uninit
  obtain ⟨cs, m', hrun, hcs, hall⟩ := fragments_placed (A := A) destAddr srcAddr ackId seqOffset
    (npackets data.length) 0 hacc₁.live (Nat.zero_add _).le
  rw [Nat.zero_mul, Nat.sub_zero] at hrun
  refine ⟨cs, m', hrun, ?_, hall.lies, (keeps_malloc A hacc.live _).trans hall.keeps.tail, (hall.accounts owned hacc₁).perm (by grind)⟩
  rw [hcs, dataPackets, List.range_eq_range']

lemma framed_placed {cs : List (Packet × Place)} {buf : ℕ} (hlies : ∀ c ∈ cs, Lies m c.1 c.2)
    (hacc : Accounts owned (buf :: (blocksOf cs ++ l)) m) (destAddr srcAddr : UInt16) (ackId : UInt8) :
    ∃ cs' m', (do
        let moved ← malloc A .uninit
        free buf
        let first ← ackPacket A destAddr srcAddr ackId 0
        let last ← ackPacket A destAddr srcAddr ackId 255
        free moved
        return ((0 : ℤ), first :: (cs.map fun c => some c.2.record) ++ [last]) : Prog PacketHeap _) m =
          .ok ((0, cs'.map fun c => some c.2.record), m') ∧
      cs'.map Prod.fst =
        emptyPacket destAddr srcAddr ackId 0 :: (cs.map Prod.fst ++ [emptyPacket destAddr srcAddr ackId 255]) ∧
      (∀ c ∈ cs', Lies m' c.1 c.2) ∧ Keeps l m m' ∧ Accounts owned (blocksOf cs' ++ l) m' := by
  set moved := A.pick m
  have hacc₁ : Accounts owned (moved :: buf :: (blocksOf cs ++ l)) (m.insert moved .uninit) := hacc.malloc A _
  have hkeeps₁ : Keeps (buf :: (blocksOf cs ++ l)) m (m.insert moved .uninit) := keeps_malloc A hacc.live _
  have hlies₁ : ∀ c ∈ cs, Lies (m.insert moved .uninit) c.1 c.2 := lies_keeps hlies hkeeps₁.tail.left
  obtain ⟨hfree, hlies₂, hkeeps₂, hacc₂⟩ := free_frame (a := buf) (l := moved :: l) hlies₁ (hacc₁.perm (by grind))
  obtain ⟨f, g, m₃, m₄, hfirst, hlast, hlies₄, hkeeps₄, hacc₄⟩ := handshakes_placed (A := A) destAddr srcAddr
    ackId hlies₂ hacc₂
  obtain ⟨hfree', hlies₅, hkeeps₅, hacc₅⟩ := free_frame (a := moved) (l := l) hlies₄ (hacc₄.perm (by grind))
  refine ⟨_, _, (Prog.bind_of_ok malloc_apply).trans <| (Prog.bind_of_ok hfree).trans <|
    (Prog.bind_of_ok hfirst).trans <| (Prog.bind_of_ok hlast).trans <| (Prog.bind_of_ok hfree').trans ?_, ?_, hlies₅,
    ?_, hacc₅⟩
  · simp
  · simp
  · have h₁ : Keeps l m (m.insert moved .uninit) := hkeeps₁.mono fun a ha => by simp [ha]
    have h₂ : Keeps l m m₄ := (h₁.trans hkeeps₂.tail).trans
      hkeeps₄.tail
    exact h₂.trans hkeeps₅

lemma dataToPacketArray_placed (hacc : Accounts owned l m) (mallocOk reallocOk : Bool) (data : List UInt8)
    (destAddr srcAddr : UInt16) (ackId : UInt8) (includeHandshakes : Bool) :
    ∃ cs lost m', dataToPacketArray A mallocOk reallocOk data destAddr srcAddr ackId includeHandshakes m =
        .ok (((LoraNetworking.dataToPacketArray mallocOk reallocOk data destAddr srcAddr ackId includeHandshakes).1,
          cs.map fun c => some c.2.record), m') ∧
      (LoraNetworking.dataToPacketArray mallocOk reallocOk data destAddr srcAddr ackId includeHandshakes).2 =
        cs.map (fun c => some c.1) ∧
      (∀ c ∈ cs, Lies m' c.1 c.2) ∧ Keeps l m m' ∧ Accounts owned (blocksOf cs ++ (lost ++ l)) m' ∧
      LostFragments m' mallocOk reallocOk includeHandshakes (dataPackets data destAddr srcAddr ackId 1) lost := by
  cases mallocOk with
  | false => exact ⟨[], [], m, rfl, rfl, by simp, .refl l m, hacc, rfl⟩
  | true =>
    obtain ⟨cs, m₁, hrun, hcs, hlies, hkeeps, hacc₁⟩ := filled_placed (A := A) hacc data destAddr srcAddr ackId
      (if includeHandshakes then 1 else 0)
    have hvalues := loop_dataPackets data destAddr srcAddr ackId (if includeHandshakes then 1 else 0)
    rw [← hcs, List.map_map] at hvalues
    cases includeHandshakes with
    | false =>
      obtain ⟨hfree, hlies₂, hkeeps₂, hacc₂⟩ := free_frame hlies hacc₁
      exact ⟨cs, [], _, (Prog.bind_of_ok malloc_apply).trans <| (Prog.bind_of_ok hrun).trans <|
        (Prog.bind_of_ok hfree).trans rfl, hvalues, hlies₂, hkeeps.trans hkeeps₂,
        hacc₂, rfl⟩
    | true =>
      cases reallocOk with
      | false =>
        refine ⟨[], A.pick m :: blocksOf cs, m₁, (Prog.bind_of_ok malloc_apply).trans <|
          (Prog.bind_of_ok hrun).trans rfl, rfl, by simp, hkeeps, hacc₁, ?_⟩
        rw [LostFragments, if_pos ⟨rfl, rfl, rfl⟩]
        exact ⟨A.pick m, cs, rfl, hcs, hlies⟩
      | true =>
        obtain ⟨cs', m₂, hframe, hcs', hlies₂, hkeeps₂, hacc₂⟩ := framed_placed (A := A) hlies hacc₁ destAddr
          srcAddr ackId
        refine ⟨cs', [], m₂, (Prog.bind_of_ok malloc_apply).trans <| (Prog.bind_of_ok hrun).trans hframe, ?_, hlies₂,
          hkeeps.trans hkeeps₂, hacc₂, rfl⟩
        have hlist : cs'.map Prod.fst = framedBurst data destAddr srcAddr ackId := by
          rw [hcs', hcs]
          rfl
        rw [dataToPacketArray_ok, ← hlist, List.map_map]
        rfl

section Task

variable {σ : Type} (d : Driver σ)

/-- What `send_burst` has left of the burst for which it returned `ret`, once `p_buf` is freed. -/
def LeftByBurst (owned : Finset ℕ) (l : List ℕ) (data : List UInt8) (ret : Sx127xErr) (b b' : Board σ) : Prop :=
  ∃ cs sent rest lost, cs.map Prod.fst = framedBurst data receiverAddr senderAddr BurstExample.ackId ∧
    (ret = .sxOk ↔ rest = []) ∧
    Acknowledged d cs.length 0 (cs.map Prod.fst) b.node (sent.map Prod.fst) ret b'.node ∧
    BurstLeaves owned l cs sent rest lost b.memory b'.memory

/-- The blocks that the task leaves behind, besides those of `l`. -/
def SenderLeaves (owned : Finset ℕ) (l : List ℕ) (mallocOk : Bool) (data : List UInt8) (b b' : Board σ) :
    SenderReport → Prop
  | .outOfMemory => b'.memory = b.memory
  | .buildFailed => ∃ lost, Accounts owned (lost ++ l) b'.memory ∧
      LostFragments b'.memory mallocOk false true (dataPackets data receiverAddr senderAddr BurstExample.ackId 1) lost
  | .sendFailed => ∃ ret, ret ≠ .sxOk ∧ LeftByBurst d owned l data ret b b'
  | .burstSent => LeftByBurst d owned l data .sxOk b b'

end Task

lemma dataToPacketArray_failed {mallocOk reallocOk : Bool} (h : ¬ (mallocOk = true ∧ reallocOk = true))
    (data : List UInt8) (destAddr srcAddr : UInt16) (ackId : UInt8) :
    LoraNetworking.dataToPacketArray mallocOk reallocOk data destAddr srcAddr ackId true = (-1, []) := by
  cases mallocOk with
  | false => rfl
  | true =>
    cases reallocOk with
    | false => rfl
    | true => exact absurd ⟨rfl, rfl⟩ h

theorem sender_task_on_heap {σ : Type} {d : Driver σ} {b : Board σ} (hacc : Accounts owned l b.memory)
    (pBufOk mallocOk reallocOk : Bool) (burstData : List UInt8) :
    Lockstep (fun report b' report' n => report = report' ∧ b'.node = n ∧ Keeps l b.memory b'.memory ∧
        SenderLeaves d owned l mallocOk burstData b b' report)
      (senderTask A d pBufOk mallocOk reallocOk burstData b)
      (BurstExample.senderTask d pBufOk mallocOk reallocOk burstData b.node) := by
  rw [senderTask, BurstExample.senderTask]
  refine .ite (fun _ => .done ⟨rfl, rfl, .refl _ _, rfl⟩) fun _ => ?_
  have hkeeps₁ : Keeps l b.memory (b.memory.insert (A.pick b.memory) .uninit) := keeps_malloc A hacc.live _
  obtain ⟨cs, lost, m₂, hrun, hvalues, hlies, hkeeps₂, hacc₂, hlost⟩ := dataToPacketArray_placed (A := A)
    (hacc.malloc A Cell.uninit) mallocOk reallocOk burstData receiverAddr senderAddr BurstExample.ackId true
  have hkeep : Keeps l b.memory m₂ := hkeeps₁.trans hkeeps₂.tail
  refine .left (inMemory_run malloc_apply) (.left (inMemory_run hrun) ?_)
  by_cases hok : mallocOk = true ∧ reallocOk = true
  · obtain ⟨rfl, rfl⟩ := hok
    obtain rfl : lost = [] := by simpa [LostFragments] using hlost
    rw [dataToPacketArray_ok] at hvalues ⊢
    have hfst : cs.map Prod.fst = framedBurst burstData receiverAddr senderAddr BurstExample.ackId := by
      apply List.map_injective_iff.mpr (Option.some_injective _)
      rw [List.map_map]
      exact hvalues.symm
    refine .ite (fun h => absurd rfl h) fun _ => ?_
    dsimp only at hvalues ⊢
    rw [hvalues, sendBurst, LoraNetworking.sendBurst, List.length_map, List.length_map]
    refine .bind (sendBurstFrom_lockstep (b := ⟨b.node, m₂⟩) cs.length 0 cs hlies hacc₂) ?_
    rintro ret b₃ _ n ⟨rfl, rfl, sent, rest, lost, hall, hsent, hleaves⟩
    obtain ⟨hfree, hlies₄, hkeeps₄, hacc₄⟩ := free_frame (a := A.pick b.memory)
      (l := lost ++ payloadsOf sent ++ l) hleaves.lies (hleaves.accounts.perm (by grind))
    have hkeep' : Keeps l b.memory (b₃.memory.erase (A.pick b.memory)) :=
      (hkeep.trans (hleaves.keeps.mono fun a ha => by simp [ha])).trans
        hkeeps₄.right
    have hleft : LeftByBurst d owned l burstData ret b ⟨b₃.node, b₃.memory.erase (A.pick b.memory)⟩ :=
      ⟨cs, sent, rest, lost, hfst, hall, hsent, hleaves.split, hlies₄, hkeep', hacc₄.perm (by grind),
        hleaves.lost_le⟩
    refine .ite (fun hret => .left (inMemory_run hfree) (.done ⟨rfl, rfl, hkeep', ret, hret, hleft⟩)) fun hret => ?_
    obtain rfl := not_not.mp hret
    exact .left (inMemory_run hfree) (.done ⟨rfl, rfl, hkeep', hleft⟩)
  · rw [dataToPacketArray_failed hok] at hvalues ⊢
    obtain rfl : cs = [] := by simpa using hvalues.symm
    have hfailed : LostFragments m₂ mallocOk false true
        (dataPackets burstData receiverAddr senderAddr BurstExample.ackId 1) lost := by
      cases mallocOk with
      | false => exact hlost
      | true =>
        cases reallocOk with
        | false => exact hlost
        | true => exact absurd ⟨rfl, rfl⟩ hok
    have hacc' : Accounts owned (A.pick b.memory :: (lost ++ l)) m₂ := hacc₂.perm (by simp [blocksOf])
    have hkeeps₃ : Keeps (lost ++ l) m₂ (m₂.erase (A.pick b.memory)) :=
      keeps_erase (List.nodup_cons.mp hacc'.nodup).1
    refine .left (inMemory_run (free_of_mem (hacc'.live _ List.mem_cons_self))) (.done ⟨rfl, rfl, ?_, lost,
      hacc'.free, hfailed.keeps hkeeps₃.left⟩)
    exact hkeep.trans hkeeps₃.right

theorem sender_task_on_heap_acked :
    let b : Board Mailbox := ⟨⟨⟨(framedBurst [65] 2 1 1).map fun p => encode (ackFor p), []⟩, zeroBuffer⟩, ∅⟩
    ∃ b' cs lost, senderTask (.above Cell) mailbox.driver true true true [65] b = .ok (.burstSent, b') ∧
      cs.map Prod.fst = framedBurst [65] 2 1 1 ∧ lost.length ≤ 9 ∧
      Accounts ∅ (lost ++ payloadsOf cs) b'.memory := by
  intro b
  obtain ⟨report, b', hrun, hreport⟩ := Prog.returns (x := senderTask (.above Cell) mailbox.driver true true true [65])
    (s := b) (fun report _ => report = .burstSent) (by decide +kernel)
  obtain rfl : report = .burstSent := hreport
  have hlock := sender_task_on_heap (A := .above Cell) (d := mailbox.driver) (b := b) accounts_empty true true true [65]
  obtain ⟨-, n, -, -, -, -, cs, sent, rest, lost, hcs, hall, -, hleaves⟩ := hlock.of_ok hrun
  obtain rfl := hall.mp rfl
  obtain rfl : cs = sent := by simpa using hleaves.split
  have hlen : cs.length = 3 := by
    rw [← List.length_map (f := Prod.fst), hcs]
    rfl
  have hlost := hleaves.lost_le
  rw [hlen] at hlost
  have hacc := hleaves.accounts
  exact ⟨b', cs, lost, hrun, hcs, by simpa using hlost, by simpa [blocksOf] using hacc⟩

end Specs

end LoraNetworking.InMemory
