import LoraNetworking.PacketMemory
import LoraNetworking.RxPacketHandler

/-! The receive handler over the heap (`rx_packet_handler.c`), and what it owes to the application
behind its callbacks: a packet that is handed over belongs to the application. -/

namespace LoraNetworking.InMemory

open Heap StateProg

abbrev CapturedPointers := Vector (Option ℕ) packetCaptureMaxCount

structure RxHandlerCtx where
  hostAddr : UInt16
  remoteSrcAddr : UInt16
  configured : Bool
  capture : Bool
  captureAckId : UInt8
  capturedPacketArr : CapturedPointers
  capturedN : ℕ
  lastReceivedAckId : UInt8
  lastReceivedSeqNumber : UInt8

/-- The code behind the two callbacks, and the blocks that are its own in a state of it. With the
packets that a callback is given it may do what it likes; the blocks `l` of the library it leaves
alone, and everything else that is live when it returns is its own. -/
structure Application (υ : Type) where
  owned : υ → Finset ℕ
  commandPacketHandler : ℕ → υ → PacketHeap → υ × PacketHeap
  captureEndHandler : CapturedPointers → ℕ → υ → PacketHeap → υ × PacketHeap
  command_takes : ∀ u m p pl l, Lies m p pl → Accounts (owned u) (pl.blocks ++ l) m →
    Accounts (owned (commandPacketHandler pl.record u m).1) l (commandPacketHandler pl.record u m).2 ∧
      Keeps l m (commandPacketHandler pl.record u m).2
  capture_takes : ∀ u m pArr n (cs : List (Packet × Place)) l,
    pArr.toList.take n = cs.map (fun c => some c.2.record) →
    (∀ c ∈ cs, Lies m c.1 c.2) → Accounts (owned u) (cs.flatMap (fun c => c.2.blocks) ++ l) m →
    Accounts (owned (captureEndHandler pArr n u m).1) l (captureEndHandler pArr n u m).2 ∧
      Keeps l m (captureEndHandler pArr n u m).2

def memoryAfter (x : Prog PacketHeap Unit) (m : PacketHeap) : PacketHeap :=
  match x m with
  | .ok (_, m') => m'
  | .error _ => m

lemma memoryAfter_run {x : Prog PacketHeap Unit} {m m' : PacketHeap} (h : x m = .ok ((), m')) :
    memoryAfter x m = m' := by
  rw [memoryAfter, h]

def freeing : Application Unit where
  owned _ := ∅
  commandPacketHandler p u m := (u, memoryAfter (freePacket p) m)
  captureEndHandler pArr n u m := (u, memoryAfter (freePackets (pArr.toList.take n)) m)
  command_takes u m p pl l hlies hacc := by
    obtain ⟨m', hrun, hkeeps, hacc'⟩ := freePacket_run (payloadPointer_lies hlies) hacc
    rw [memoryAfter_run hrun]
    exact ⟨hacc', hkeeps⟩
  capture_takes u m pArr n cs l hpointers hlies hacc := by
    obtain ⟨m', hrun, hkeeps, hacc'⟩ := freePackets_run hlies hacc
    rw [hpointers, memoryAfter_run hrun]
    exact ⟨hacc', hkeeps⟩

inductive Sight
  | command (p : Option Packet)
  | captured (ps : List (Option Packet))
  deriving DecidableEq

structure Host (υ : Type) where
  memory : PacketHeap
  app : υ
  sights : List Sight

variable {υ α : Type}

def onHeap (x : Prog PacketHeap α) : Prog (Host υ) α :=
  x.zoom Host.memory fun memory h => { h with memory := memory }

def packetAt (m : PacketHeap) (p : ℕ) : Option Packet :=
  match readPacket p m with
  | .ok (q, _) => some q
  | .error _ => none

def commandPacketHandler (app : Application υ) (p : ℕ) : Prog (Host υ) Unit :=
  Prog.update fun h =>
    let out := app.commandPacketHandler p h.app h.memory
    ⟨out.2, out.1, h.sights ++ [.command (packetAt h.memory p)]⟩

def captureEndHandler (app : Application υ) (pArr : CapturedPointers) (n : ℕ) : Prog (Host υ) Unit :=
  Prog.update fun h =>
    let out := app.captureEndHandler pArr n h.app h.memory
    ⟨out.2, out.1, h.sights ++ [.captured ((pArr.toList.take n).map fun p => p.bind (packetAt h.memory))]⟩

def rxHandlerInit (hostAddr remoteSrcAddr : UInt16) : RxHandlerCtx where
  hostAddr := hostAddr
  remoteSrcAddr := remoteSrcAddr
  configured := true
  capture := false
  captureAckId := 0
  capturedPacketArr := Vector.replicate _ none
  capturedN := 0
  lastReceivedAckId := 0
  lastReceivedSeqNumber := 0

/-- The captured packets are not freed. -/
def rxHandlerReset (ctx : RxHandlerCtx) : RxHandlerCtx :=
  { ctx with capture := false, capturedN := 0, captureAckId := 0 }

variable (A : Allocator Cell) (app : Application υ)

def rxPacketSwitch (ctx : RxHandlerCtx) (rxP : ℕ) (r : PacketRecord) :
    Prog (Host υ) (RxHandlerReturn × RxHandlerCtx) :=
  match checkPacketType r with
  | .packetBegin =>
    if ctx.capture = false then
      return (.captureBegin, { rxHandlerReset ctx with capture := true, captureAckId := r.ackId })
    else return (.captureAlreadyOn, ctx)
  | .packetData =>
    if ctx.capture = true ∧ r.ackId = ctx.captureAckId then
      if ctx.capturedN ≥ packetCaptureMaxCount then return (.captureArrayFull, ctx)
      else if r.sequenceNumber.toNat ≠ ctx.capturedN + 1 then return (.packetRejected, ctx)
      else do
        let rxPCopy ← onHeap (copyPacket A rxP)
        return (.dataPacketCaptured,
          { ctx with
            capturedPacketArr := ctx.capturedPacketArr.setIfInBounds ctx.capturedN (some rxPCopy)
            capturedN := ctx.capturedN + 1 })
    else if r.ackId ≠ ctx.captureAckId then do
      let rxPCopy ← onHeap (copyPacket A rxP)
      commandPacketHandler app rxPCopy
      return (.commandPacket, ctx)
    else return (.packetRejected, ctx)
  | .packetEnd =>
    if ctx.capture = false then return (.captureNotOn, ctx)
    else do
      captureEndHandler app ctx.capturedPacketArr ctx.capturedN
      return (.captureEnd, rxHandlerReset ctx)
  | .packetAck => return (.unknownPacket, ctx)

def rxPacketHandler (ctx : RxHandlerCtx) (rxP : Option ℕ) : Prog (Host υ) (RxHandlerReturn × RxHandlerCtx) :=
  if ctx.configured = false then return (.handlerNotConfigured, ctx)
  else
    match rxP with
    | none => return (.nullPacket, ctx)
    | some rxP => do
      let r ← onHeap (readRecord rxP)
      if r.destAddress ≠ ctx.hostAddr then return (.packetRejected, ctx)
      else if r.srcAddress ≠ ctx.remoteSrcAddr then return (.packetRejected, ctx)
      else if r.ackId = ctx.lastReceivedAckId ∧ r.sequenceNumber = ctx.lastReceivedSeqNumber then
        return (.packetRedundant, ctx)
      else
        rxPacketSwitch A app
          { ctx with
            lastReceivedAckId := r.ackId
            lastReceivedSeqNumber := r.sequenceNumber } rxP r

/-! ## The handler over values -/

/-- The context with packets for pointers. Where no packet is captured it does not matter which. -/
def RxHandlerCtx.valued (ctx : RxHandlerCtx) (arr : CapturedPacketArr) : LoraNetworking.RxHandlerCtx where
  hostAddr := ctx.hostAddr
  remoteSrcAddr := ctx.remoteSrcAddr
  configured := ctx.configured
  capture := ctx.capture
  captureAckId := ctx.captureAckId
  capturedPacketArr := arr
  capturedN := ctx.capturedN
  lastReceivedAckId := ctx.lastReceivedAckId
  lastReceivedSeqNumber := ctx.lastReceivedSeqNumber

def sight : Callback → Sight
  | .commandPacketHandler p => .command (some p)
  | .captureEndHandler pArr n => .captured (delivered pArr n)

/-- The captured packets lie in memory behind the pointers of the context, and the live blocks that
the application does not own are theirs and those of `l`. -/
structure Captures (app : Application υ) (cs : List (Packet × Place)) (l : List ℕ) (ctx : RxHandlerCtx)
    (arr : CapturedPacketArr) (h : Host υ) : Prop where
  lies : ∀ c ∈ cs, Lies h.memory c.1 c.2
  data : ∀ c ∈ cs, c.1.payloadLength ≠ 0
  count : ctx.capturedN = cs.length
  pointers : ctx.capturedPacketArr.toList.take ctx.capturedN = cs.map fun c => some c.2.record
  packets : arr.toList.take ctx.capturedN = cs.map fun c => some c.1
  idle : ctx.capture = false → cs = []
  accounts : Accounts (app.owned h.app) (blocksOf cs ++ l) h.memory

section Simulation

variable {A app} {ctx : RxHandlerCtx} {arr : CapturedPacketArr} {h : Host υ} {cs : List (Packet × Place)}
  {l : List ℕ} {p : Packet} {pl : Place} {x : Prog PacketHeap α} {a : α} {m : PacketHeap}

lemma onHeap_run (hx : x h.memory = .ok (a, m)) : onHeap x h = .ok (a, { h with memory := m }) := by
  simp [onHeap, Prog.zoom, hx]

lemma packetAt_lies (hp : Lies m p pl) : packetAt m pl.record = some p := by
  rw [packetAt, readPacket_lies hp]

lemma Captures.fresh (hostAddr remoteSrcAddr : UInt16) (hacc : Accounts (app.owned h.app) [] h.memory) :
    Captures app [] [] (rxHandlerInit hostAddr remoteSrcAddr) (Vector.replicate _ none) h :=
  ⟨by simp, by simp, rfl, rfl, rfl, by simp, hacc⟩

lemma Captures.live (hc : Captures app cs l ctx arr h) : ∀ a ∈ blocksOf cs ++ l, a ∈ h.memory :=
  hc.accounts.live

lemma Captures.blocks_length (hc : Captures app cs l ctx arr h) : (blocksOf cs).length = 2 * ctx.capturedN := by
  have hdata : payloadBlocks (cs.map Prod.fst) = cs.length := by
    rw [payloadBlocks, List.countP_map]
    exact List.countP_eq_length.mpr fun c hmem => by simpa using hc.data c hmem
  rw [blocksOf_length hc.lies, hdata, hc.count]
  omega

lemma take_set {β : Type} {n : ℕ} (v : Vector β n) {k : ℕ} (hk : k < n) (b : β) :
    (v.setIfInBounds k b).toList.take (k + 1) = v.toList.take k ++ [b] := by
  have hlen : k < v.toList.length := by simpa using hk
  rw [Vector.toList_setIfInBounds, List.take_succ_eq_append_getElem (by simpa using hk)]
  simp [List.take_set_of_le]

/-- What a call of the handler on the heap does, and the call on packets that it amounts to. -/
def Simulates (app : Application υ) (l : List ℕ) (h : Host υ) (x : Prog (Host υ) (RxHandlerReturn × RxHandlerCtx))
    (y : RxOutcome × LoraNetworking.RxHandlerCtx) : Prop :=
  ∃ ctx' h' cs' arr', x h = .ok ((y.1.ret, ctx'), h') ∧ y.2 = ctx'.valued arr' ∧
    Captures app cs' l ctx' arr' h' ∧ Keeps l h.memory h'.memory ∧
    h'.sights = h.sights ++ y.1.callbacks.map sight

lemma Captures.simulates (hc : Captures app cs l ctx arr h) (ret : RxHandlerReturn) :
    Simulates app l h (pure (ret, ctx)) (⟨ret, []⟩, ctx.valued arr) :=
  ⟨ctx, h, cs, arr, rfl, rfl, hc, .refl _ _, (List.append_nil _).symm⟩

lemma Captures.frame (hc : Captures app cs l ctx arr h) {h' : Host υ} {l' : List ℕ}
    (hkeeps : Keeps (blocksOf cs) h.memory h'.memory)
    (haccounts : Accounts (app.owned h'.app) (blocksOf cs ++ l') h'.memory) : Captures app cs l' ctx arr h' where
  lies := lies_keeps hc.lies hkeeps
  data := hc.data
  count := hc.count
  pointers := hc.pointers
  packets := hc.packets
  idle := hc.idle
  accounts := haccounts

lemma copy_simulates (hp : Lies h.memory p pl) (hdata : p.payloadLength ≠ 0)
    (hc : Captures app cs l ctx arr h) :
    ∃ pl' m, onHeap (copyPacket A pl.record) h = .ok (pl'.record, { h with memory := m }) ∧ Lies m p pl' ∧
      Keeps (blocksOf cs ++ l) h.memory m ∧
      Accounts (app.owned h.app) (pl'.blocks ++ (blocksOf cs ++ l)) m := by
  obtain ⟨pl', m, hrun, hplaced⟩ := copyPacket_placed (A := A) hp hdata hc.live
  exact ⟨pl', m, onHeap_run hrun, hplaced.lies, hplaced.keeps, hplaced.accounts _ hc.accounts⟩

lemma begin_simulates (hc : Captures app cs l ctx arr h) (hoff : ctx.capture = false) (ackId : UInt8) :
    Simulates app l h (pure (.captureBegin, { rxHandlerReset ctx with capture := true, captureAckId := ackId }))
      (⟨.captureBegin, []⟩, (ctx.valued arr).openSession ackId) := by
  obtain rfl := hc.idle hoff
  refine ⟨_, h, [], arr, rfl, rfl, ⟨by simp, by simp, rfl, rfl, rfl, by simp, hc.accounts⟩, .refl _ _, ?_⟩
  exact (List.append_nil _).symm

lemma capture_simulates (hp : Lies h.memory p pl) (hdata : p.payloadLength ≠ 0) (hc : Captures app cs l ctx arr h)
    (hon : ctx.capture = true) (hroom : ctx.capturedN < packetCaptureMaxCount) :
    Simulates app l h (do
        let rxPCopy ← onHeap (copyPacket A pl.record)
        return (.dataPacketCaptured,
          { ctx with
            capturedPacketArr := ctx.capturedPacketArr.setIfInBounds ctx.capturedN (some rxPCopy)
            capturedN := ctx.capturedN + 1 }))
      (⟨.dataPacketCaptured, []⟩, (ctx.valued arr).store p) := by
  obtain ⟨pl', m, hrun, hlies, hkeeps, haccounts⟩ := copy_simulates (A := A) hp hdata hc
  refine ⟨_, { h with memory := m }, cs ++ [(p, pl')], arr.setIfInBounds ctx.capturedN (some p),
    Prog.bind_of_ok hrun, rfl, ⟨fun c hmem => ?_, ?_, ?_, ?_, ?_, fun hoff => ?_, ?_⟩,
    hkeeps.right, (List.append_nil _).symm⟩
  · cases List.mem_append.mp hmem with
    | inl hold => exact lies_keeps hc.lies hkeeps.left c hold
    | inr hnew =>
      obtain rfl := List.mem_singleton.mp hnew
      exact hlies
  · intro c hmem
    cases List.mem_append.mp hmem with
    | inl hold => exact hc.data c hold
    | inr hnew =>
      obtain rfl := List.mem_singleton.mp hnew
      exact hdata
  · simp [hc.count]
  · rw [take_set _ hroom, hc.pointers, List.map_append]
    rfl
  · rw [take_set _ hroom, hc.packets, List.map_append]
    rfl
  · exact absurd (hon.symm.trans hoff) (by decide)
  · rw [blocksOf_append]
    refine haccounts.perm ?_
    rw [show blocksOf [(p, pl')] = pl'.blocks from List.append_nil _, List.append_assoc]
    exact List.perm_append_comm_assoc _ _ _

lemma command_simulates (hp : Lies h.memory p pl) (hdata : p.payloadLength ≠ 0)
    (hc : Captures app cs l ctx arr h) :
    Simulates app l h (do
        let rxPCopy ← onHeap (copyPacket A pl.record)
        commandPacketHandler app rxPCopy
        return (.commandPacket, ctx))
      (⟨.commandPacket, [.commandPacketHandler p]⟩, ctx.valued arr) := by
  obtain ⟨pl', m, hrun, hlies, hkeeps, haccounts⟩ := copy_simulates (A := A) hp hdata hc
  obtain ⟨hafter, hkeeps'⟩ := app.command_takes h.app m p pl' _ hlies haccounts
  have hall := hkeeps.trans hkeeps'
  refine ⟨ctx, _, cs, arr, Prog.bind_of_ok hrun, rfl,
    hc.frame hall.left hafter,
    hall.right, ?_⟩
  simp [packetAt_lies hlies, sight]

lemma end_simulates (hc : Captures app cs l ctx arr h) :
    Simulates app l h (do
        captureEndHandler app ctx.capturedPacketArr ctx.capturedN
        return (.captureEnd, rxHandlerReset ctx))
      (⟨.captureEnd, [.captureEndHandler arr ctx.capturedN]⟩,
        LoraNetworking.rxHandlerReset (ctx.valued arr)) := by
  obtain ⟨hafter, hkeeps⟩ := app.capture_takes h.app h.memory ctx.capturedPacketArr ctx.capturedN cs l
    hc.pointers hc.lies hc.accounts
  refine ⟨_, _, [], arr, rfl, rfl, ⟨by simp, by simp, rfl, rfl, rfl, fun _ => rfl, hafter⟩, hkeeps, ?_⟩
  have hseen : (ctx.capturedPacketArr.toList.take ctx.capturedN).map (fun p => p.bind (packetAt h.memory)) =
      delivered arr ctx.capturedN := by
    rw [hc.pointers, delivered, hc.packets, List.map_map]
    apply List.map_congr_left
    intro c hmem
    exact packetAt_lies (hc.lies c hmem)
  exact congrArg (fun ps => h.sights ++ [Sight.captured ps]) hseen

lemma Simulates.ite {c : Prop} [Decidable c] {x x' : Prog (Host υ) (RxHandlerReturn × RxHandlerCtx)}
    {y y' : RxOutcome × LoraNetworking.RxHandlerCtx} (hx : c → Simulates app l h x y)
    (hy : ¬ c → Simulates app l h x' y') :
    Simulates app l h (if c then x else x') (if c then y else y') := by
  split_ifs with hc
  · exact hx hc
  · exact hy hc

lemma Simulates.of_eq {x x' : Prog (Host υ) (RxHandlerReturn × RxHandlerCtx)}
    {y : RxOutcome × LoraNetworking.RxHandlerCtx} (hx : x h = x' h) (hs : Simulates app l h x' y) :
    Simulates app l h x y := by
  obtain ⟨ctx', h', cs', arr', hrun, hrest⟩ := hs
  exact ⟨ctx', h', cs', arr', hx.trans hrun, hrest⟩

lemma switch_simulates (hp : Lies h.memory p pl) (hc : Captures app cs l ctx arr h) :
    Simulates app l h (rxPacketSwitch A app ctx pl.record (recordOf p pl.payload))
      (LoraNetworking.rxPacketSwitch (ctx.valued arr) p) := by
  rw [rxPacketSwitch, LoraNetworking.rxPacketSwitch, checkPacketType_recordOf]
  cases ht : LoraNetworking.checkPacketType p with
  | packetBegin => exact .ite (fun hoff => begin_simulates hc hoff p.ackId) fun _ => hc.simulates _
  | packetData =>
    have hdata := (checkPacketType_data p).mp ht
    dsimp only
    rw [copyPacket_eq]
    refine .ite (fun hown => ?_) fun _ => .ite (fun _ => command_simulates hp hdata hc) fun _ => hc.simulates _
    refine .ite (fun _ => hc.simulates _) fun hroom => .ite (fun _ => hc.simulates _) fun _ => ?_
    exact capture_simulates hp hdata hc hown.1 (not_le.mp hroom)
  | packetEnd => exact .ite (fun _ => hc.simulates _) fun _ => end_simulates hc
  | packetAck => exact hc.simulates _

theorem rxPacketHandler_simulates (hp : Lies h.memory p pl) (hc : Captures app cs l ctx arr h) :
    Simulates app l h (rxPacketHandler A app ctx (some pl.record))
      (LoraNetworking.rxPacketHandler (ctx.valued arr) (some p)) := by
  rw [rxPacketHandler, LoraNetworking.rxPacketHandler]
  refine .ite (fun _ => hc.simulates _) fun _ => ?_
  have hread : onHeap (readRecord pl.record) h = .ok (recordOf p pl.payload, h) :=
    onHeap_run (readRecord_lies hp)
  refine .of_eq (Prog.bind_of_ok hread) ?_
  refine .ite (fun _ => hc.simulates _) fun _ => .ite (fun _ => hc.simulates _) fun _ => ?_
  exact .ite (fun _ => hc.simulates _) fun _ => switch_simulates hp
    ⟨hc.lies, hc.data, hc.count, hc.pointers, hc.packets, hc.idle, hc.accounts⟩

end Simulation

end LoraNetworking.InMemory
