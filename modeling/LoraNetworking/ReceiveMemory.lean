import LoraNetworking.HandlerMemory
import LoraNetworking.RadioMemory
import LoraNetworking.Receiver

/-! The receive loop (`start_rx_loop`) with the heap: it never uses a block that it does not hold, and
what it has lost after any number of rounds. -/

namespace LoraNetworking.InMemory

open Heap StateProg

structure Station (σ υ : Type) where
  node : Node σ
  host : Host υ

variable {σ υ α : Type}

def Station.board (s : Station σ υ) : Board σ := ⟨s.node, s.host.memory⟩

def Station.withBoard (b : Board σ) (s : Station σ υ) : Station σ υ :=
  ⟨b.node, { s.host with memory := b.memory }⟩

def onBoard (x : Prog (Board σ) α) : Prog (Station σ υ) α := x.zoom Station.board Station.withBoard

def onHost (x : Prog (Host υ) α) : Prog (Station σ υ) α := x.zoom Station.host fun host s => { s with host := host }

inductive RxRound
  | leave (ret : Sx127xErr)
  | skip (ret : Sx127xErr)
  -- the ack could not be sent
  | unsent (rxP : Option Packet) (ret : Sx127xErr)
  | handled (rxP : Option Packet) (ret : RxHandlerReturn)
  deriving DecidableEq

variable (A : Allocator Cell) (app : Application υ) (d : Driver σ)

def rxRound (rxP : ℕ) (handler : RxHandlerCtx) : Prog (Station σ υ) (RxRound × RxHandlerCtx) := do
  let ret ← onBoard (onNode (onRadio d.clearIrq))
  if ret ≠ .sxOk then return (.leave ret, handler)
  let ret ← onBoard (onNode (onRadio (d.switchMode (modeLora ||| modeRxContinuous))))
  if ret ≠ .sxOk then return (.leave ret, handler)
  let ret ← onBoard (onNode (onRadio (d.pollForIrqFlagNoTimeout 1 ((1 : UInt8) <<< 6) false)))
  if ret ≠ .sxOk then return (.skip ret, handler)
  let ret ← onBoard (readLastPacket A d rxP)
  if ret ≠ .sxOk then return (.skip ret, handler)
  let r ← onBoard (inMemory (readRecord rxP))
  match ← onBoard (inMemory (ackPacket A r.srcAddress r.destAddress r.ackId r.sequenceNumber)) with
  | none => Prog.stop .undefined
  | some ack =>
    let ret ← onBoard (sx1278SendPacket A d ack false)
    let s ← Prog.read
    if ret ≠ .sxOk then return (.unsent (packetAt s.host.memory rxP) ret, handler)
    let (ret, handler) ← onHost (rxPacketHandler A app handler (some rxP))
    return (.handled (packetAt s.host.memory rxP) ret, handler)

def cleanup (rxP pDesc : ℕ) : Prog (Station σ υ) Unit := do
  onBoard (inMemory (freePacket rxP))
  onBoard (inMemory (free pDesc))

def rxRounds (rxP pDesc : ℕ) : ℕ → RxHandlerCtx → Prog (Station σ υ) (List RxRound × RxHandlerCtx)
  | 0, handler => return ([], handler)
  | rounds + 1, handler => do
    let (round, handler) ← rxRound A app d rxP handler
    match round with
    | .leave ret =>
      cleanup rxP pDesc
      return ([.leave ret], handler)
    | .unsent p ret =>
      cleanup rxP pDesc
      return ([.unsent p ret], handler)
    | round =>
      let (rest, handler) ← rxRounds rxP pDesc rounds handler
      return (round :: rest, handler)

def startRxLoop (rounds : ℕ) (handler : RxHandlerCtx) : Prog (Station σ υ) (List RxRound × RxHandlerCtx) := do
  let rxP ← onBoard (inMemory (mallocRxPacket A))
  let pDesc ← onBoard (inMemory (mallocBytes A 2048))
  let ret ← onBoard (onNode (onRadio (d.switchMode (modeLora ||| modeRxContinuous))))
  if ret ≠ .sxOk then do
    cleanup rxP pDesc
    return ([.leave ret], handler)
  rxRounds A app d rxP pDesc rounds handler

/-! ## The loop over values -/

def RxRound.Shows : RxRound → LoraNetworking.RxRound → Prop
  | .leave ret, .leave ret' => ret = ret'
  | .skip ret, .skip ret' => ret = ret'
  | .unsent _ ret, .leave ret' => ret = ret'
  | .handled p ret, .handled p' outcome => p = some p' ∧ ret = outcome.ret
  | _, _ => False

def RxRound.parsed : RxRound → Option Packet
  | .unsent p _ => p
  | .handled p _ => p
  | _ => none

def RxRound.leaves : RxRound → Bool
  | .leave _ => true
  | .unsent _ _ => true
  | _ => false

/-- What is lost while the packets `ps` are parsed over `p`: the ack of each of them, and each payload
that another packet is parsed over. -/
def lostBlocks : Packet → List Packet → ℕ
  | _, [] => 0
  | p, q :: ps => payloadBlocks [p] + 1 + lostBlocks q ps

/-- The loop holds the packet at `rx_p` and the buffer `p_desc`, the handler holds the captured packets,
and nobody holds the blocks of `lost`. -/
structure Listening (app : Application υ) (rxP pDesc : ℕ) (p : Packet) (payload : Option ℕ) (lost : List ℕ)
    (cs : List (Packet × Place)) (ctx : RxHandlerCtx) (arr : CapturedPacketArr) (h : Host υ) : Prop where
  received : Received h.memory p ⟨rxP, payload⟩
  captures : Captures app cs (rxP :: (payload.toList ++ pDesc :: lost)) ctx arr h

section Loop

variable {A app d} {s : Station σ υ} {rxP pDesc : ℕ} {p : Packet} {payload : Option ℕ} {lost : List ℕ}
  {cs : List (Packet × Place)} {ctx : RxHandlerCtx} {arr : CapturedPacketArr} {m : PacketHeap} {a : α}

lemma onBoard_lockstep {β : Type} {post : α → Board σ → β → Node σ → Prop} {x : Prog (Board σ) α}
    {r : Except Stop (β × Node σ)} (h : Lockstep post (x s.board) r) :
    Lockstep (fun a s' b n => ∃ u, post a u b n ∧ s' = s.withBoard u) (onBoard x s) r := Lockstep.zoomed h

lemma onRadio_lockstep (x : Prog σ α) (s : Station σ υ) :
    Lockstep (fun a s' a' n => a = a' ∧ s' = { s with node := n }) (onBoard (onNode (onRadio x)) s)
      (onRadio x s.node) := by
  refine (onBoard_lockstep (onNode_lockstep (onRadio x) s.board)).mono ?_
  rintro a _ a' n ⟨_, ⟨ha, rfl⟩, rfl⟩
  exact ⟨ha, rfl⟩

lemma onBoard_inMemory_run {x : Prog PacketHeap α} (hx : x s.host.memory = .ok (a, m)) :
    onBoard (inMemory x) s = .ok (a, { s with host := { s.host with memory := m } }) := by
  simp [onBoard, inMemory, Prog.zoom, Station.board, Station.withBoard, hx]

lemma onHost_run {x : Prog (Host υ) α} {h : Host υ} (hx : x s.host = .ok (a, h)) :
    onHost x s = .ok (a, { s with host := h }) := by
  simp [onHost, Prog.zoom, hx]

lemma Listening.parsed (hl : Listening app rxP pDesc p payload lost cs ctx arr s.host) :
    Lockstep (fun ret s' out n => ret = .sxOk ∧ out.1 = .sxOk ∧ s'.node = n ∧
        s'.host.sights = s.host.sights ∧ ∃ payload', Lies s'.host.memory out.2 ⟨rxP, payload'⟩ ∧
        Listening app rxP pDesc out.2 payload' (payload.toList ++ lost) cs ctx arr s'.host)
      (onBoard (readLastPacket A d rxP) s) (LoraNetworking.readLastPacket d s.node) := by
  have hacc : Accounts (app.owned s.host.app) (rxP :: (blocksOf cs ++ (payload.toList ++ pDesc :: lost)))
      s.host.memory := hl.captures.accounts.perm (by grind)
  refine (onBoard_lockstep (readLastPacket_lockstep (b := s.board) hacc)).mono ?_
  rintro ret _ out n ⟨b', ⟨hret, hout, hn, payload', hlies, hkeeps, hacc'⟩, rfl⟩
  refine ⟨hret, hout, hn, rfl, payload', hlies, .parsed hlies,
    hl.captures.frame (hkeeps.mono fun a ha => ?_) (hacc'.perm ?_)⟩
  · exact List.mem_append_left _ ha
  · grind

def RoundEnds (app : Application υ) (rxP pDesc : ℕ) (p : Packet) (lost : List ℕ) (h : Host υ)
    (out : RxRound × RxHandlerCtx) (s' : Station σ υ) (ref : LoraNetworking.RxRound × LoraNetworking.RxHandlerCtx)
    (n : Node σ) : Prop :=
  out.1.Shows ref.1 ∧ s'.node = n ∧ s'.host.sights = h.sights ++ ref.1.callbacks.map sight ∧
    ∃ payload' lost' cs' arr', ref.2 = out.2.valued arr' ∧
      Listening app rxP pDesc (out.1.parsed.getD p) payload' lost' cs' out.2 arr' s'.host ∧
      lost'.length = lost.length + lostBlocks p out.1.parsed.toList

lemma answer_lockstep {q : Packet} {h : Host υ} {lost₀ : List ℕ}
    (hlies : Lies s.host.memory q ⟨rxP, payload⟩)
    (hl : Listening app rxP pDesc q payload lost cs ctx arr s.host) (hsights : s.host.sights = h.sights)
    (hlost : lost.length = lost₀.length + payloadBlocks [p]) :
    Lockstep (RoundEnds app rxP pDesc p lost₀ h)
      ((do
        let r ← onBoard (inMemory (readRecord rxP))
        match ← onBoard (inMemory (ackPacket A r.srcAddress r.destAddress r.ackId r.sequenceNumber)) with
        | none => Prog.stop .undefined
        | some ack =>
          let ret ← onBoard (sx1278SendPacket A d ack false)
          let s ← Prog.read
          if ret ≠ .sxOk then return (.unsent (packetAt s.host.memory rxP) ret, ctx)
          let (ret, handler) ← onHost (rxPacketHandler A app ctx (some rxP))
          return (.handled (packetAt s.host.memory rxP) ret, handler) :
        Prog (Station σ υ) (RxRound × RxHandlerCtx)) s)
      ((match LoraNetworking.ackPacket q.srcAddress q.destAddress q.ackId q.sequenceNumber with
        | none => Prog.stop .undefined
        | some ack => do
          let ret ← LoraNetworking.sx1278SendPacket d ack false
          if ret ≠ .sxOk then return (.leave ret, ctx.valued arr)
          let (outcome, handler) := LoraNetworking.rxPacketHandler (ctx.valued arr) (some q)
          return (.handled q outcome, handler) :
        Prog (Node σ) (LoraNetworking.RxRound × LoraNetworking.RxHandlerCtx)) s.node) := by
  obtain ⟨m₂, hrun₂, hplaced⟩ := ackPacket_placed (A := A) hl.captures.accounts.live q.srcAddress
    q.destAddress q.ackId q.sequenceNumber
  set ack := A.pick s.host.memory
  set h₂ : Host υ := { s.host with memory := m₂ } with hh₂
  have hc₂ : Captures app cs (rxP :: (payload.toList ++ pDesc :: (ack :: lost))) ctx arr h₂ := by
    refine hl.captures.frame hplaced.keeps.left
      ((hplaced.accounts _ hl.captures.accounts).perm ?_)
    simp only [Place.blocks, Option.toList_none]
    grind
  have hlies₂ : Lies m₂ q ⟨rxP, payload⟩ := hlies.keeps <| hplaced.keeps.mono fun a ha => by
    simp only [Place.blocks, List.mem_cons, List.mem_append] at ha ⊢
    exact Or.inr (ha.imp_right Or.inl)
  have hcount : (ack :: lost).length = lost₀.length + lostBlocks p [q] := by
    rw [List.length_cons, hlost, lostBlocks, lostBlocks]
    omega
  rw [LoraNetworking.ackPacket_eq]
  refine .left (onBoard_inMemory_run (readRecord_lies hlies)) (.left (onBoard_inMemory_run hrun₂) ?_)
  refine .bind (onBoard_lockstep (sx1278SendPacket_lockstep (b := ⟨s.node, m₂⟩) hplaced.lies false)) ?_
  rintro ret _ _ n ⟨_, ⟨rfl, rfl⟩, rfl⟩
  have hat : packetAt m₂ rxP = some q := packetAt_lies hlies₂
  refine .left (Prog.read_apply _) (.ite (fun _ => .done ?_) fun _ => ?_)
  · change RoundEnds app rxP pDesc p lost₀ h (.unsent (packetAt m₂ rxP) ret, ctx) ⟨n, h₂⟩
      (.leave ret, ctx.valued arr) n
    rw [hat]
    exact ⟨rfl, rfl, hsights.trans (List.append_nil _).symm, payload, ack :: lost, cs, arr, rfl,
      ⟨.parsed hlies₂, hc₂⟩, hcount⟩
  · obtain ⟨ctx', h', cs', arr', hrun, hvalued, hc', hkeeps, hsights'⟩ :=
      rxPacketHandler_simulates (A := A) (h := h₂) hlies₂ hc₂
    refine .left (onHost_run (s := ⟨n, h₂⟩) hrun) (.done ?_)
    change RoundEnds app rxP pDesc p lost₀ h (.handled (packetAt m₂ rxP) _, ctx') ⟨n, h'⟩ _ n
    rw [hat]
    refine ⟨⟨rfl, rfl⟩, rfl, ?_, payload, ack :: lost, cs', arr', hvalued, ⟨.parsed (hlies₂.keeps ?_), hc'⟩,
      hcount⟩
    · exact hsights'.trans (congrArg (· ++ _) hsights)
    · exact hkeeps.mono fun a ha => by
        simp only [Place.blocks, List.mem_cons, List.mem_append] at ha ⊢
        exact ha.imp_right Or.inl

lemma rxRound_lockstep (hl : Listening app rxP pDesc p payload lost cs ctx arr s.host) :
    Lockstep (RoundEnds app rxP pDesc p lost s.host) (rxRound A app d rxP ctx s)
      (LoraNetworking.rxRound d (ctx.valued arr) s.node) := by
  have hquiet : ∀ (out : RxRound) (ref : LoraNetworking.RxRound) (n : Node σ), out.Shows ref →
      out.parsed = none → ref.callbacks = [] → RoundEnds app rxP pDesc p lost s.host (out, ctx)
        { s with node := n } (ref, ctx.valued arr) n := by
    intro out ref n hshows hparsed hcallbacks
    refine ⟨hshows, rfl, by simp [hcallbacks], payload, lost, cs, arr, rfl, ?_, ?_⟩
    · rwa [hparsed]
    · rw [hparsed]
      rfl
  refine .bind (onRadio_lockstep _ _) ?_
  rintro ret _ _ n ⟨rfl, rfl⟩
  refine .ite (fun _ => .done (hquiet (.leave ret) (.leave ret) n rfl rfl rfl)) fun _ => ?_
  refine .bind (onRadio_lockstep _ _) ?_
  rintro ret _ _ n ⟨rfl, rfl⟩
  refine .ite (fun _ => .done (hquiet (.leave ret) (.leave ret) n rfl rfl rfl)) fun _ => ?_
  refine .bind (onRadio_lockstep _ _) ?_
  rintro ret _ _ n ⟨rfl, rfl⟩
  refine .ite (fun _ => .done (hquiet (.skip ret) (.skip ret) n rfl rfl rfl)) fun _ => ?_
  refine .bind (Listening.parsed (s := { s with node := n }) hl) ?_
  rintro _ s₁ ⟨_, q⟩ _ ⟨rfl, rfl, rfl, hsights, payload', hlies, hl₁⟩
  exact answer_lockstep hlies hl₁ hsights (by rw [List.length_append, hl.received.payload_length]; omega)

lemma cleanup_run (hl : Listening app rxP pDesc p payload lost cs ctx arr s.host) :
    ∃ m, cleanup rxP pDesc s = .ok ((), { s with host := { s.host with memory := m } }) ∧
      Captures app cs lost ctx arr { s.host with memory := m } := by
  obtain ⟨m₁, hrun, hkeeps, hacc⟩ := freePacket_run hl.received.payloadPointer (l := pDesc :: (blocksOf cs ++ lost))
    (hl.captures.accounts.perm (by simp only [Place.blocks]; grind))
  have hnotMem := (List.nodup_cons.mp hacc.nodup).1
  refine ⟨m₁.erase pDesc, (Prog.bind_of_ok (onBoard_inMemory_run hrun)).trans
    (onBoard_inMemory_run (free_of_mem (hacc.live pDesc List.mem_cons_self))), hl.captures.frame ?_ hacc.free⟩
  have h₁ : Keeps (blocksOf cs) s.host.memory m₁ := hkeeps.mono fun a ha => by simp [ha]
  exact h₁.trans (keeps_erase fun ha => hnotMem (List.mem_append_left _ ha))

def RunEnds (app : Application υ) (rxP pDesc : ℕ) (p : Packet) (lost : List ℕ) (h : Host υ)
    (out : List RxRound × RxHandlerCtx) (s' : Station σ υ)
    (ref : List LoraNetworking.RxRound × LoraNetworking.RxHandlerCtx) (n : Node σ) : Prop :=
  List.Forall₂ RxRound.Shows out.1 ref.1 ∧ s'.node = n ∧
    s'.host.sights = h.sights ++ (ref.1.flatMap LoraNetworking.RxRound.callbacks).map sight ∧
    ∃ lost' cs' arr', ref.2 = out.2.valued arr' ∧
      lost'.length = lost.length + lostBlocks p (out.1.filterMap RxRound.parsed) ∧
      if out.1.any RxRound.leaves then Captures app cs' lost' out.2 arr' s'.host
      else ∃ payload', Listening app rxP pDesc ((out.1.filterMap RxRound.parsed).getLastD p) payload' lost' cs'
        out.2 arr' s'.host

lemma RunEnds.cons {round : RxRound} {ref : LoraNetworking.RxRound} {rest : List RxRound}
    {refs : List LoraNetworking.RxRound} {ctx' : RxHandlerCtx} {handler : LoraNetworking.RxHandlerCtx} {h : Host υ}
    {s₁ : Station σ υ} {n : Node σ} {lost₁ : List ℕ} (hshows : round.Shows ref) (hstays : round.leaves = false)
    (hsights : s₁.host.sights = h.sights ++ ref.callbacks.map sight)
    (hlost : lost₁.length = lost.length + lostBlocks p round.parsed.toList)
    (hrest : RunEnds app rxP pDesc (round.parsed.getD p) lost₁ s₁.host (rest, ctx') s (refs, handler) n) :
    RunEnds app rxP pDesc p lost h (round :: rest, ctx') s (ref :: refs, handler) n := by
  obtain ⟨hall, hn, hsights', lost', cs', arr', hvalued, hlost', hends⟩ := hrest
  refine ⟨.cons hshows hall, hn, ?_, lost', cs', arr', hvalued, ?_, ?_⟩
  · rw [hsights', hsights, List.flatMap_cons, List.map_append, List.append_assoc]
  · cases hp : round.parsed with
    | none => simpa [List.filterMap_cons, hp, lostBlocks, hlost] using hlost'
    | some q =>
      rw [hp] at hlost hlost'
      rw [List.filterMap_cons, hp, lostBlocks]
      simp only [Option.toList_some, lostBlocks, Option.getD_some] at hlost hlost'
      omega
  · rw [List.any_cons, hstays, Bool.false_or]
    cases hp : round.parsed with
    | none => simpa [List.filterMap_cons, hp] using hends
    | some q =>
      rw [hp] at hends
      rwa [List.filterMap_cons, hp, List.getLastD_cons]

lemma rxRounds_lockstep (rounds : ℕ) (hl : Listening app rxP pDesc p payload lost cs ctx arr s.host) :
    Lockstep (RunEnds app rxP pDesc p lost s.host) (rxRounds A app d rxP pDesc rounds ctx s)
      (LoraNetworking.rxRounds d rounds (ctx.valued arr) s.node) := by
  induction rounds generalizing s p payload lost cs ctx arr with
  | zero =>
    exact .done ⟨.nil, rfl, (List.append_nil _).symm, lost, cs, arr, rfl, rfl, payload, hl⟩
  | succ rounds ih =>
    refine .bind (rxRound_lockstep hl) ?_
    rintro ⟨round, ctx'⟩ s₁ ⟨ref, _⟩ _ ⟨hshows, rfl, hsights, payload', lost', cs', arr', rfl, hl', hlost'⟩
    have hstop : round.leaves = true → ref.callbacks = [] → Lockstep (RunEnds app rxP pDesc p lost s.host)
        ((do cleanup rxP pDesc; return ([round], ctx') : Prog (Station σ υ) (List RxRound × RxHandlerCtx)) s₁)
        (.ok (([ref], ctx'.valued arr'), s₁.node)) := by
      intro hleaves hnone
      obtain ⟨m, hrun, hc⟩ := cleanup_run hl'
      refine .left hrun (.done ⟨.cons hshows .nil, rfl, ?_, lost', cs', arr', rfl, ?_, ?_⟩)
      · simpa [hnone] using hsights
      · have hone : [round].filterMap RxRound.parsed = round.parsed.toList := by
          cases hp : round.parsed <;> simp [hp]
        rwa [hone]
      · simpa [hleaves] using hc
    have hgo : round.leaves = false → Lockstep (RunEnds app rxP pDesc p lost s.host)
        ((rxRounds A app d rxP pDesc rounds ctx' >>= fun out => pure (round :: out.1, out.2)) s₁)
        ((LoraNetworking.rxRounds d rounds (ctx'.valued arr') >>= fun out => pure (ref :: out.1, out.2)) s₁.node) := by
      intro hstays
      refine .bind (ih hl') ?_
      rintro ⟨rest, ctx₂⟩ s₂ ⟨refs, handler⟩ n hrest
      exact .done (.cons hshows hstays hsights hlost' hrest)
    cases round <;> cases ref <;> first | exact hshows.elim | skip
    case leave.leave => exact hstop rfl rfl
    case unsent.leave => exact hstop rfl rfl
    case skip.skip => exact hgo rfl
    case handled.handled => exact hgo rfl

lemma lostBlocks_eq (p : Packet) (ps : List Packet) :
    lostBlocks p ps = ps.length + payloadBlocks (p :: ps).dropLast := by
  induction ps generalizing p with
  | nil => rfl
  | cons q ps ih =>
    rw [lostBlocks, ih q, List.length_cons, List.dropLast_cons_cons, payloadBlocks_cons p (q :: ps).dropLast]
    omega

lemma lostBlocks_held (p : Packet) (ps : List Packet) :
    lostBlocks p ps + payloadBlocks [ps.getLastD p] = ps.length + payloadBlocks (p :: ps) := by
  induction ps generalizing p with
  | nil => rfl
  | cons q ps ih =>
    rw [lostBlocks, List.getLastD_cons, List.length_cons, payloadBlocks_cons p (q :: ps)]
    have hrest := ih q
    omega

lemma startRxLoop_lockstep (rounds : ℕ) {n : Node σ} {h : Host υ} (hc : Captures app cs [] ctx arr h) :
    ∃ rxP pDesc, Lockstep (RunEnds app rxP pDesc mallocPacket [] h) (startRxLoop A app d rounds ctx ⟨n, h⟩)
      (LoraNetworking.startRxLoop d rounds (ctx.valued arr) n) := by
  obtain ⟨m₁, hrun₁, hfresh, hkeeps₁, haccounts₁⟩ := mallocRxPacket_run A hc.accounts.live
  set rxP := A.pick h.memory
  have hacc₁ := haccounts₁ _ hc.accounts
  set pDesc := A.pick m₁
  set m₂ := m₁.insert pDesc (.bytes (List.replicate 2048 none)) with hm₂
  have hkeeps₂ := keeps_malloc A hacc₁.live (.bytes (List.replicate 2048 none))
  have hl : Listening app rxP pDesc mallocPacket none [] cs ctx arr { h with memory := m₂ } := by
    refine ⟨hfresh.keeps (hkeeps₂.mono (by simp [Place.blocks])), hc.frame ?_ ?_⟩
    · exact (hkeeps₁.trans hkeeps₂.tail).mono (by simp)
    · refine (hacc₁.malloc A _).perm ?_
      simp only [Option.toList_none]
      grind
  refine ⟨rxP, pDesc, .left (onBoard_inMemory_run hrun₁) (.left (onBoard_inMemory_run (mallocBytes_apply 2048)) ?_)⟩
  refine .bind (onRadio_lockstep _ _) ?_
  rintro ret _ _ n ⟨rfl, rfl⟩
  refine .ite (fun _ => ?_) fun _ => rxRounds_lockstep (s := ⟨n, { h with memory := m₂ }⟩) rounds hl
  obtain ⟨m₃, hrun₃, hc₃⟩ := cleanup_run (s := ⟨n, { h with memory := m₂ }⟩) hl
  exact .left hrun₃ (.done ⟨.cons rfl .nil, rfl, (List.append_nil _).symm, [], cs, arr, rfl, rfl, hc₃⟩)

/-- The loop on the heap returns what the loop on values returns, shows the application what that one
shows it, and stops early only where that one does: no round reads a block that was freed or not
written, and no block is freed twice, wherever the allocator puts the blocks and whatever the application
does with what it is given. -/
theorem receive_loop_on_heap (hc : Captures app cs [] ctx arr s.host) (rounds : ℕ) :
    Lockstep (fun out s' ref n => List.Forall₂ RxRound.Shows out.1 ref.1 ∧ s'.node = n ∧
        (∃ arr', ref.2 = out.2.valued arr') ∧
        s'.host.sights = s.host.sights ++ (ref.1.flatMap LoraNetworking.RxRound.callbacks).map sight)
      (startRxLoop A app d rounds ctx s) (LoraNetworking.startRxLoop d rounds (ctx.valued arr) s.node) := by
  obtain ⟨rxP, pDesc, hrun⟩ := startRxLoop_lockstep (A := A) (d := d) rounds hc
  refine hrun.mono ?_
  rintro out s' ref n ⟨hall, hn, hsights, lost, cs', arr', hvalued, -⟩
  exact ⟨hall, hn, ⟨arr', hvalued⟩, hsights⟩

theorem receive_loop_on_heap_command :
    let s : Station Mailbox Unit := ⟨⟨⟨[encode ⟨1, 2, 7, 0, 1, [65], rfl⟩], []⟩, zeroBuffer⟩, ⟨∅, (), []⟩⟩
    ∃ out s' ref n, startRxLoop (.above Cell) freeing mailbox.driver 1 (rxHandlerInit 1 2) s = .ok (out, s') ∧
      LoraNetworking.startRxLoop mailbox.driver 1 (LoraNetworking.rxHandlerInit 1 2) s.node = .ok (ref, n) ∧
      List.Forall₂ RxRound.Shows out.1 ref.1 ∧ s'.host.sights = [.command (some ⟨1, 2, 7, 0, 1, [65], rfl⟩)] := by
  intro s
  obtain ⟨out, s', hrun, hseen⟩ := Prog.returns (x := startRxLoop (.above Cell) freeing mailbox.driver 1
    (rxHandlerInit 1 2)) (s := s) (fun _ s' => s'.host.sights = [.command (some ⟨1, 2, 7, 0, 1, [65], rfl⟩)])
    (by decide +kernel)
  have hc : Captures freeing [] [] (rxHandlerInit 1 2) (Vector.replicate _ none) s.host :=
    Captures.fresh 1 2 accounts_empty
  obtain ⟨ref, n, href, hall, -⟩ := (receive_loop_on_heap (A := .above Cell) (d := mailbox.driver) hc 1).of_ok hrun
  exact ⟨out, s', ref, n, hrun, href, hall, hseen⟩

/-- The live blocks that are not the application's own, after any number of rounds. -/
theorem receive_loop_ledger (hc : Captures app cs [] ctx arr s.host) {rounds : ℕ} {rs : List RxRound}
    {ctx' : RxHandlerCtx} {s' : Station σ υ} (hrun : startRxLoop A app d rounds ctx s = .ok ((rs, ctx'), s')) :
    (s'.host.memory.keys \ app.owned s'.host.app).card =
      2 * ctx'.capturedN + ((rs.filterMap RxRound.parsed).length +
        if rs.any RxRound.leaves then payloadBlocks (rs.filterMap RxRound.parsed).dropLast
        else 2 + payloadBlocks (rs.filterMap RxRound.parsed)) := by
  obtain ⟨rxP, pDesc, hlock⟩ := startRxLoop_lockstep (A := A) (d := d) rounds hc
  obtain ⟨ref, n, -, -, -, -, lost, cs', arr', -, hlost, hends⟩ := hlock.of_ok hrun
  set ps := rs.filterMap RxRound.parsed
  rw [List.length_nil, Nat.zero_add] at hlost
  have hfresh : payloadBlocks [mallocPacket] = 0 := rfl
  split_ifs with hleft
  · rw [if_pos hleft] at hends
    have hlost' : lost.length = ps.length + payloadBlocks ps.dropLast := by
      rw [hlost, lostBlocks_eq]
      cases ps with
      | nil => rfl
      | cons p ps =>
        rw [List.dropLast_cons_cons, payloadBlocks_cons mallocPacket (p :: ps).dropLast, hfresh, Nat.zero_add]
    rw [hends.accounts.card, List.length_append, hends.blocks_length, hlost']
  · rw [if_neg hleft] at hends
    obtain ⟨payload', hl⟩ := hends
    have hc' := hl.captures
    have hheld : payload'.toList.length = payloadBlocks [ps.getLastD mallocPacket] := hl.received.payload_length
    have hall := lostBlocks_held mallocPacket ps
    rw [payloadBlocks_cons mallocPacket ps, hfresh, Nat.zero_add] at hall
    rw [hc'.accounts.card, List.length_append, hc'.blocks_length]
    simp only [List.length_cons, List.length_append]
    omega

theorem receive_loop_ledger_command :
    let s : Station Mailbox Unit := ⟨⟨⟨[encode ⟨1, 2, 7, 0, 1, [65], rfl⟩], []⟩, zeroBuffer⟩, ⟨∅, (), []⟩⟩
    ∃ out s', startRxLoop (.above Cell) freeing mailbox.driver 1 (rxHandlerInit 1 2) s = .ok (out, s') ∧
      (s'.host.memory.keys \ freeing.owned s'.host.app).card = 4 := by
  intro s
  obtain ⟨⟨rs, ctx'⟩, s', hrun, hrs, hn⟩ := Prog.returns (x := startRxLoop (.above Cell) freeing mailbox.driver 1
    (rxHandlerInit 1 2)) (s := s) (fun out _ =>
      out.1 = [.handled (some ⟨1, 2, 7, 0, 1, [65], rfl⟩) .commandPacket] ∧ out.2.capturedN = 0)
    (by decide +kernel)
  have hc : Captures freeing [] [] (rxHandlerInit 1 2) (Vector.replicate _ none) s.host :=
    Captures.fresh 1 2 accounts_empty
  have hledger := receive_loop_ledger (A := .above Cell) (d := mailbox.driver) hc hrun
  obtain rfl : rs = _ := hrs
  obtain hn : ctx'.capturedN = 0 := hn
  rw [hn] at hledger
  exact ⟨_, s', hrun, hledger⟩

end Loop

end LoraNetworking.InMemory
