import LoraNetworking.CommandRouting
import LoraNetworking.DuplicateFilter

/-! Retransmissions and foreign traffic: a handler that also gets repetitions of the packets it
has just taken, null packets and packets for others does what it does without them. -/

namespace LoraNetworking

open Transducer

inductive Origin
  | own
  | noise
  | repetition
  deriving DecidableEq

abbrev Arrivals := List (Origin × Option Packet)

def Origin.isOwn (origin : Origin) : Bool := decide (origin = .own)

def Addressed (hostAddr remoteSrcAddr : UInt16) : Option Packet → Prop
  | none => False
  | some p => p.destAddress = hostAddr ∧ p.srcAddress = remoteSrcAddr

instance (hostAddr remoteSrcAddr : UInt16) (rxP : Option Packet) :
    Decidable (Addressed hostAddr remoteSrcAddr rxP) :=
  match rxP with
  | none => inferInstanceAs (Decidable False)
  | some _ => inferInstanceAs (Decidable (_ ∧ _))

/-- What was inserted is not addressed to the handler, or repeats the last addressed packet of the
sequence itself, which is `last` at first. -/
def Disturbed (hostAddr remoteSrcAddr : UInt16) : Option Packet → Arrivals → Prop
  | _, [] => True
  | last, (.own, rxP) :: arrivals =>
    Disturbed hostAddr remoteSrcAddr (if Addressed hostAddr remoteSrcAddr rxP then rxP else last) arrivals
  | last, (.noise, rxP) :: arrivals =>
    ¬ Addressed hostAddr remoteSrcAddr rxP ∧ Disturbed hostAddr remoteSrcAddr last arrivals
  | last, (.repetition, rxP) :: arrivals =>
    last.isSome = true ∧ rxP = last ∧ Disturbed hostAddr remoteSrcAddr last arrivals

def Unnoticed : Origin → RxOutcome → Prop
  | .own, _ => False
  | .noise, outcome => outcome.callbacks = []
  | .repetition, outcome => outcome = ⟨.packetRedundant, []⟩

structure Knows (hostAddr remoteSrcAddr : UInt16) (ctx : RxHandlerCtx) (last : Option Packet) : Prop where
  configured : ctx.configured = true
  host : ctx.hostAddr = hostAddr
  remote : ctx.remoteSrcAddr = remoteSrcAddr
  last : ∀ p, last = some p → Admits ctx p ∧ Repeats ctx p

section Calls

variable {hostAddr remoteSrcAddr : UInt16} {ctx : RxHandlerCtx} {last rxP : Option Packet}

lemma rxPacketHandler_filter (ctx : RxHandlerCtx) (rxP : Option Packet) :
    (rxPacketHandler ctx rxP).2.configured = ctx.configured ∧
      (rxPacketHandler ctx rxP).2.hostAddr = ctx.hostAddr ∧
      (rxPacketHandler ctx rxP).2.remoteSrcAddr = ctx.remoteSrcAddr := by
  have hstep := rxPacketHandler_step ctx rxP
  revert hstep
  generalize (rxPacketHandler ctx rxP).1 = outcome
  generalize (rxPacketHandler ctx rxP).2 = ctx'
  intro hstep
  cases hstep <;> exact ⟨rfl, rfl, rfl⟩

lemma Knows.admits_iff (h : Knows hostAddr remoteSrcAddr ctx last) (p : Packet) :
    Admits ctx p ↔ Addressed hostAddr remoteSrcAddr (some p) := by
  rw [Admits, h.host, h.remote]
  exact and_iff_right h.configured

lemma Knows.noise (h : Knows hostAddr remoteSrcAddr ctx last)
    (hnot : ¬ Addressed hostAddr remoteSrcAddr rxP) :
    (rxPacketHandler ctx rxP).2 = ctx ∧ (rxPacketHandler ctx rxP).1.callbacks = [] := by
  cases rxP with
  | none => simp [rxPacketHandler, h.configured]
  | some p =>
    obtain ⟨ret, -, hcall⟩ := rxPacketHandler_blocked fun ha => hnot ((h.admits_iff p).mp ha)
    rw [hcall]
    exact ⟨rfl, rfl⟩

lemma Knows.own (h : Knows hostAddr remoteSrcAddr ctx last) (rxP : Option Packet) :
    Knows hostAddr remoteSrcAddr (rxPacketHandler ctx rxP).2
      (if Addressed hostAddr remoteSrcAddr rxP then rxP else last) := by
  obtain ⟨hconfigured, hhost, hremote⟩ := rxPacketHandler_filter ctx rxP
  refine ⟨hconfigured.trans h.configured, hhost.trans h.host, hremote.trans h.remote, ?_⟩
  intro p hp
  split_ifs at hp with haddressed
  · subst hp
    have ha : Admits ctx p := (h.admits_iff p).mpr haddressed
    refine ⟨⟨hconfigured.trans ha.1, ?_, ?_⟩, repeats_after_admitted ha⟩
    · rw [hhost]
      exact ha.2.1
    · rw [hremote]
      exact ha.2.2
  · rw [(h.noise haddressed).1]
    exact h.last p hp

lemma Knows.inert {arrivals : Arrivals} (h : Knows hostAddr remoteSrcAddr ctx last)
    (hd : Disturbed hostAddr remoteSrcAddr last arrivals) :
    Inert rxPacketHandler Origin.isOwn Unnoticed ctx arrivals := by
  induction arrivals generalizing ctx last with
  | nil => trivial
  | cons arrival arrivals ih =>
    obtain ⟨origin, rxP⟩ := arrival
    cases origin with
    | own => exact ih (h.own rxP) hd
    | noise =>
      obtain ⟨hnot, hrest⟩ := hd
      obtain ⟨hsame, hquiet⟩ := h.noise hnot
      exact ⟨hsame, hquiet, ih h hrest⟩
    | repetition =>
      obtain ⟨hsome, rfl, hrest⟩ := hd
      obtain ⟨p, rfl⟩ := Option.isSome_iff_exists.mp hsome
      obtain ⟨ha, hr⟩ := h.last p rfl
      have hcall := rxPacketHandler_redundant ha hr
      exact ⟨congrArg Prod.snd hcall, congrArg Prod.fst hcall, ih h hrest⟩

end Calls

lemma Unnoticed.callbacks (origin : Origin) (outcome : RxOutcome) (h : Unnoticed origin outcome) :
    outcome.callbacks = [] := by
  cases origin with
  | own => exact h.elim
  | noise => exact h
  | repetition =>
    rw [h]

theorem retransmissions_invisible (hostAddr remoteSrcAddr : UInt16) (ops : List HandlerOp)
    (arrivals : Arrivals) :
    let ctx := run handlerStep (rxHandlerInit hostAddr remoteSrcAddr) ops
    let w := kept Origin.isOwn arrivals
    let w' := arrivals.map Prod.snd
    Disturbed ctx.hostAddr ctx.remoteSrcAddr none arrivals →
      (outputs rxPacketHandler ctx w').flatMap RxOutcome.callbacks =
          (outputs rxPacketHandler ctx w).flatMap RxOutcome.callbacks ∧
        ((arrivals.zip (outputs rxPacketHandler ctx w')).filter fun x => x.1.1.isOwn).map Prod.snd =
          outputs rxPacketHandler ctx w ∧
        run rxPacketHandler ctx w' = run rxPacketHandler ctx w ∧
        ∀ x ∈ arrivals.zip (outputs rxPacketHandler ctx w'), x.1.1 = .repetition →
          x.2 = ⟨.packetRedundant, []⟩ := by
  intro ctx w w' hd
  have hknows : Knows ctx.hostAddr ctx.remoteSrcAddr ctx none :=
    ⟨(between_run hostAddr remoteSrcAddr ops).configured, rfl, rfl, by simp⟩
  have hinert := hknows.inert hd
  refine ⟨hinert.flatMap_eq Unnoticed.callbacks, hinert.outputs_eq, hinert.run_eq, ?_⟩
  intro x hx horigin
  have hquiet := hinert.quiet x hx (by rw [horigin]; rfl)
  rw [horigin] at hquiet
  exact hquiet

theorem retransmissions_invisible_burst :
    let first := some (emptyPacket 1 2 5 0)
    let data : Option Packet := some ⟨1, 2, 5, 1, 1, [65], rfl⟩
    let last := some (emptyPacket 1 2 5 255)
    let arrivals : Arrivals := [(.noise, none), (.own, first), (.repetition, first), (.own, data),
      (.noise, some (emptyPacket 3 2 5 2)), (.repetition, data), (.own, last), (.repetition, last)]
    run rxPacketHandler (rxHandlerInit 1 2) (arrivals.map Prod.snd) =
      run rxPacketHandler (rxHandlerInit 1 2) [first, data, last] := by
  intro first data last arrivals
  have hd : Disturbed 1 2 none arrivals :=
    ⟨id, rfl, rfl, by decide, rfl, rfl, rfl, rfl, trivial⟩
  exact (retransmissions_invisible 1 2 [] arrivals hd).2.2.1

end LoraNetworking
