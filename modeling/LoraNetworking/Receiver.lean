import LoraNetworking.CommandInterleaving
import LoraNetworking.Sx127xRxUtils
import LoraNetworking.WorkingRadio

/-! A node that runs the receive loop on a radio that works: the loop is the handler, packet
by packet, and every packet is answered. -/

namespace LoraNetworking

open StateProg Transducer

structure Mailbox where
  inbox : List (List UInt8)
  outbox : List (List UInt8)

def mailbox : Medium Mailbox where
  transmit frame := Prog.update fun m => { m with outbox := m.outbox ++ [frame] }
  listen := id
  received m := m.inbox.head?
  take m := { m with inbox := m.inbox.tail }
  memory _ _ := 0

lemma rxRound_mailbox {p : Packet} (hmax : p.payloadLength.toNat ≤ payloadLengthMax)
    (handler : RxHandlerCtx) (frames out : List (List UInt8)) (buf : RxBuffer) :
    rxRound mailbox.driver handler ⟨⟨encode p :: frames, out⟩, buf⟩ =
      .ok ((.handled p (rxPacketHandler handler (some p)).1, (rxPacketHandler handler (some p)).2),
        ⟨⟨frames, out ++ [encode (ackFor p)]⟩, zeroBuffer⟩) := by
  have hsend : sx1278SendPacket mailbox.driver (ackFor p) false ⟨⟨frames, out⟩, zeroBuffer⟩ =
      .ok (.sxOk, ⟨⟨frames, out ++ [encode (ackFor p)]⟩, zeroBuffer⟩) :=
    Medium.sendPacket (ackFor_bounded p) rfl false
  rw [rxRound, Prog.bind_of_ok (onRadio_of_ok rfl), if_neg (not_not.mpr rfl),
    Prog.bind_of_ok (onRadio_of_ok rfl), if_neg (not_not.mpr rfl),
    Prog.bind_of_ok (onRadio_of_ok rfl), if_neg (not_not.mpr rfl),
    Prog.bind_of_ok (readLastPacket_frame hmax rfl rfl)]
  dsimp only
  rw [if_neg (not_not.mpr rfl), ackPacket_eq]
  exact (Prog.bind_of_ok hsend).trans rfl

structure Receiver where
  node : Node Mailbox
  handler : RxHandlerCtx
  callbacks : List Callback

def RxRound.callbacks : RxRound → List Callback
  | .leave _ => []
  | .skip _ => []
  | .handled _ outcome => outcome.callbacks

/-- One round of the loop on `frame`. The value is what the node sent meanwhile. -/
def hear (frame : List UInt8) : Prog Receiver (List (List UInt8)) := fun r =>
  match rxRound mailbox.driver r.handler { r.node with radio := ⟨[frame], []⟩ } with
  | .ok ((round, handler), node) =>
    .ok (node.radio.outbox, ⟨node, handler, r.callbacks ++ round.callbacks⟩)
  | .error e => .error e

structure Heard (ps : List Packet) (r r' : Receiver) : Prop where
  handler : r'.handler = run packetStep r.handler ps
  callbacks : r'.callbacks = r.callbacks ++ LoraNetworking.callbacks r.handler ps

lemma Heard.refl (r : Receiver) : Heard [] r r := ⟨rfl, by simp⟩

lemma Heard.trans {ps qs : List Packet} {r s t : Receiver} (h : Heard ps r s) (h' : Heard qs s t) :
    Heard (ps ++ qs) r t := by
  refine ⟨?_, ?_⟩
  · rw [h'.handler, h.handler, run_append]
  · rw [h'.callbacks, h.callbacks, h.handler, List.append_assoc, callbacks_append]

lemma hear_encode {p : Packet} (hmax : p.payloadLength.toNat ≤ payloadLengthMax) (r : Receiver) :
    ∃ r', hear (encode p) r = .ok ([encode (ackFor p)], r') ∧ Heard [p] r r' := by
  have hround := rxRound_mailbox hmax r.handler [] [] r.node.rxBuffer
  refine ⟨⟨⟨⟨[], [encode (ackFor p)]⟩, zeroBuffer⟩, (rxPacketHandler r.handler (some p)).2,
    r.callbacks ++ (rxPacketHandler r.handler (some p)).1.callbacks⟩, ?_, rfl, by simp⟩
  rw [hear, hround]
  rfl

end LoraNetworking
