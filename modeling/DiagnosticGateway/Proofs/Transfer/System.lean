import Mathlib.Logic.Relation
import DiagnosticGateway.Forwarder
import DiagnosticGateway.Relay
import DiagnosticGateway.Proofs.IsoTp.Segmentation
import DiagnosticGateway.Proofs.IsoTp.SenderCalls

/-! # One message, step by step

A sender, a receiver and a forwarder that work on one message at the same time. The sender puts
frames on the bus and takes flow control out of the relay; the receiver takes the frames and answers
with flow control; the forwarder moves these answers into the relay. Each step belongs to one of the
three, and any of them that can take a step may take the next one. Both directions of the bus keep
everything, in order.
-/

namespace DiagnosticGateway

open Bus (Frame)
open IsoTp (Call FlowControl Link Phase Reassembly Receiver Receipt Sender maxMessage singleMax)

/-! ## The sender -/

namespace IsoTp

/-- How far a sender is with a segmented message. -/
inductive Stage where
  /-- It has not cleared the relay yet. -/
  | clearing
  /-- The first frame comes next. -/
  | opening
  /-- The first frame is out, or could not be sent. -/
  | underway (phase : Phase)

/-- Whether a sender can make its next call without a wait that finds the relay empty. -/
def Stage.Ready (relay : Relay) : Stage → Prop
  | .clearing => True
  | .opening => True
  | .underway (.awaiting _) => relay.frames ≠ []
  | .underway (.sending _ _) => True
  | .underway (.finished _) => False

namespace Sender

variable {σ : Type} {sender : Sender} {link : Link σ} {data : List UInt8}

/-- The stage after the next call of a sender, and what the call leaves. -/
def move (sender : Sender) (link : Link σ) (data : List UInt8) : Stage → σ → Stage × σ
  | .clearing, s => (.opening, link.clear s)
  | .opening, s =>
    match put link (Pci.firstFrame sender.id data.length data) s with
    | (.error fault, s) => (.underway (.finished (.error fault)), s)
    | (.ok (), s) => (.underway (.opened data), s)
  | .underway phase, s =>
    (.underway (sender.advance link phase s).1, (sender.advance link phase s).2)

def moves (sender : Sender) (link : Link σ) (data : List UInt8) : Nat → Stage → σ → Stage × σ
  | 0, stage, s => (stage, s)
  | n + 1, stage, s =>
    sender.moves link data n (sender.move link data stage s).1 (sender.move link data stage s).2

theorem moves_underway (n : Nat) :
    ∀ {phase s}, sender.moves link data n (.underway phase) s =
      (.underway (sender.steps link n phase s).1, (sender.steps link n phase s).2) := by
  induction n with
  | zero => intro phase s; rfl
  | succ n ih => intro phase s; exact ih

/-- To send a segmented message is to make moves, from the clearing of the relay to the end. -/
theorem exists_moves (large : singleMax < data.length) (small : data.length ≤ maxMessage) (s : σ) :
    ∃ n, sender.moves link data n .clearing s =
      (.underway (.finished (sender.send link data s).1), (sender.send link data s).2) := by
  rw [send_segmented large small]
  cases first : put link (Pci.firstFrame sender.id data.length data) (link.clear s) with
  | mk outcome s' =>
      cases outcome with
      | error fault => exact ⟨2, by simp only [moves, move, first]⟩
      | ok =>
          obtain ⟨n, ended⟩ := exists_steps sender link (.opened data) s'
          exact ⟨n + 2, by simp only [moves, move, first, moves_underway, ended]⟩

end Sender

/-! ## The receiver -/

/-- A receiver at work, with what has become of the frames so far. -/
structure Listener where
  pending : Option Reassembly
  completed : List (List UInt8)
  faults : List Fault

namespace Listener

/-- A receiver that has not taken a frame yet. -/
def fresh : Listener := ⟨none, [], []⟩

/-- Takes a frame, and gives the flow control that answers it. -/
def hear (receiver : Receiver) (listener : Listener) (frame : Frame) : Listener × List Frame :=
  match receiver.take listener.pending frame with
  | .error fault => (⟨none, listener.completed, listener.faults ++ [fault]⟩, [])
  | .ok ⟨.complete data, reply⟩ =>
    (⟨none, listener.completed ++ [data], listener.faults⟩, reply.toList)
  | .ok ⟨.partly state, reply⟩ =>
    (⟨some state, listener.completed, listener.faults⟩, reply.toList)

end Listener

end IsoTp

/-! ## All of them -/

namespace Transfer

open IsoTp (Listener Stage)

/-- Who takes part in the transfer of a segmented message. -/
structure Setup where
  sender : Sender
  receiver : Receiver
  forwarder : Forwarder
  data : List UInt8
  blockSize : UInt8
  separation : UInt8
  advertises : receiver.flowControl = .continueToSend blockSize separation
  sender_id_le : sender.id ≤ Bus.maxIdentifier
  receiver_id_le : receiver.id ≤ Bus.maxIdentifier
  /-- The forwarder listens to the receiver. -/
  response_id : forwarder.responseId = receiver.id
  large : singleMax < data.length
  small : data.length ≤ maxMessage

/-- What is on its way between the three. -/
structure Traffic where
  /-- The frames that the receiver has not taken, the oldest first. -/
  forth : List Frame
  /-- The answers that the forwarder has not read, the oldest first. -/
  back : List Frame
  relay : Relay

namespace Traffic

def link : Link Traffic where
  write frame traffic := (.ok (), { traffic with forth := traffic.forth ++ [frame] })
  wait timeout traffic :=
    ((traffic.relay.wait timeout).1, { traffic with relay := (traffic.relay.wait timeout).2 })
  clear traffic := { traffic with relay := traffic.relay.clear.2 }
  supply traffic := traffic.relay.frames.length
  supply_lt _ _ _ taken := Relay.length_frames_wait_lt taken

def wiring : Forwarder.Wiring Traffic where
  write frame traffic := (.ok (), { traffic with forth := traffic.forth ++ [frame] })
  push fc traffic := { traffic with relay := (traffic.relay.push fc).2 }
  deliver _ traffic := (.ok (), traffic)

end Traffic

/-- A state of the three and of what is between them. -/
structure State where
  stage : Stage
  listener : Listener
  /-- The message that the forwarder is reassembling for the tester. -/
  pending : Option Reassembly
  traffic : Traffic

/-- The start, with whatever the relay and the forwarder were left with. -/
def State.initial (relay : Relay) (pending : Option Reassembly) : State :=
  ⟨.clearing, .fresh, pending, ⟨[], [], relay⟩⟩

/-- A step of the sender, the receiver or the forwarder. -/
inductive Step (setup : Setup) : State → State → Prop where
  /-- The sender makes its next call. -/
  | sender {stage listener pending traffic stage' traffic'} :
    stage.Ready traffic.relay →
    setup.sender.move Traffic.link setup.data stage traffic = (stage', traffic') →
    Step setup ⟨stage, listener, pending, traffic⟩ ⟨stage', listener, pending, traffic'⟩
  /-- The receiver takes a frame and writes its answer. -/
  | receiver {stage listener pending frame forth back relay listener' answers} :
    listener.hear setup.receiver frame = (listener', answers) →
    Step setup ⟨stage, listener, pending, ⟨frame :: forth, back, relay⟩⟩
      ⟨stage, listener', pending, ⟨forth, back ++ answers, relay⟩⟩
  /-- The forwarder reads an answer. -/
  | forwarder {stage listener pending frame forth back relay pending' traffic'} :
    setup.forwarder.step Traffic.wiring pending (.ok (.frame frame)) ⟨forth, back, relay⟩ =
      (.ok pending', traffic') →
    Step setup ⟨stage, listener, pending, ⟨forth, frame :: back, relay⟩⟩
      ⟨stage, listener, pending', traffic'⟩

/-- The states that some order of steps leads to. -/
def Reachable (setup : Setup) (start s : State) : Prop := Relation.ReflTransGen (Step setup) start s

end Transfer

end DiagnosticGateway
