import DiagnosticGateway.Bench.Ecu
import DiagnosticGateway.IsoTp.Receiver
import DiagnosticGateway.IsoTp.Sender
import DiagnosticGateway.Relay

/-! # Senders and receivers on a scripted bus

A bus on which given writes fail, by their number, and the rigs that put a receiver or a sender
on it. In the sender's rig flow control reaches the relay while a frame is being written.
-/

namespace DiagnosticGateway.Bench

open Bus (Frame)
open IsoTp (Link Reassembly Receiver Reception Sender)

/-- A bus whose writes fail by a script. -/
structure ScriptedBus where
  /-- The numbers of the writes that fail, counted from zero. -/
  failing : List Nat
  /-- The number of writes so far. -/
  attempts : Nat := 0
  /-- The frames whose writes did not fail. -/
  written : List Frame := []
deriving DecidableEq

def ScriptedBus.write (bus : ScriptedBus) (frame : Frame) : Except Fault Unit × ScriptedBus :=
  if bus.attempts ∈ bus.failing then
    (.error busFailure, { bus with attempts := bus.attempts + 1 })
  else
    (.ok (), { bus with attempts := bus.attempts + 1, written := bus.written ++ [frame] })

/-! ### Receiving -/

/-- A frame for a receiver. -/
inductive Feed where
  | start (frame : Frame)
  | extend (frame : Frame)
deriving DecidableEq

/-- What became of a frame for a receiver. -/
inductive FeedResult where
  | outcome (result : Except Fault Reception)
  /-- There was no message in progress. -/
  | noState

/-- A receiver at work. -/
structure ReceiverRig where
  receiver : Receiver
  bus : ScriptedBus
  pending : Option Reassembly := none
deriving DecidableEq

namespace ReceiverRig

/-- Writes the frame that a receipt asks for, and keeps the message in progress. -/
def settle (rig : ReceiverRig) (receipt : Except Fault IsoTp.Receipt) :
    FeedResult × ReceiverRig :=
  let done := { rig with pending := none }
  match receipt with
  | .error fault => (.outcome (.error fault), done)
  | .ok receipt =>
    let (outcome, bus) :=
      match receipt.reply with
      | some frame => rig.bus.write frame
      | none => (.ok (), rig.bus)
    match outcome, receipt.reception with
    | .error fault, _ => (.outcome (.error fault), { done with bus })
    | .ok (), .complete data => (.outcome (.ok (.complete data)), { done with bus })
    | .ok (), .partly state =>
      (.outcome (.ok (.partly state)), { done with bus, pending := some state })

/-- Feeds a frame. Every frame takes the message in progress away; one that is still in progress
afterwards is put back. -/
def feed (rig : ReceiverRig) : Feed → FeedResult × ReceiverRig
  | .start frame => rig.settle (rig.receiver.start frame)
  | .extend frame =>
    match rig.pending with
    | none => (.noState, rig)
    | some state => rig.settle (rig.receiver.extend state frame)

end ReceiverRig

/-! ### Sending -/

/-- A sender's bus and relay, and what reaches the relay during each write. -/
structure SenderRig where
  bus : ScriptedBus
  relay : Relay
  /-- The events during each successful write still to come. -/
  script : List (List Relay.Event)
deriving DecidableEq

namespace SenderRig

/-- Writes a frame; if the write succeeds, the events scripted for it happen. -/
def write (rig : SenderRig) (frame : Frame) : Except Fault Unit × SenderRig :=
  match rig.bus.write frame with
  | (.error fault, bus) => (.error fault, { rig with bus })
  | (.ok (), bus) =>
    (.ok (), ⟨bus, (rig.script.headD []).foldl Relay.after rig.relay, rig.script.drop 1⟩)

def link : Link SenderRig where
  write frame rig := rig.write frame
  wait timeout rig :=
    let (outcome, relay) := rig.relay.wait timeout
    (outcome, { rig with relay })
  clear rig := { rig with relay := rig.relay.clear.2 }
  supply rig := rig.relay.frames.length
  supply_lt _ _ _ h := Relay.length_frames_wait_lt h

/-- Sends a message. The answer holds the frames that this message put on the bus. -/
def send (rig : SenderRig) (sender : Sender) (data : List UInt8) :
    Except Fault Unit × List Frame × SenderRig :=
  let (outcome, after) := sender.send link data rig
  (outcome, after.bus.written.drop rig.bus.written.length, after)

end SenderRig

end DiagnosticGateway.Bench
