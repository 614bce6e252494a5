import DiagnosticGateway.Config.Basic
import DiagnosticGateway.IsoTp.Receiver

/-! # From the bus to the tester

The forwarder reads the bus. It hands flow control to the relay and reassembles everything else
that comes on the response identifier into messages for the tester. `Forwarder.react` decides
what one event calls for; `Forwarder.step` carries it out, and `Forwarder.forward` does so for
one event after the other until something fails.

A fault in the content of a frame only drops the message in progress, and so does such a fault of
the bus when it is to take the gateway's own flow control.
-/

namespace DiagnosticGateway

open Doip (Address Message)
open IsoTp (FlowControl FrameKind Reassembly Receiver Receipt)

/-- The first byte that marks bytes as the positive response to a read request. -/
def readResponseMark : UInt8 := 0x62

/-- The bytes of an ECU as the tester gets them: a response, which starts with `40` to `7F`, as it
is, and anything else marked as the response to a read request. -/
def wrapResponse : List UInt8 → List UInt8
  | b :: rest => if 0x40 ≤ b ∧ b ≤ 0x7F then b :: rest else readResponseMark :: b :: rest
  | [] => [readResponseMark]

/-- The side of a session that reads the bus. -/
structure Forwarder where
  /-- The identifier for the gateway's own flow control frames. -/
  requestId : UInt16
  /-- The identifier of the frames that are meant for the gateway. -/
  responseId : UInt16
  tester : Address
  ecu : Address
  /-- The protocol version of messages to the tester. -/
  version : UInt8
  /-- The flow control that is advertised. -/
  flowControl : FlowControl
  padding : UInt8
deriving Repr, DecidableEq

namespace Forwarder

def ofConfig (c : Config) : Forwarder where
  requestId := c.can.requestId
  responseId := c.can.responseId
  tester := c.addressing.tester
  ecu := c.addressing.ecu
  version := c.protocolVersion
  flowControl := .continueToSend c.isotp.rxBlockSize c.isotp.rxStMin
  padding := c.isotp.padding

/-- What a read of the bus gives. -/
inductive Event where
  | frame (frame : Bus.Frame)
  /-- Nothing within the time that a read waits. -/
  | timeout
deriving DecidableEq

/-- What an event calls for. -/
inductive Action where
  | none
  /-- Flow control goes to the relay. -/
  | relay (fc : FlowControl)
  /-- A frame goes to the bus. -/
  | write (frame : Bus.Frame)
  /-- A message goes to the tester. -/
  | deliver (message : Message)
deriving DecidableEq

def receiver (fw : Forwarder) : Receiver := ⟨fw.requestId, fw.flowControl, fw.padding⟩

/-- The message that brings the bytes of an ECU to the tester. -/
def message (fw : Forwarder) (data : List UInt8) : Message :=
  (Message.diagnostic fw.ecu fw.tester (wrapResponse data)).withVersion fw.version

/-- What a receipt calls for, and the message that is then in progress. -/
def settle (fw : Forwarder) (receipt : Receipt) : Action × Option Reassembly :=
  match receipt.reception, receipt.reply with
  | .complete data, _ => (.deliver (fw.message data), none)
  | .partly state, some frame => (.write frame, some state)
  | .partly state, none => (.none, some state)

/-- Hands a frame to the receiver. A frame that does not continue the message in progress starts
a new one. -/
def receive (fw : Forwarder) (pending : Option Reassembly) (frame : Bus.Frame) :
    Except Fault Receipt :=
  match pending with
  | some state =>
    if FrameKind.ofData frame.data = .consecutive then fw.receiver.extend state frame
    else fw.receiver.start frame
  | none => fw.receiver.start frame

/-- What an event calls for, and the message that is then in progress. -/
def react (fw : Forwarder) (pending : Option Reassembly) :
    Event → Except Fault (Action × Option Reassembly)
  | .timeout => .ok (.none, none)
  | .frame frame =>
    if frame.id ≠ fw.responseId then .ok (.none, pending)
    else if FrameKind.ofData frame.data = .flowControl then
      match FlowControl.ofData frame.data with
      | .ok fc => .ok (.relay fc, pending)
      | .error _ => .ok (.none, pending)
    else
      match fw.receive pending frame with
      | .ok receipt => .ok (fw.settle receipt)
      | .error fault => if fault.isFraming then .ok (.none, none) else .error fault

/-- What a forwarder works on, with a state of type `σ`. -/
structure Wiring (σ : Type) where
  write : Bus.Frame → σ → Except Fault Unit × σ
  /-- Hands flow control to the relay. -/
  push : FlowControl → σ → σ
  /-- Writes a message to the tester. -/
  deliver : Message → σ → Except Fault Unit × σ

variable {σ : Type}

def perform (wiring : Wiring σ) (action : Action) (s : σ) : Except Fault Unit × σ :=
  match action with
  | .none => (.ok (), s)
  | .relay fc => (.ok (), wiring.push fc s)
  | .write frame => wiring.write frame s
  | .deliver message => wiring.deliver message s

/-- What the outcome of an action leaves: the message in progress, nothing if the bus finds fault
with the content of a frame that it is to take, or the fault that ends the run. -/
def conclude (action : Action) (pending : Option Reassembly) :
    Except Fault Unit → Except Fault (Option Reassembly)
  | .ok () => .ok pending
  | .error fault =>
    match action with
    | .write _ => if fault.isFraming then .ok none else .error fault
    | _ => .error fault

/-- Handles one read of the bus. -/
def step (fw : Forwarder) (wiring : Wiring σ) (pending : Option Reassembly)
    (read : Except Fault Event) (s : σ) : Except Fault (Option Reassembly) × σ :=
  match read with
  | .error fault => (.error fault, s)
  | .ok event =>
    match fw.react pending event with
    | .error fault => (.error fault, s)
    | .ok (action, pending) =>
      let (outcome, s) := perform wiring action s
      (conclude action pending outcome, s)

/-- Handles reads of the bus until one fails or there are no more. -/
def forward (fw : Forwarder) (wiring : Wiring σ) (pending : Option Reassembly) :
    List (Except Fault Event) → σ → Except Fault (Option Reassembly) × σ
  | [], s => (.ok pending, s)
  | read :: rest, s =>
    match fw.step wiring pending read s with
    | (.error fault, s) => (.error fault, s)
    | (.ok pending, s) => fw.forward wiring pending rest s

end Forwarder

end DiagnosticGateway
