import DiagnosticGateway.IsoTp.Pci

/-! # Reassembling messages

A receiver takes the frame that starts a message and, if that is a first frame, the consecutive
frames after it. Each step says what became of the message and which flow control frame, if any,
is to be written before the outcome counts: one after the first frame, and one after each full
block when a block size is advertised.
-/

namespace DiagnosticGateway.IsoTp

/-- A segmented message in progress. -/
structure Reassembly where
  total : Nat
  /-- The bytes received so far. -/
  received : List UInt8
  /-- The sequence number of the next frame. -/
  expected : UInt8
  /-- Consecutive frames since the last flow control frame. -/
  inBlock : UInt8
deriving Repr, DecidableEq

/-- What became of a message with the latest frame. -/
inductive Reception where
  | complete (data : List UInt8)
  | partly (state : Reassembly)
deriving Repr, DecidableEq

/-- A reception, and the frame that has to be written for it. -/
structure Receipt where
  reception : Reception
  reply : Option Bus.Frame
deriving DecidableEq

/-- The receiving side of one session. -/
structure Receiver where
  /-- The identifier for flow control frames. -/
  id : UInt16
  flowControl : FlowControl
  padding : UInt8
deriving Repr, DecidableEq

namespace Receiver

/-- The receipt that calls for a flow control frame. -/
def paced (receiver : Receiver) (state : Reassembly) : Except Fault Receipt := do
  let frame ← receiver.flowControl.toFrame receiver.id receiver.padding
  return ⟨.partly state, some frame⟩

/-- Takes the frame that starts a message. -/
def start (receiver : Receiver) (frame : Bus.Frame) : Except Fault Receipt := do
  match ← Pci.ofData frame.data with
  | .single data => return ⟨.complete data, none⟩
  | .first total data =>
    if total ≤ singleMax then throw (.invalidFirstLength total)
    else if data.length < firstData then throw (.invalidFrame .truncatedFirst)
    else receiver.paced ⟨total, data.take firstData, 1, 0⟩
  | other => throw (.unexpectedFrame .first other.kind)

/-- Takes a further frame of a message in progress. Bytes beyond the declared length are dropped.
Every fault ends the message. -/
def extend (receiver : Receiver) (state : Reassembly) (frame : Bus.Frame) :
    Except Fault Receipt := do
  match ← Pci.ofData frame.data with
  | .consecutive sequence data =>
    if sequence ≠ state.expected then throw (.sequenceMismatch state.expected sequence)
    let received := state.received ++ data.take (state.total - state.received.length)
    let expected := (state.expected + 1) % 16
    if state.total ≤ received.length then return ⟨.complete received, none⟩
    let blockSize := receiver.flowControl.blockSize
    if blockSize = 0 then return ⟨.partly ⟨state.total, received, expected, state.inBlock⟩, none⟩
    let inBlock := state.inBlock + 1
    if blockSize ≤ inBlock then receiver.paced ⟨state.total, received, expected, 0⟩
    else return ⟨.partly ⟨state.total, received, expected, inBlock⟩, none⟩
  | other => throw (.unexpectedFrame .consecutive other.kind)

end Receiver

end DiagnosticGateway.IsoTp
