import DiagnosticGateway.Bus.Frame

/-! # Flow control

A receiver paces a segmented message with flow control: a status, the number of frames that may
follow before the next flow control, and the least gap between them.
-/

namespace DiagnosticGateway.IsoTp

/-- The raw byte that stands for the least gap between consecutive frames. -/
structure SeparationTime where
  raw : UInt8
deriving Repr, DecidableEq

/-- The gap that a byte stands for: up to `7F` milliseconds, `F1` to `F9` hundreds of
microseconds, and the longest of them for every other value. -/
def SeparationTime.span (t : SeparationTime) : Span :=
  let n := t.raw.toNat
  if n ≤ 0x7F then .ofMillis n
  else if 0xF1 ≤ n ∧ n ≤ 0xF9 then .ofMicros ((n - 0xF0) * 100)
  else .ofMillis 0x7F

/-- What a flow control frame says. -/
structure FlowControl where
  status : FlowStatus
  /-- Frames in a block; zero sets no limit. -/
  blockSize : UInt8
  separation : SeparationTime
deriving Repr, DecidableEq

namespace FlowControl

/-- Clearance for the next block. -/
def continueToSend (blockSize separation : UInt8) : FlowControl :=
  ⟨.continueToSend, blockSize, ⟨separation⟩⟩

/-- A request to wait. -/
def wait : FlowControl := ⟨.wait, 0, ⟨0⟩⟩

/-- A refusal for want of room. -/
def overflow : FlowControl := ⟨.overflow, 0, ⟨0⟩⟩

def toBytes (fc : FlowControl) : List UInt8 :=
  [UInt8.ofNat (0x30 + fc.status.toNibble.toNat), fc.blockSize, fc.separation.raw]

def toFrame (fc : FlowControl) (id : UInt16) (padding : UInt8) : Except Fault Bus.Frame :=
  Bus.Frame.padded id fc.toBytes padding

end FlowControl

end DiagnosticGateway.IsoTp
