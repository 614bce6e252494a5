/-! # Frame kinds and flow statuses

The high nibble of the first data byte of a transport frame names its kind, and the low nibble of
a flow control frame its status.
-/

namespace DiagnosticGateway.IsoTp

/-- What a transport frame is, read off its first data byte. -/
inductive FrameKind where
  /-- A complete message in one frame. -/
  | single
  /-- The start of a segmented message. -/
  | first
  /-- A further part of a segmented message. -/
  | consecutive
  /-- The receiver's pacing of a segmented message. -/
  | flowControl
  /-- Any other nibble; an empty frame counts as 255. -/
  | unknown (nibble : UInt8)
deriving Repr, DecidableEq

namespace FrameKind

def ofData : List UInt8 → FrameKind
  | [] => .unknown 0xFF
  | b :: _ =>
    match b.toNat / 16 with
    | 0 => .single
    | 1 => .first
    | 2 => .consecutive
    | 3 => .flowControl
    | n => .unknown (UInt8.ofNat n)

def name : FrameKind → String
  | .single => "Single"
  | .first => "First"
  | .consecutive => "Consecutive"
  | .flowControl => "FlowControl"
  | .unknown nibble => s!"Unknown({nibble.toNat})"

end FrameKind

/-- What a receiver asks of the sender of a segmented message. -/
inductive FlowStatus where
  /-- Send the next block. -/
  | continueToSend
  /-- Wait for another flow control frame. -/
  | wait
  /-- The receiver has no room; the message is abandoned. -/
  | overflow
  /-- A value without a meaning, taken like an overflow. -/
  | reserved (value : UInt8)
deriving Repr, DecidableEq

namespace FlowStatus

def ofNibble (b : UInt8) : FlowStatus :=
  match b.toNat % 16 with
  | 0 => .continueToSend
  | 1 => .wait
  | 2 => .overflow
  | n => .reserved (UInt8.ofNat n)

def toNibble : FlowStatus → UInt8
  | .continueToSend => 0
  | .wait => 1
  | .overflow => 2
  | .reserved value => UInt8.ofNat (value.toNat % 16)

def name : FlowStatus → String
  | .continueToSend => "ContinueToSend"
  | .wait => "Wait"
  | .overflow => "Overflow"
  | .reserved value => s!"Reserved({value.toNat})"

end FlowStatus

end DiagnosticGateway.IsoTp
