import DiagnosticGateway.IsoTp.FlowControl

/-! # Protocol control information

What the data bytes of a bus frame mean to the transport protocol, and the frames that carry a
message: a single frame for up to seven bytes, or a first frame and consecutive frames.

| kind | bytes |
|---|---|
| single | `0` length, then up to 7 data bytes |
| first | `1` length (12 bits), then 6 data bytes |
| consecutive | `2` sequence number, then up to 7 data bytes |
| flow control | `3` status, block size, separation time |
-/

namespace DiagnosticGateway.IsoTp

/-- Message bytes in a single frame, at most. -/
def singleMax : Nat := 7

/-- Message bytes in a first frame. -/
def firstData : Nat := 6

/-- Message bytes in a consecutive frame, at most. -/
def consecutiveMax : Nat := 7

/-- The longest message, as twelve bits can say. -/
def maxMessage : Nat := 0xFFF

/-- The meaning of a frame's data bytes. -/
inductive Pci where
  | single (data : List UInt8)
  /-- The declared length of a message, and its first bytes. -/
  | first (total : Nat) (data : List UInt8)
  /-- A sequence number and further bytes, padding included. -/
  | consecutive (sequence : UInt8) (data : List UInt8)
  | flowControl (fc : FlowControl)
deriving Repr, DecidableEq

namespace Pci

def kind : Pci → FrameKind
  | .single _ => .single
  | .first _ _ => .first
  | .consecutive _ _ => .consecutive
  | .flowControl _ => .flowControl

def ofData (data : List UInt8) : Except Fault Pci :=
  match data with
  | [] => .error (.invalidFrame .empty)
  | b :: rest =>
    let low := b.toNat % 16
    match FrameKind.ofData data with
    | .single =>
      if low = 0 ∨ singleMax < low ∨ rest.length < low then
        .error (.invalidSingleLength (UInt8.ofNat low))
      else .ok (.single (rest.take low))
    | .first =>
      match rest with
      | [] => .error (.invalidFrame .truncatedFirst)
      | length :: bytes => .ok (.first (256 * low + length.toNat) bytes)
    | .consecutive => .ok (.consecutive (UInt8.ofNat low) rest)
    | .flowControl =>
      match rest with
      | blockSize :: separation :: _ =>
        .ok (.flowControl ⟨.ofNibble b, blockSize, ⟨separation⟩⟩)
      | _ => .error (.invalidFrame .truncatedFlowControl)
    | .unknown nibble => .error (.invalidFrame (.unknownKind nibble))

/-- The frame that carries a whole message. -/
def singleFrame (id : UInt16) (data : List UInt8) (padding : UInt8) : Except Fault Bus.Frame :=
  if data.length = 0 ∨ singleMax < data.length then
    .error (.invalidSingleLength (UInt8.ofNat data.length))
  else Bus.Frame.padded id (UInt8.ofNat data.length :: data) padding

/-- The frame that opens a message of `total` bytes, of which `data` holds at least the first. -/
def firstFrame (id : UInt16) (total : Nat) (data : List UInt8) : Except Fault Bus.Frame :=
  if maxMessage < total then .error (.payloadTooLarge total maxMessage)
  else if total ≤ singleMax ∨ data.length < firstData then .error (.invalidFirstLength total)
  else
    Bus.Frame.ofData id (UInt8.ofNat (0x10 + total / 256) :: UInt8.ofNat (total % 256)
      :: data.take firstData)

/-- The frame that carries a further part of a message. -/
def consecutiveFrame (id : UInt16) (sequence : UInt8) (data : List UInt8) (padding : UInt8) :
    Except Fault Bus.Frame :=
  if data.length = 0 ∨ consecutiveMax < data.length then
    .error (.invalidFrameLength (data.length + 1))
  else Bus.Frame.padded id (UInt8.ofNat (0x20 + sequence.toNat % 16) :: data) padding

end Pci

/-- Reads the data bytes of a flow control frame, and refuses every other kind of frame. -/
def FlowControl.ofData (data : List UInt8) : Except Fault FlowControl :=
  match Pci.ofData data with
  | .ok (.flowControl fc) => .ok fc
  | .ok pci => .error (.unexpectedFrame .flowControl pci.kind)
  | .error fault => .error fault

end DiagnosticGateway.IsoTp
