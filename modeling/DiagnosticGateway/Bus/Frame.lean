import DiagnosticGateway.Fault

/-! # Bus frames

A frame has an identifier of eleven bits and at most eight data bytes. Both bounds are part of
the type; `Frame.ofData` and `Frame.padded` refuse what would break them.
-/

namespace DiagnosticGateway.Bus

/-- The largest standard identifier. -/
def maxIdentifier : UInt16 := 0x7FF

def maxData : Nat := 8

/-- A data frame on the bus. -/
structure Frame where
  id : UInt16
  data : List UInt8
  id_le : id ≤ maxIdentifier
  length_le : data.length ≤ maxData
deriving DecidableEq

namespace Frame

/-- The frame with exactly these bytes. -/
def ofData (id : UInt16) (data : List UInt8) : Except Fault Frame :=
  if hid : id ≤ maxIdentifier then
    if hlen : data.length ≤ maxData then .ok ⟨id, data, hid, hlen⟩
    else .error (.invalidFrameLength data.length)
  else .error (.invalidIdentifier id.toNat)

/-- The bytes filled up to a whole frame. -/
def fill (data : List UInt8) (padding : UInt8) : List UInt8 :=
  data ++ List.replicate (maxData - data.length) padding

/-- The full frame that starts with these bytes and is filled up with `padding`. -/
def padded (id : UInt16) (data : List UInt8) (padding : UInt8) : Except Fault Frame :=
  if hid : id ≤ maxIdentifier then
    if hlen : data.length ≤ maxData then
      .ok ⟨id, fill data padding, hid, by simp [fill]; omega⟩
    else .error (.invalidFrameLength data.length)
  else .error (.invalidIdentifier id.toNat)

def text (f : Frame) : String :=
  "BusFrame(0x" ++ Hex.numeral 3 f.id.toNat ++ " ["
    ++ " ".intercalate (f.data.map Hex.upperByte) ++ "])"

end Frame

end DiagnosticGateway.Bus
