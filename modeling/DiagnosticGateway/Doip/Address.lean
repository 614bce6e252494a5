import DiagnosticGateway.Doip.BigEndian
import DiagnosticGateway.Fault

/-! # Logical addresses

A logical address names a tester or an ECU.
-/

namespace DiagnosticGateway.Doip

/-- The 16-bit address of a tester or an ECU. -/
structure Address where
  value : UInt16
deriving Repr, DecidableEq

namespace Address

/-- The address spelled by the first two bytes. -/
def ofBytes : List UInt8 → Except Fault Address
  | hi :: lo :: _ => .ok ⟨BigEndian.read16 hi lo⟩
  | data => .error (.messageTooShort 2 data.length)

/-- The two wire bytes, most significant first. -/
def toBytes (a : Address) : List UInt8 := BigEndian.bytes16 a.value

def text (a : Address) : String := "0x" ++ Hex.numeral 4 a.value.toNat

end Address

end DiagnosticGateway.Doip
