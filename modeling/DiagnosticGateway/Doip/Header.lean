import DiagnosticGateway.Doip.BigEndian
import DiagnosticGateway.Doip.PayloadType
import DiagnosticGateway.Fault

/-! # Message headers

Eight bytes stand in front of each payload: the protocol version, its complement, the payload
type and the payload length. Reading a header does not check the complement; `Header.validate`
does.
-/

namespace DiagnosticGateway.Doip

/-- The protocol version used unless another one is configured. -/
def protocolVersion : UInt8 := 0x02

def headerSize : Nat := 8

/-- What stands in front of a payload. -/
structure Header where
  version : UInt8
  /-- The byte that ought to be the complement of the version. -/
  inverse : UInt8
  type : PayloadType
  length : UInt32
deriving Repr, DecidableEq

namespace Header

/-- A header of the given version with the matching complement. -/
def ofVersion (version : UInt8) (type : PayloadType) (length : UInt32) : Header :=
  ⟨version, ~~~version, type, length⟩

/-- A header of the usual version. -/
def ofType (type : PayloadType) (length : UInt32) : Header :=
  ofVersion protocolVersion type length

def isValid (h : Header) : Bool := h.inverse == ~~~h.version

/-- Refuses a header whose second byte is not the complement of the first. -/
def validate (h : Header) : Except Fault Unit :=
  if h.isValid then .ok () else .error (.invalidInverseVersion h.version h.inverse)

/-- The header spelled by the first eight bytes. -/
def ofBytes : List UInt8 → Except Fault Header
  | v :: i :: t₁ :: t₀ :: l₃ :: l₂ :: l₁ :: l₀ :: _ =>
    .ok ⟨v, i, .ofWire (BigEndian.read16 t₁ t₀), BigEndian.read32 l₃ l₂ l₁ l₀⟩
  | data => .error (.messageTooShort headerSize data.length)

/-- The eight wire bytes. -/
def toBytes (h : Header) : List UInt8 :=
  h.version :: h.inverse :: (BigEndian.bytes16 h.type.toWire ++ BigEndian.bytes32 h.length)

theorem length_toBytes (h : Header) : h.toBytes.length = headerSize := rfl

end Header

end DiagnosticGateway.Doip
