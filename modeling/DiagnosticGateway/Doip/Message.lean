import DiagnosticGateway.Doip.Address
import DiagnosticGateway.Doip.Code
import DiagnosticGateway.Doip.Header

/-! # Messages

A message is a header and a payload. The constructors here take the header's length from the
payload; a `Message` as such may hold any length.
-/

namespace DiagnosticGateway.Doip

/-- The number of bytes that the two addresses take in a diagnostic payload. -/
def addressBytes : Nat := 4

/-- A header with the payload that follows it. -/
structure Message where
  header : Header
  payload : List UInt8
deriving Repr, DecidableEq

/-- The payload of a diagnostic message. -/
structure Diagnostic where
  source : Address
  target : Address
  /-- The diagnostic service bytes. -/
  userData : List UInt8
deriving Repr, DecidableEq

namespace Diagnostic

/-- Splits a payload into its addresses and its service bytes. -/
def ofPayload : List UInt8 → Except Fault Diagnostic
  | s₁ :: s₀ :: t₁ :: t₀ :: userData =>
    .ok ⟨⟨BigEndian.read16 s₁ s₀⟩, ⟨BigEndian.read16 t₁ t₀⟩, userData⟩
  | payload => .error (.messageTooShort addressBytes payload.length)

def toPayload (d : Diagnostic) : List UInt8 :=
  d.source.toBytes ++ d.target.toBytes ++ d.userData

end Diagnostic

/-- The payload of a request to route diagnostic messages. -/
structure ActivationRequest where
  source : Address
  activationType : UInt8
deriving Repr, DecidableEq

namespace ActivationRequest

/-- Reads the address and the kind of activation; further bytes are ignored. -/
def ofPayload : List UInt8 → Except Fault ActivationRequest
  | s₁ :: s₀ :: activationType :: _ => .ok ⟨⟨BigEndian.read16 s₁ s₀⟩, activationType⟩
  | payload => .error (.messageTooShort 3 payload.length)

/-- The payload bytes, four reserved zeros included. -/
def toPayload (r : ActivationRequest) : List UInt8 :=
  r.source.toBytes ++ r.activationType :: List.replicate 4 0

end ActivationRequest

namespace Message

/-- The message with this header and payload, its length taken from the payload. -/
def ofHeader (header : Header) (payload : List UInt8) : Message :=
  ⟨{ header with length := UInt32.ofNat payload.length }, payload⟩

/-- The message of the usual version with this type and payload. -/
def ofType (type : PayloadType) (payload : List UInt8) : Message :=
  ofHeader (.ofType type 0) payload

def activationResponse (tester entity : Address) (code : ActivationCode) : Message :=
  ofType .routingActivationResponse
    (tester.toBytes ++ entity.toBytes ++ code.toByte :: List.replicate 4 0)

def activationRequest (request : ActivationRequest) : Message :=
  ofType .routingActivationRequest request.toPayload

def ack (source target : Address) : Message :=
  ofType .diagnosticMessageAck (source.toBytes ++ target.toBytes ++ [ackCode])

def nack (source target : Address) (code : NackCode) : Message :=
  ofType .diagnosticMessageNack (source.toBytes ++ target.toBytes ++ [code.toByte])

def diagnostic (source target : Address) (userData : List UInt8) : Message :=
  ofType .diagnosticMessage (Diagnostic.toPayload ⟨source, target, userData⟩)

/-- The message with another protocol version and the complement of it. -/
def withVersion (m : Message) (version : UInt8) : Message :=
  { m with header := { m.header with version, inverse := ~~~version } }

/-- The message at the start of the bytes; those after it are ignored. -/
def ofBytes (data : List UInt8) : Except Fault Message := do
  let header ← Header.ofBytes data
  let total := headerSize + header.length.toNat
  if data.length < total then
    throw (.messageTooShort total data.length)
  return ⟨header, (data.drop headerSize).take header.length.toNat⟩

def toBytes (m : Message) : List UInt8 := m.header.toBytes ++ m.payload

def size (m : Message) : Nat := headerSize + m.payload.length

theorem length_toBytes (m : Message) : m.toBytes.length = m.size := by
  simp [toBytes, size, Header.length_toBytes]

end Message

end DiagnosticGateway.Doip
