import DiagnosticGateway.IsoTp.Kind
import DiagnosticGateway.Span
import DiagnosticGateway.Text.Hex

/-! # Faults

Everything that can go wrong between a tester and an ECU, with one constructor for each cause.
`Fault.message` words a cause, and three predicates say what a caller may do about it: retry the
read, drop the message in progress, or treat the peer as gone.
-/

namespace DiagnosticGateway

open IsoTp (FrameKind FlowStatus)

/-- How an operation on a stream, a file or a bus failed. -/
inductive IoKind where
  | interrupted
  | wouldBlock
  | timedOut
  | unexpectedEof
  | connectionReset
  | connectionAborted
  | brokenPipe
  | connectionRefused
  | notConnected
  | writeZero
  | permissionDenied
  | notFound
  | isADirectory
  | notADirectory
  | nameTooLong
  | invalidInput
  | invalidData
  | networkUnreachable
  | other
deriving Repr, DecidableEq

structure IoError where
  kind : IoKind
  text : String
deriving Repr, DecidableEq

/-- Why a path leads to no file. -/
inductive PathDefect where
  | notFound
  /-- The path goes on behind a file. -/
  | notADirectory
  /-- The path ends at a directory. -/
  | isADirectory
  | tooLong
deriving Repr, DecidableEq

def PathDefect.ioError : PathDefect → IoError
  | .notFound => ⟨.notFound, "No such file or directory (os error 2)"⟩
  | .notADirectory => ⟨.notADirectory, "Not a directory (os error 20)"⟩
  | .isADirectory => ⟨.isADirectory, "Is a directory (os error 21)"⟩
  | .tooLong => ⟨.nameTooLong, "File name too long (os error 36)"⟩

/-- Why a transport frame carries no usable control information. -/
inductive FrameDefect where
  | empty
  /-- A first frame ends before its six message bytes. -/
  | truncatedFirst
  /-- A flow control frame has fewer than three bytes. -/
  | truncatedFlowControl
  /-- The kind nibble has no meaning. -/
  | unknownKind (nibble : UInt8)
  | other (text : String)
deriving Repr, DecidableEq

def FrameDefect.text : FrameDefect → String
  | .empty => "empty frame"
  | .truncatedFirst => "truncated first frame"
  | .truncatedFlowControl => "truncated flow control frame"
  | .unknownKind nibble => s!"unknown PCI type {nibble.toNat}"
  | .other text => text

/-- Why the payload of a message is not what the reader needs. -/
inductive PayloadDefect where
  | notActivationResponse (type : UInt16)
  | unknownActivationCode (code : UInt8)
  /-- The gateway refused a diagnostic message for a reason with a name. -/
  | rejectedAs (reason : String)
  /-- The gateway refused a diagnostic message with a code that has no name. -/
  | rejectedWith (code : UInt8)
  | rejectedWithoutCode
  | other (text : String)
deriving Repr, DecidableEq

def PayloadDefect.text : PayloadDefect → String
  | .notActivationResponse type =>
    "expected routing activation response, got 0x" ++ Hex.numeral 4 type.toNat
  | .unknownActivationCode code => "unknown activation code 0x" ++ Hex.upperByte code
  | .rejectedAs reason => "diagnostic message rejected: " ++ reason
  | .rejectedWith code => "diagnostic message rejected: code 0x" ++ Hex.upperByte code
  | .rejectedWithoutCode => "diagnostic message rejected: no code"
  | .other text => text

/-- The two roles of an identifier in a channel. -/
inductive ChannelRole where
  /-- Frames from the tester to the ECU. -/
  | request
  /-- Frames from the ECU to the tester. -/
  | response
deriving Repr, DecidableEq

/-- The setting that holds an identifier of this role. -/
def ChannelRole.setting : ChannelRole → String
  | .request => "request_id"
  | .response => "response_id"

/-- Why a configuration cannot be used. -/
inductive ConfigDefect where
  /-- An identifier needs more than eleven bits. -/
  | wideIdentifier (role : ChannelRole) (id : UInt16)
  /-- An identifier belongs to another user of the bus. -/
  | reservedIdentifier (role : ChannelRole) (id : UInt16)
  /-- An identifier occurs twice among the channels. -/
  | repeatedIdentifier (id : UInt16)
  | noSessionChannels
  | noInterface
  | zeroTimeout
  | zeroRelayCapacity
  | equalAddresses
  | smallPayloadLimit (least : Nat)
  /-- The text is no document, or its values do not fit the settings. -/
  | unreadable
  | other (text : String)
deriving Repr, DecidableEq

def ConfigDefect.text : ConfigDefect → String
  | .wideIdentifier role id =>
    "can." ++ role.setting ++ " 0x" ++ Hex.numeral 1 id.toNat ++ " is not an 11-bit identifier"
  | .reservedIdentifier role id =>
    "can." ++ role.setting ++ " 0x" ++ Hex.numeral 3 id.toNat
      ++ " collides with a reserved identifier"
  | .repeatedIdentifier id =>
    "CAN identifier 0x" ++ Hex.numeral 3 id.toNat ++ " is used more than once"
  | .noSessionChannels =>
    "concurrent_sessions needs can.session_channels so each tester has its own identifiers"
  | .noInterface => "can.interface must not be empty"
  | .zeroTimeout => "timeouts must be non-zero"
  | .zeroRelayCapacity => "isotp.relay_capacity must be at least 1"
  | .equalAddresses => "addressing.tester and addressing.ecu must differ"
  | .smallPayloadLimit least => s!"session.max_payload_len must be at least {least}"
  | .unreadable => "TOML parse error"
  | .other text => text

/-- A cause of failure anywhere in the gateway. -/
inductive Fault where
  | io (error : IoError)
  | invalidHeader (text : String)
  /-- The second header byte is not the complement of the first. -/
  | invalidInverseVersion (version inverse : UInt8)
  | invalidPayload (defect : PayloadDefect)
  /-- There are fewer bytes than the structure to be read has. -/
  | messageTooShort (expected actual : Nat)
  | payloadTooLarge (size limit : Nat)
  /-- There is nothing to send. -/
  | emptyPayload
  /-- A bus identifier needs more than eleven bits. -/
  | invalidIdentifier (id : Nat)
  /-- A bus frame would hold more than eight bytes. -/
  | invalidFrameLength (length : Nat)
  | invalidFrame (defect : FrameDefect)
  | unexpectedFrame (expected actual : FrameKind)
  /-- A consecutive frame is out of order. -/
  | sequenceMismatch (expected actual : UInt8)
  /-- The length of a single frame is not one of 1 to 7. -/
  | invalidSingleLength (length : UInt8)
  /-- A first frame declares a length that needs no segmentation. -/
  | invalidFirstLength (length : Nat)
  /-- The receiver gave up on a segmented message. -/
  | flowControlAborted (status : FlowStatus)
  | flowControlTimeout (waited : Span)
  /-- The session ended while a sender waited for flow control. -/
  | relayClosed
  /-- The peer closed the connection between two messages. -/
  | connectionClosed
  | config (defect : ConfigDefect)
deriving Repr, DecidableEq

namespace Fault

def message : Fault → String
  | .io error => "I/O error: " ++ error.text
  | .invalidHeader text => "Invalid header: " ++ text
  | .invalidInverseVersion version inverse =>
    "Invalid inverse protocol version: version 0x" ++ Hex.upperByte version
      ++ ", inverse 0x" ++ Hex.upperByte inverse
  | .invalidPayload defect => "Invalid payload: " ++ defect.text
  | .messageTooShort expected actual =>
    s!"Message too short: expected at least {expected} bytes, got {actual}"
  | .payloadTooLarge size limit =>
    s!"Payload too large: {size} bytes exceeds maximum of {limit} bytes"
  | .emptyPayload => "Empty payload"
  | .invalidIdentifier id => "Invalid CAN identifier: 0x" ++ Hex.numeral 1 id
  | .invalidFrameLength length => s!"Invalid CAN frame length: {length}"
  | .invalidFrame defect => "Invalid ISO-TP frame: " ++ defect.text
  | .unexpectedFrame expected actual =>
    "Unexpected " ++ actual.name ++ " frame, expected " ++ expected.name
  | .sequenceMismatch expected actual =>
    s!"Sequence mismatch: expected {expected.toNat}, got {actual.toNat}"
  | .invalidSingleLength length => s!"Invalid single frame length: {length.toNat}"
  | .invalidFirstLength length => s!"Invalid first frame length: {length}"
  | .flowControlAborted status => "Flow control aborted transfer: " ++ status.name
  | .flowControlTimeout waited => "Flow control timed out after " ++ waited.text
  | .relayClosed => "Flow control relay closed"
  | .connectionClosed => "Connection closed"
  | .config defect => "Invalid configuration: " ++ defect.text

/-- Whether the same read may simply be tried again. -/
def isRecoverable : Fault → Bool
  | .io error =>
    match error.kind with
    | .wouldBlock | .timedOut | .interrupted => true
    | _ => false
  | _ => false

/-- Whether only the message in progress is lost, and the session goes on. -/
def isFraming : Fault → Bool
  | .invalidHeader _ | .invalidInverseVersion _ _ | .invalidPayload _ | .messageTooShort _ _
  | .payloadTooLarge _ _ | .invalidFrame _ | .unexpectedFrame _ _ | .sequenceMismatch _ _
  | .invalidSingleLength _ | .invalidFirstLength _ => true
  | _ => false

/-- Whether the peer is gone. -/
def isDisconnect : Fault → Bool
  | .connectionClosed => true
  | .io error =>
    match error.kind with
    | .unexpectedEof | .connectionReset | .connectionAborted | .brokenPipe => true
    | _ => false
  | _ => false

end Fault

end DiagnosticGateway
