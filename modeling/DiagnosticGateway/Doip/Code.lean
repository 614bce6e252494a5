/-! # Response codes

The code in a routing activation response, and the code in a refusal of a diagnostic message.
-/

namespace DiagnosticGateway.Doip

/-- How a gateway answers a request to route diagnostic messages. -/
inductive ActivationCode where
  | deniedUnknownSource
  | deniedNoSocket
  | deniedMissingAuthentication
  | deniedUnsupportedType
  | success
  | confirmationRequired
deriving Repr, DecidableEq

namespace ActivationCode

def ofByte? (b : UInt8) : Option ActivationCode :=
  match b.toNat with
  | 0x00 => some .deniedUnknownSource
  | 0x01 => some .deniedNoSocket
  | 0x04 => some .deniedMissingAuthentication
  | 0x06 => some .deniedUnsupportedType
  | 0x10 => some .success
  | 0x11 => some .confirmationRequired
  | _ => none

def toByte : ActivationCode → UInt8
  | .deniedUnknownSource => 0x00
  | .deniedNoSocket => 0x01
  | .deniedMissingAuthentication => 0x04
  | .deniedUnsupportedType => 0x06
  | .success => 0x10
  | .confirmationRequired => 0x11

def isSuccess : ActivationCode → Bool
  | .success | .confirmationRequired => true
  | _ => false

def name : ActivationCode → String
  | .deniedUnknownSource => "DeniedUnknownSource"
  | .deniedNoSocket => "DeniedNoSocket"
  | .deniedMissingAuthentication => "DeniedMissingAuthentication"
  | .deniedUnsupportedType => "DeniedUnsupportedType"
  | .success => "Success"
  | .confirmationRequired => "ConfirmationRequired"

end ActivationCode

/-- Why a gateway refuses a diagnostic message. -/
inductive NackCode where
  | invalidSourceAddress
  | unknownTargetAddress
  | messageTooLarge
  | outOfMemory
  | targetUnreachable
  | unknownNetwork
  /-- The transfer on the vehicle's side failed. -/
  | transportProtocolError
deriving Repr, DecidableEq

namespace NackCode

def ofByte? (b : UInt8) : Option NackCode :=
  match b.toNat with
  | 0x02 => some .invalidSourceAddress
  | 0x03 => some .unknownTargetAddress
  | 0x04 => some .messageTooLarge
  | 0x05 => some .outOfMemory
  | 0x06 => some .targetUnreachable
  | 0x07 => some .unknownNetwork
  | 0x08 => some .transportProtocolError
  | _ => none

def toByte : NackCode → UInt8
  | .invalidSourceAddress => 0x02
  | .unknownTargetAddress => 0x03
  | .messageTooLarge => 0x04
  | .outOfMemory => 0x05
  | .targetUnreachable => 0x06
  | .unknownNetwork => 0x07
  | .transportProtocolError => 0x08

def name : NackCode → String
  | .invalidSourceAddress => "InvalidSourceAddress"
  | .unknownTargetAddress => "UnknownTargetAddress"
  | .messageTooLarge => "MessageTooLarge"
  | .outOfMemory => "OutOfMemory"
  | .targetUnreachable => "TargetUnreachable"
  | .unknownNetwork => "UnknownNetwork"
  | .transportProtocolError => "TransportProtocolError"

end NackCode

def ackCode : UInt8 := 0x00

end DiagnosticGateway.Doip
