import DiagnosticGateway.Text.Hex

/-! # Payload types

The 16-bit type of a message. A value without a meaning here is kept as it is, so that a session
can skip such a message.
-/

namespace DiagnosticGateway.Doip

/-- What the payload of a message holds. -/
inductive PayloadType where
  | genericNack
  | vehicleIdentificationRequest
  | vehicleAnnouncement
  | routingActivationRequest
  | routingActivationResponse
  | aliveCheckRequest
  | aliveCheckResponse
  | diagnosticMessage
  | diagnosticMessageAck
  | diagnosticMessageNack
  | unknown (value : UInt16)
deriving Repr, DecidableEq

namespace PayloadType

def ofWire (value : UInt16) : PayloadType :=
  match value.toNat with
  | 0x0000 => .genericNack
  | 0x0001 => .vehicleIdentificationRequest
  | 0x0004 => .vehicleAnnouncement
  | 0x0005 => .routingActivationRequest
  | 0x0006 => .routingActivationResponse
  | 0x0007 => .aliveCheckRequest
  | 0x0008 => .aliveCheckResponse
  | 0x8001 => .diagnosticMessage
  | 0x8002 => .diagnosticMessageAck
  | 0x8003 => .diagnosticMessageNack
  | _ => .unknown value

def toWire : PayloadType → UInt16
  | .genericNack => 0x0000
  | .vehicleIdentificationRequest => 0x0001
  | .vehicleAnnouncement => 0x0004
  | .routingActivationRequest => 0x0005
  | .routingActivationResponse => 0x0006
  | .aliveCheckRequest => 0x0007
  | .aliveCheckResponse => 0x0008
  | .diagnosticMessage => 0x8001
  | .diagnosticMessageAck => 0x8002
  | .diagnosticMessageNack => 0x8003
  | .unknown value => value

/-- A type is canonical unless it is an unknown one whose wire value has a meaning. -/
def Canonical (t : PayloadType) : Prop :=
  ∀ value, t = .unknown value → ofWire value = .unknown value

instance (t : PayloadType) : Decidable t.Canonical :=
  match t with
  | .unknown value => decidable_of_iff (ofWire value = .unknown value)
      ⟨fun free _ same => PayloadType.unknown.inj same ▸ free, fun canonical => canonical value rfl⟩
  | .genericNack | .vehicleIdentificationRequest | .vehicleAnnouncement
  | .routingActivationRequest | .routingActivationResponse | .aliveCheckRequest
  | .aliveCheckResponse | .diagnosticMessage | .diagnosticMessageAck | .diagnosticMessageNack =>
    isTrue nofun

/-- A wire value comes back from its payload type, whether it has a meaning or not. -/
theorem toWire_ofWire (value : UInt16) : (ofWire value).toWire = value := by
  unfold ofWire
  split
  case h_11 => rfl
  all_goals
    rename_i known
    exact UInt16.toNat_inj.mp known.symm

/-- The two tables agree: each type with a meaning comes back from its wire value. -/
theorem ofWire_toWire {t : PayloadType} (canonical : t.Canonical) : ofWire t.toWire = t := by
  cases t with
  | unknown value => exact canonical value rfl
  | _ => rfl

theorem canonical_ofWire (value : UInt16) : (ofWire value).Canonical := by
  intro other unknown
  have same : value = other := by
    rw [← toWire_ofWire value, unknown]
    rfl
  rw [← same, unknown, same]

theorem ofWire_eq_iff {t : PayloadType} (canonical : t.Canonical) {value : UInt16} :
    ofWire value = t ↔ value = t.toWire := by
  constructor
  · rintro rfl
    exact (toWire_ofWire value).symm
  · rintro rfl
    exact ofWire_toWire canonical

/-- Whether the type is a diagnostic message or an answer to one. -/
def isDiagnostic : PayloadType → Bool
  | .diagnosticMessage | .diagnosticMessageAck | .diagnosticMessageNack => true
  | _ => false

def name : PayloadType → String
  | .genericNack => "GenericNack"
  | .vehicleIdentificationRequest => "VehicleIdentificationRequest"
  | .vehicleAnnouncement => "VehicleAnnouncement"
  | .routingActivationRequest => "RoutingActivationRequest"
  | .routingActivationResponse => "RoutingActivationResponse"
  | .aliveCheckRequest => "AliveCheckRequest"
  | .aliveCheckResponse => "AliveCheckResponse"
  | .diagnosticMessage => "DiagnosticMessage"
  | .diagnosticMessageAck => "DiagnosticMessageAck"
  | .diagnosticMessageNack => "DiagnosticMessageNack"
  | .unknown value => s!"Unknown({value.toNat})"

def text (t : PayloadType) : String := "0x" ++ Hex.numeral 4 t.toWire.toNat

end PayloadType

end DiagnosticGateway.Doip
