import DiagnosticGateway.Config.Basic

/-! # Checking a configuration

`Config.validate` looks for the first defect: the identifiers of all channels in order, then the
other settings.
-/

namespace DiagnosticGateway

/-- The identifiers of a channel with their roles. -/
def Channel.identifiers (c : Channel) : List (ChannelRole × UInt16) :=
  [(.request, c.requestId), (.response, c.responseId)]

namespace Config

/-- Checks identifiers one after the other; `seen` holds those that came before. -/
def checkIdentifiers (reserved : List UInt16) :
    List UInt16 → List (ChannelRole × UInt16) → Except ConfigDefect Unit
  | _, [] => .ok ()
  | seen, (role, id) :: rest =>
    if Bus.maxIdentifier < id then .error (.wideIdentifier role id)
    else if id ∈ reserved then .error (.reservedIdentifier role id)
    else if id ∈ seen then .error (.repeatedIdentifier id)
    else checkIdentifiers reserved (id :: seen) rest

/-- The first defect of a configuration, if it has one. -/
def check (c : Config) : Except ConfigDefect Unit := do
  checkIdentifiers c.can.reservedIds [] (c.can.channels.flatMap Channel.identifiers)
  if c.concurrentSessions ∧ c.can.sessionChannels = [] then throw .noSessionChannels
  if c.can.interface = "" then throw .noInterface
  if c.can.readTimeoutMs = 0 ∨ c.isotp.fcTimeoutMs = 0 then throw .zeroTimeout
  if c.isotp.relayCapacity = 0 then throw .zeroRelayCapacity
  if c.addressing.tester = c.addressing.ecu then throw .equalAddresses
  if c.session.maxPayload.toNat < Doip.addressBytes then
    throw (.smallPayloadLimit Doip.addressBytes)

def validate (c : Config) : Except Fault Unit := c.check.mapError .config

end Config

end DiagnosticGateway
