import DiagnosticGateway.Config.Basic
import DiagnosticGateway.Toml.Printer

/-! # Writing a configuration

The document that holds every setting, section by section. A document has no number above
`2 ^ 63 - 1`, so a configuration with one has no text.
-/

namespace DiagnosticGateway

open Toml (Assignment Document Key Section Value)

namespace Config

/-- An assignment to a single name. -/
def entry (name : String) (value : Value) : Assignment := ⟨⟨[], name⟩, value⟩

def number (name : String) (n : Nat) : Assignment := entry name (.integer n)

def channelEntries (c : Channel) : List Assignment :=
  [number "request_id" c.requestId.toNat, number "response_id" c.responseId.toNat]

/-- The settings of the bus. Channels have sections of their own, but the lack of them is stated. -/
def busEntries (c : BusConfig) : List Assignment :=
  [entry "interface" (.string c.interface),
    number "request_id" c.requestId.toNat,
    number "response_id" c.responseId.toNat,
    number "read_timeout_ms" c.readTimeoutMs.toNat,
    entry "reserved_ids" (.array (c.reservedIds.map fun id => .integer id.toNat))]
  ++ if c.sessionChannels = [] then [entry "session_channels" (.array [])] else []

def addressEntries (c : AddressConfig) : List Assignment :=
  [number "tester" c.tester.value.toNat, number "ecu" c.ecu.value.toNat]

def transportEntries (c : TransportConfig) : List Assignment :=
  [number "fc_timeout_ms" c.fcTimeoutMs.toNat,
    number "wait_backoff_ms" c.waitBackoffMs.toNat,
    number "rx_block_size" c.rxBlockSize.toNat,
    number "rx_st_min" c.rxStMin.toNat,
    number "padding" c.padding.toNat,
    number "relay_capacity" c.relayCapacity.toNat]

def sessionEntries (c : SessionConfig) : List Assignment :=
  [number "max_payload_len" c.maxPayload.toNat,
    entry "nack_on_send_failure" (.boolean c.nackOnSendFailure)]

/-- The settings outside of all sections. -/
def rootEntries (c : Config) : List Assignment :=
  [entry "listen_addr" (.string (String.ofList c.listen.text)),
    number "protocol_version" c.protocolVersion.toNat,
    entry "concurrent_sessions" (.boolean c.concurrentSessions)]

/-- The section of a table with this name. -/
def sectionOf (name : String) (assignments : List Assignment) : Section :=
  ⟨.table ⟨[], name⟩, assignments⟩

/-- The document of a configuration. -/
def toDocument (c : Config) : Document where
  root := c.rootEntries
  sections :=
    [sectionOf "can" (busEntries c.can)]
    ++ c.can.sessionChannels.map (fun channel =>
      ⟨.item ⟨["can"], "session_channels"⟩, channelEntries channel⟩)
    ++ [sectionOf "addressing" (addressEntries c.addressing),
      sectionOf "isotp" (transportEntries c.isotp),
      sectionOf "session" (sessionEntries c.session)]

/-- The settings that have 64 bits. -/
def longSettings (c : Config) : List UInt64 :=
  [c.can.readTimeoutMs, c.isotp.fcTimeoutMs, c.isotp.waitBackoffMs, c.isotp.relayCapacity,
    c.session.maxPayload]

/-- The text of a configuration, if all its numbers have one. -/
def toText? (c : Config) : Option (List Char) :=
  if c.longSettings.all fun n => n.toNat < 0x8000000000000000 then some c.toDocument.text else none

end Config

end DiagnosticGateway
