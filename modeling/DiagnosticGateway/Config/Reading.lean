import DiagnosticGateway.Config.Validate
import DiagnosticGateway.Toml.Reading

/-! # Reading a configuration

A document gives the settings by name, section by section; names without a meaning are ignored and
missing settings keep their defaults. An array may stand for a section, with the settings in the
order of their declaration. A channel has no defaults.
-/

namespace DiagnosticGateway

open Toml (Value Document)

/-- How the settings of a structure are given. -/
inductive Settings where
  | named (entries : List (String × Value))
  | listed (items : List Value)

namespace Settings

/-- The settings that a value holds. A point in time has no setting of any name. -/
def ofValue? : Value → Option Settings
  | .table entries => some (.named entries)
  | .array items => some (.listed items)
  | .moment _ => some (.named [])
  | _ => none

/-- The value of a setting, by its place and its name. -/
def get? (settings : Settings) (place : Nat) (name : String) : Option Value :=
  match settings with
  | .named entries => entries.lookup name
  | .listed items => items[place]?

def require {α : Type} (settings : Settings) (place : Nat) (name : String)
    (read : Value → Option α) : Option α :=
  settings.get? place name >>= read

def read {α : Type} (settings : Settings) (place : Nat) (name : String)
    (read : Value → Option α) (default : α) : Option α :=
  match settings.get? place name with
  | none => some default
  | some v => read v

end Settings

namespace Config

/-! ### Single settings -/

def flag? : Value → Option Bool
  | .boolean b => some b
  | _ => none

/-- A number of at most `bound`. -/
def natural? (bound : Nat) : Value → Option Nat
  | .integer (.ofNat n) => if n ≤ bound then some n else none
  | _ => none

/-- A number of eight bits. -/
def byte? (v : Value) : Option UInt8 := (natural? 0xFF v).map UInt8.ofNat

/-- A number of sixteen bits. -/
def word? (v : Value) : Option UInt16 := (natural? 0xFFFF v).map UInt16.ofNat

/-- A number of 64 bits. -/
def long? (v : Value) : Option UInt64 := (natural? (UInt64.size - 1) v).map UInt64.ofNat

def address? (v : Value) : Option Doip.Address := (word? v).map .mk

def text? : Value → Option String
  | .string text => some text
  | _ => none

/-- A socket address, given as text. -/
def socketAddress? (v : Value) : Option Net.SocketAddress :=
  text? v >>= fun text => Net.SocketAddress.ofText? text.toList

def list? {α : Type} (read : Value → Option α) : Value → Option (List α)
  | .array items => items.mapM read
  | _ => none

/-! ### Sections -/

def channel? (v : Value) : Option Channel := do
  let settings ← Settings.ofValue? v
  return {
    requestId := ← settings.require 0 "request_id" word?
    responseId := ← settings.require 1 "response_id" word? }

def bus? (v : Value) : Option BusConfig := do
  let settings ← Settings.ofValue? v
  let d : BusConfig := {}
  return {
    interface := ← settings.read 0 "interface" text? d.interface
    requestId := ← settings.read 1 "request_id" word? d.requestId
    responseId := ← settings.read 2 "response_id" word? d.responseId
    readTimeoutMs := ← settings.read 3 "read_timeout_ms" long? d.readTimeoutMs
    reservedIds := ← settings.read 4 "reserved_ids" (list? word?) d.reservedIds
    sessionChannels := ← settings.read 5 "session_channels" (list? channel?) d.sessionChannels }

def addressing? (v : Value) : Option AddressConfig := do
  let settings ← Settings.ofValue? v
  let d : AddressConfig := {}
  return {
    tester := ← settings.read 0 "tester" address? d.tester
    ecu := ← settings.read 1 "ecu" address? d.ecu }

def transport? (v : Value) : Option TransportConfig := do
  let settings ← Settings.ofValue? v
  let d : TransportConfig := {}
  return {
    fcTimeoutMs := ← settings.read 0 "fc_timeout_ms" long? d.fcTimeoutMs
    waitBackoffMs := ← settings.read 1 "wait_backoff_ms" long? d.waitBackoffMs
    rxBlockSize := ← settings.read 2 "rx_block_size" byte? d.rxBlockSize
    rxStMin := ← settings.read 3 "rx_st_min" byte? d.rxStMin
    padding := ← settings.read 4 "padding" byte? d.padding
    relayCapacity := ← settings.read 5 "relay_capacity" long? d.relayCapacity }

def session? (v : Value) : Option SessionConfig := do
  let settings ← Settings.ofValue? v
  let d : SessionConfig := {}
  return {
    maxPayload := ← settings.read 0 "max_payload_len" long? d.maxPayload
    nackOnSendFailure := ← settings.read 1 "nack_on_send_failure" flag? d.nackOnSendFailure }

/-! ### Documents -/

/-- The configuration that a table of settings holds. -/
def ofEntries? (entries : List (String × Value)) : Option Config := do
  let settings := Settings.named entries
  let d : Config := {}
  return {
    listen := ← settings.read 0 "listen_addr" socketAddress? d.listen
    protocolVersion := ← settings.read 1 "protocol_version" byte? d.protocolVersion
    concurrentSessions := ← settings.read 2 "concurrent_sessions" flag? d.concurrentSessions
    can := ← settings.read 3 "can" bus? d.can
    addressing := ← settings.read 4 "addressing" addressing? d.addressing
    isotp := ← settings.read 5 "isotp" transport? d.isotp
    session := ← settings.read 6 "session" session? d.session }

/-- Reads a configuration, without looking for defects. -/
def ofText? (text : List Char) : Option Config :=
  Document.ofText? text >>= Document.entries? >>= ofEntries?

/-- Reads a configuration that has no defect. -/
def load (text : List Char) : Except ConfigDefect Config :=
  match ofText? text with
  | none => .error .unreadable
  | some c => c.check.map fun () => c

end Config

end DiagnosticGateway
