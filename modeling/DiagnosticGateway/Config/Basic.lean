import DiagnosticGateway.Doip.Message
import DiagnosticGateway.IsoTp.Pci
import DiagnosticGateway.Net.SocketAddress

/-! # Configuration

The settings of a gateway, with the defaults of a vehicle that has one ECU.
-/

namespace DiagnosticGateway

open Doip (Address)

/-- The pair of identifiers that one session uses. -/
structure Channel where
  /-- The identifier of frames to the ECU. -/
  requestId : UInt16
  /-- The identifier of frames from the ECU. -/
  responseId : UInt16
deriving Repr, DecidableEq

structure BusConfig where
  interface : String := "can0"
  requestId : UInt16 := 0x7E0
  responseId : UInt16 := 0x7E8
  /-- How long a bus read waits, in milliseconds. -/
  readTimeoutMs : UInt64 := 2000
  /-- Identifiers that belong to other users of the bus. -/
  reservedIds : List UInt16 := [0x100, 0x101]
  /-- Further channels for concurrent sessions. -/
  sessionChannels : List Channel := []
deriving Repr, DecidableEq

structure AddressConfig where
  tester : Address := ⟨0x0E00⟩
  ecu : Address := ⟨0x1000⟩
deriving Repr, DecidableEq

structure TransportConfig where
  /-- How long a sender waits for flow control, in milliseconds. -/
  fcTimeoutMs : UInt64 := 2000
  /-- How long a sender pauses when asked to wait, in milliseconds. -/
  waitBackoffMs : UInt64 := 100
  /-- The block size that the gateway advertises. -/
  rxBlockSize : UInt8 := 0
  /-- The separation time that the gateway advertises, as a raw byte. -/
  rxStMin : UInt8 := 0x0A
  /-- The filler for unused data bytes. -/
  padding : UInt8 := 0x00
  relayCapacity : UInt64 := 8
deriving Repr, DecidableEq

structure SessionConfig where
  /-- The largest payload that is accepted. -/
  maxPayload : UInt64 := UInt64.ofNat (Doip.addressBytes + IsoTp.maxMessage)
  /-- Whether a request that could not be sent is refused in so many words. -/
  nackOnSendFailure : Bool := true
deriving Repr, DecidableEq

structure Config where
  listen : Net.SocketAddress := .v4 ⟨0, 0, 0, 0⟩ 13400
  /-- The protocol version of outgoing messages. -/
  protocolVersion : UInt8 := Doip.protocolVersion
  concurrentSessions : Bool := false
  can : BusConfig := {}
  addressing : AddressConfig := {}
  isotp : TransportConfig := {}
  session : SessionConfig := {}
deriving DecidableEq

namespace BusConfig

/-- The channel that is used unless sessions are concurrent. -/
def primaryChannel (c : BusConfig) : Channel := ⟨c.requestId, c.responseId⟩

/-- Every channel that a session may use, the primary one first. -/
def channels (c : BusConfig) : List Channel := c.primaryChannel :: c.sessionChannels

def readTimeout (c : BusConfig) : Span := .ofMillis c.readTimeoutMs.toNat

end BusConfig

namespace TransportConfig

def fcTimeout (c : TransportConfig) : Span := .ofMillis c.fcTimeoutMs.toNat

def waitBackoff (c : TransportConfig) : Span := .ofMillis c.waitBackoffMs.toNat

end TransportConfig

namespace Config

def withChannel (c : Config) (channel : Channel) : Config :=
  { c with can := { c.can with requestId := channel.requestId, responseId := channel.responseId } }

/-- The whole milliseconds of a span as a setting holds them, in 64 bits. -/
def millis (s : Span) : UInt64 := UInt64.ofNat s.toMillis

def withReadTimeout (c : Config) (timeout : Span) : Config :=
  { c with can := { c.can with readTimeoutMs := millis timeout } }

def withFcTimeout (c : Config) (timeout : Span) : Config :=
  { c with isotp := { c.isotp with fcTimeoutMs := millis timeout } }

def withWaitBackoff (c : Config) (backoff : Span) : Config :=
  { c with isotp := { c.isotp with waitBackoffMs := millis backoff } }

end Config

end DiagnosticGateway
