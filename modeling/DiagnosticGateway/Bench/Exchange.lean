import DiagnosticGateway.Bench.ForwarderRig
import DiagnosticGateway.Session

/-! # A session between a tester and an ECU

A session with its forwarder, an ECU by rules, and a tester that sends bytes. The forwarder comes
to rest after everything that puts frames on the bus: it has handled all reads that the bus has
to give, or it has failed and thereby ended the session.
-/

namespace DiagnosticGateway.Bench

open Bus (Frame)
open Doip (Message Source)
open IsoTp (FrameKind Reassembly)

/-- What the two sides of a session work on. -/
structure Exchange where
  config : Config
  ecu : Ecu
  relay : Relay
  /-- What the bus has to give to the forwarder. -/
  inbound : List (Except Fault Forwarder.Event) := []
  /-- The message of the ECU in progress. -/
  pending : Option Reassembly := none
  /-- Whether the forwarder goes on. Its failure closes the connection. -/
  active : Bool := true
  written : List Frame := []
  /-- The messages to the tester from the session. -/
  replies : List Message := []
  /-- The messages to the tester from the forwarder. -/
  forwarded : List Message := []

namespace Exchange

def start (config : Config) (rules : List Rule) : Exchange where
  config := config
  ecu := ⟨rules⟩
  relay := .ofCapacity config.isotp.relayCapacity.toNat

def write (frame : Frame) (x : Exchange) : Except Fault Unit × Exchange :=
  match x.ecu.respond frame with
  | (.error fault, ecu) => (.error fault, { x with ecu })
  | (.ok replies, ecu) =>
    (.ok (), { x with
      ecu
      written := x.written ++ [frame]
      inbound := x.inbound ++ replies.map fun f => .ok (.frame f) })

def forwarderWiring : Forwarder.Wiring Exchange where
  write := write
  push fc x := { x with relay := (x.relay.push fc).2 }
  deliver m x := (.ok (), { x with forwarded := x.forwarded ++ [m] })

/-- The number of reads after which a forwarder counts as never coming to rest. -/
def restLimit : Nat := 100000

/-- Lets the forwarder come to rest, within a number of reads. -/
def settle : Nat → Exchange → Exchange
  | 0, x => x
  | limit + 1, x =>
    match x.active, x.inbound with
    | true, read :: rest =>
      match (Forwarder.ofConfig x.config).step forwarderWiring x.pending read
          { x with inbound := rest } with
      | (.ok pending, x) => settle limit { x with pending }
      | (.error _, x) => { x with active := false, relay := x.relay.close }
    | _, _ => x

def sessionWiring : Session.Wiring Exchange where
  write frame x :=
    let (outcome, x) := x.write frame
    (outcome, settle restLimit x)
  wait timeout x :=
    let (outcome, relay) := x.relay.wait timeout
    (outcome, { x with relay })
  clear x := { x with relay := x.relay.clear.2 }
  supply x := x.relay.frames.length
  supply_lt _ _ _ h := Relay.length_frames_wait_lt h
  reply m x :=
    if x.active then (.ok (), { x with replies := x.replies ++ [m] }) else (.error brokenPipe, x)
  isActive x := (x.active, x)

end Exchange

/-- What a tester and its ECU saw since the last look. -/
structure Observation where
  replies : List Message
  forwarded : List Message
  /-- Frames on the bus other than flow control. -/
  requests : List Frame
  flowControl : List Frame
deriving DecidableEq

/-- A session at work. -/
structure SessionRun where
  exchange : Exchange
  state : SessionState := .connected
  /-- Bytes of a message that has not arrived as a whole. -/
  unread : List UInt8 := []
  /-- How the session ended, if it has. -/
  result : Option (Except Fault Unit) := none

namespace SessionRun

def start (config : Config) (rules : List Rule) : SessionRun where
  exchange := .start config rules

/-- The number of bytes at the front of a stream that form whole messages; `count` bounds the
number of messages. -/
def wholeSize : Nat → List UInt8 → Nat
  | 0, _ => 0
  | count + 1, bytes =>
    match Message.ofBytes bytes with
    | .ok m => m.size + wholeSize count (bytes.drop m.size)
    | .error _ => 0

def finish (run : SessionRun) (result : Except Fault Unit) : SessionRun :=
  { run with state := .closed, result := some result }

/-- Serves bytes up to the end of the stream. -/
def serve (run : SessionRun) (bytes : List UInt8) : Except Fault Unit × SessionRun :=
  match Session.serve run.exchange.config Exchange.sessionWiring (Source.ofBytes bytes) run.state
      run.exchange with
  | (.ok state, exchange) => (.ok (), { run with exchange, state })
  | (.error fault, exchange) => (.error fault, { run with exchange })

/-- Ends a session whose forwarder has failed. -/
def endIfFailed (run : SessionRun) : SessionRun :=
  if run.exchange.active then run else run.finish (.ok ())

def send (run : SessionRun) (bytes : List UInt8) : SessionRun :=
  match run.result with
  | some _ => run
  | none =>
    let bytes := run.unread ++ bytes
    let whole := wholeSize bytes.length bytes
    match run.serve (bytes.take whole) with
    | (.ok (), run) => { run with unread := bytes.drop whole }.endIfFailed
    | (.error fault, run) => run.finish (.error fault)

def inject (run : SessionRun) (reads : List (Except Fault Forwarder.Event)) : SessionRun :=
  match run.result with
  | some _ => run
  | none =>
    let exchange := { run.exchange with inbound := run.exchange.inbound ++ reads }
    { run with exchange := exchange.settle Exchange.restLimit }.endIfFailed

/-- The tester sends last bytes, which may end inside a message, and closes the connection. -/
def close (run : SessionRun) (bytes : List UInt8) : SessionRun :=
  match run.result with
  | some _ => run
  | none =>
    let (result, run) := run.serve (run.unread ++ bytes)
    run.finish result

/-- What happened since the last look, and the session from here on. -/
def observe (run : SessionRun) : Observation × SessionRun :=
  let x := run.exchange
  let isFlowControl := fun f : Frame => FrameKind.ofData f.data == .flowControl
  (⟨x.replies, x.forwarded, x.written.filter (!isFlowControl ·), x.written.filter isFlowControl⟩,
    { run with exchange := { x with replies := [], forwarded := [], written := [] } })

end SessionRun

end DiagnosticGateway.Bench
