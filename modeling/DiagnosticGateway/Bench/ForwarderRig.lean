import DiagnosticGateway.Bench.ScriptedBus
import DiagnosticGateway.Forwarder

/-! # A forwarder on a scripted bus

A forwarder with a relay and a connection to the tester, run on reads of the bus given in
advance. When it fails it closes the relay and reads no more.
-/

namespace DiagnosticGateway.Bench

open Bus (Frame)
open Doip (Message)
open IsoTp (FlowControl Reassembly)

/-- The fault of a write to a connection that is down. -/
def brokenPipe : Fault := .io ⟨.brokenPipe, "Broken pipe (os error 32)"⟩

structure ForwarderRig where
  bus : ScriptedBus
  relay : Relay
  /-- Whether the connection to the tester is down. -/
  down : Bool
  /-- The messages written to the tester. -/
  messages : List Message := []
deriving DecidableEq

namespace ForwarderRig

def wiring : Forwarder.Wiring ForwarderRig where
  write frame rig :=
    let (outcome, bus) := rig.bus.write frame
    (outcome, { rig with bus })
  push fc rig := { rig with relay := (rig.relay.push fc).2 }
  deliver m rig :=
    if rig.down then (.error brokenPipe, rig)
    else (.ok (), { rig with messages := rig.messages ++ [m] })

/-- What one read led to. -/
structure Step where
  written : List Frame
  /-- The frames in the relay afterwards. -/
  relayed : Nat
deriving DecidableEq

/-- A run of a forwarder. -/
structure Run where
  steps : List Step
  /-- The number of reads that were left over. -/
  unread : Nat
  rig : ForwarderRig
deriving DecidableEq

/-- Runs a forwarder on reads of the bus until it fails or there are no more. -/
def run (fw : Forwarder) (pending : Option Reassembly) :
    List (Except Fault Forwarder.Event) → ForwarderRig → Run
  | [], rig => ⟨[], 0, rig⟩
  | read :: rest, rig =>
    let (outcome, after) := fw.step wiring pending read rig
    let step := ⟨after.bus.written.drop rig.bus.written.length, after.relay.frames.length⟩
    match outcome with
    | .error _ => ⟨[step], rest.length, { after with relay := after.relay.close }⟩
    | .ok pending =>
      let more := run fw pending rest after
      { more with steps := step :: more.steps }

/-- The flow control that can still be taken from the relay. -/
def relayed (rig : ForwarderRig) : List FlowControl :=
  if rig.relay.closed then [] else rig.relay.frames

end ForwarderRig

end DiagnosticGateway.Bench
