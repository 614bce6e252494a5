import DiagnosticGateway.Bench.Exchange
import DiagnosticGateway.Gateway

/-! # A gateway and its testers

A gateway whose buses lead to ECUs by rules, and testers that connect, send and close. Opening a
bus can be made to fail by its number. A channel is free again as soon as its session has ended,
which may be before the tester closes.
-/

namespace DiagnosticGateway.Bench

open Doip (Message)

/-- A tester that the gateway serves, or served until the forwarder failed. -/
structure Served where
  tester : Nat
  run : SessionRun

/-- A gateway at work. -/
structure GatewayRig where
  gateway : Gateway
  /-- The rules of the ECU that answers on an identifier. -/
  rules : UInt16 → List Rule
  /-- The numbers of the buses that cannot be opened, counted from zero. -/
  failing : List Nat
  /-- The number of buses opened so far, or tried to. -/
  opens : Nat := 0
  served : List Served := []

/-- What becomes of a tester that connects. -/
inductive Admission where
  /-- It is served on a channel; these are the answers to its request to route messages. -/
  | served (channel : Channel) (replies : List Message)
  /-- The bus of its channel could not be opened. -/
  | busFailed (channel : Channel) (fault : Fault)
  | refused

namespace GatewayRig

/-- A gateway without testers, if its configuration has no defect. -/
def bind (config : Config) (rules : UInt16 → List Rule) (failing : List Nat) :
    Except Fault GatewayRig := do
  return { gateway := ← Gateway.bind config, rules, failing }

/-- The fault of a bus that cannot be opened. -/
def noBus (config : Config) : Fault :=
  .config (.other ("no such interface " ++ config.can.interface))

def settle (rig : GatewayRig) (s : Served) : GatewayRig :=
  match s.run.result with
  | none => rig
  | some _ => { rig with gateway := rig.gateway.dismiss s.tester }

/-- A tester connects and asks to route messages. -/
def connect (rig : GatewayRig) (tester : Nat) : Admission × GatewayRig :=
  match rig.gateway.accept tester with
  | (none, gateway) => (.refused, { rig with gateway })
  | (some channel, gateway) =>
    let opened := { rig with gateway, opens := rig.opens + 1 }
    let config := gateway.sessionConfig channel
    if rig.opens ∈ rig.failing then
      (.busFailed channel (noBus config), { opened with gateway := gateway.dismiss tester })
    else
      let request := Message.activationRequest ⟨config.addressing.tester, 0⟩
      let run := (SessionRun.start config (rig.rules channel.responseId)).send request.toBytes
      let (seen, run) := run.observe
      (.served channel seen.replies,
        { opened with served := opened.served ++ [⟨tester, run⟩] })

/-- Changes the session of a tester, and tells what was seen and whether the session goes on. -/
def act (rig : GatewayRig) (tester : Nat) (change : SessionRun → SessionRun) :
    Option (Observation × Bool) × GatewayRig :=
  match rig.served.find? (·.tester == tester) with
  | none => (none, rig)
  | some s =>
    let (seen, run) := (change s.run).observe
    let after := { s with run }
    let served := rig.served.map fun other => if other.tester == tester then after else other
    (some (seen, run.result.isNone), settle { rig with served } after)

/-- A tester closes. The answer holds what was seen and how the session ended. -/
def close (rig : GatewayRig) (tester : Nat) :
    Option (Observation × Except Fault Unit) × GatewayRig :=
  match rig.served.find? (·.tester == tester) with
  | none => (none, rig)
  | some s =>
    let (seen, run) := (s.run.close []).observe
    let served := rig.served.filter (·.tester != tester)
    (some (seen, run.result.getD (.ok ())), settle { rig with served } { s with run })

end GatewayRig

end DiagnosticGateway.Bench
