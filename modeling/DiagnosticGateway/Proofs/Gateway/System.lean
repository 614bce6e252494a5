import Mathlib.Logic.Relation
import DiagnosticGateway.Gateway
import DiagnosticGateway.Proofs.Forwarder.Thread
import DiagnosticGateway.Proofs.Session.Thread

/-! # A gateway and its guests, step by step

With concurrent sessions a gateway accepts testers while the sessions of others go on. Each guest
comes to its end in its own way: its thread may not start, its bus may not open, its forwarder may
not start, and otherwise its session is over when both threads are. What the threads are answered is
left open, so they may do whatever they do in any world. The lease of a guest goes back at the very
end, and any step of any guest may be the next one.
-/

namespace DiagnosticGateway

open Bus (Frame)

namespace Gateway

/-! ## Guests -/

/-- How far a tester is that has been accepted. -/
inductive Stage where
  /-- Its channel is leased, and its thread is not started yet. -/
  | accepted
  /-- Its thread opens the bus. -/
  | opening
  /-- Its thread starts the forwarder. -/
  | starting
  /-- Both threads are at work. -/
  | serving (session : Session.Thread) (forwarder : Forwarder.Point)
  /-- The session has ended and waits for the forwarder. -/
  | joining (forwarder : Forwarder.Point)
  /-- Only the lease is left. -/
  | over

/-- The next stage of a guest with this configuration, and the frames that it writes on the way. -/
inductive Stage.Next (c : Config) : Stage → List Frame → Stage → Prop where
  | threadStarts : Next c .accepted [] .opening
  | threadFails : Next c .accepted [] .over
  | busOpens : Next c .opening [] .starting
  | busFails : Next c .opening [] .over
  | forwarderStarts {source} :
    Next c .starting [] (.serving ⟨.looking, .connected, source, 0⟩ (.looking none))
  | forwarderFails : Next c .starting [] .over
  | session {t call t' forwarder} :
    Session.Thread.Step c t call t' →
    Next c (.serving t forwarder) (call.bind Session.Call.frame?).toList (.serving t' forwarder)
  | forwarder {t call forwarder next} :
    Forwarder.Point.Step (.ofConfig c) forwarder call next →
    Next c (.serving t forwarder) (call.bind Forwarder.Call.frame?).toList (.serving t next)
  | sessionEnds {outcome state source reads forwarder} :
    Next c (.serving ⟨.ended outcome, state, source, reads⟩ forwarder) [] (.joining forwarder)
  | drains {call forwarder next} :
    Forwarder.Point.Step (.ofConfig c) forwarder call next →
    Next c (.joining forwarder) (call.bind Forwarder.Call.frame?).toList (.joining next)
  | forwarderEnds {outcome} : Next c (.joining (.ended outcome)) [] .over

/-- A tester that has been accepted, until its lease is given back. -/
structure Guest where
  tester : Nat
  /-- The copy of the configuration that its threads work with. -/
  config : Config
  stage : Stage
  /-- The frames that its threads have written, or tried to. -/
  written : List Frame

/-- The channel that a guest leases. -/
def Guest.channel (guest : Guest) : Channel := guest.config.can.primaryChannel

/-! ## All of them -/

structure State where
  gateway : Gateway
  guests : List Guest

/-- A gateway before its first tester. -/
def State.initial (gateway : Gateway) : State := ⟨gateway, []⟩

inductive Step : State → State → Prop where
  /-- A tester is accepted. It is told apart from those that are being served. -/
  | grant {gateway guests tester channel next} :
    tester ∉ guests.map Guest.tester → gateway.accept tester = (some channel, next) →
    Step ⟨gateway, guests⟩
      ⟨next, guests ++ [⟨tester, gateway.sessionConfig channel, .accepted, []⟩]⟩
  | refuse {gateway guests tester next} :
    gateway.accept tester = (none, next) → Step ⟨gateway, guests⟩ ⟨next, guests⟩
  /-- A guest moves on. -/
  | proceed {gateway before guest after frames stage} :
    Stage.Next guest.config guest.stage frames stage →
    Step ⟨gateway, before ++ guest :: after⟩
      ⟨gateway, before ++ { guest with stage, written := guest.written ++ frames } :: after⟩
  /-- A guest that is at its end gives its lease back. -/
  | release {gateway before guest after} :
    guest.stage = .over →
    Step ⟨gateway, before ++ guest :: after⟩ ⟨gateway.dismiss guest.tester, before ++ after⟩

/-- The states that some order of steps leads to. -/
def Reachable (start s : State) : Prop := Relation.ReflTransGen Step start s

end Gateway

end DiagnosticGateway
