import DiagnosticGateway.Config.Validate
import DiagnosticGateway.Pool

/-! # The gateway

A gateway admits testers. With concurrent sessions each tester leases a channel of its own, and
one that finds none free is refused; otherwise all use the primary channel.
-/

namespace DiagnosticGateway

/-- A gateway with the testers that it serves. -/
structure Gateway where
  config : Config
  /-- The channels that are free, where sessions are concurrent. -/
  pool : Pool
  /-- The testers being served, by number, with their channels. -/
  sessions : List (Nat × Channel)
deriving DecidableEq

namespace Gateway

/-- A gateway without testers, if its configuration has no defect. -/
def bind (config : Config) : Except Fault Gateway := do
  config.validate
  return ⟨config, ⟨config.can.channels⟩, []⟩

/-- Admits a tester and tells its channel, or refuses it for want of one. -/
def accept (g : Gateway) (tester : Nat) : Option Channel × Gateway :=
  if g.config.concurrentSessions then
    match g.pool.lease with
    | none => (none, g)
    | some (channel, pool) =>
      (some channel, { g with pool, sessions := g.sessions ++ [(tester, channel)] })
  else
    let channel := g.config.can.primaryChannel
    (some channel, { g with sessions := g.sessions ++ [(tester, channel)] })

/-- Lets a tester go whose session has ended or could not start. Its channel is free again. -/
def dismiss (g : Gateway) (tester : Nat) : Gateway :=
  match g.sessions.find? (·.1 == tester) with
  | none => g
  | some session =>
    let sessions := g.sessions.erase session
    if g.config.concurrentSessions then { g with pool := g.pool.release session.2, sessions }
    else { g with sessions }

def sessionConfig (g : Gateway) (channel : Channel) : Config := g.config.withChannel channel

end Gateway

end DiagnosticGateway
