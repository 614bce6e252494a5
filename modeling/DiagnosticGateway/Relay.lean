import DiagnosticGateway.IsoTp.FlowControl

/-! # The flow control relay

The forwarder reads all frames from the bus and puts the flow control among them into a relay,
where the sender of a segmented message takes them out again in the order of their arrival. The
relay is bounded: a frame that finds it full pushes out the oldest one. Once closed it accepts
and hands out nothing, and it never opens again.
-/

namespace DiagnosticGateway

open IsoTp (FlowControl)

/-- A bounded mailbox of flow control. -/
structure Relay where
  capacity : Nat
  /-- The frames not taken yet, the oldest first. -/
  frames : List FlowControl
  /-- Whether the session has ended. -/
  closed : Bool
deriving Repr, DecidableEq

namespace Relay

/-- An open, empty relay. It keeps at least one frame. -/
def ofCapacity (capacity : Nat) : Relay := ⟨max capacity 1, [], false⟩

/-- Adds a frame, at the cost of the oldest one if the relay is full. The answer is whether the
relay was open. -/
def push (relay : Relay) (fc : FlowControl) : Bool × Relay :=
  if relay.closed then (false, relay)
  else if relay.capacity ≤ relay.frames.length then
    (true, { relay with frames := relay.frames.drop 1 ++ [fc] })
  else (true, { relay with frames := relay.frames ++ [fc] })

/-- Takes the oldest frame, or fails when none arrives within `timeout`. -/
def wait (relay : Relay) (timeout : Span) : Except Fault FlowControl × Relay :=
  if relay.closed then (.error .relayClosed, relay)
  else
    match relay.frames with
    | [] => (.error (.flowControlTimeout timeout), relay)
    | fc :: rest => (.ok fc, { relay with frames := rest })

/-- A wait that succeeds leaves one frame less. -/
theorem length_frames_wait_lt {relay : Relay} {timeout : Span} {fc : FlowControl}
    (h : (relay.wait timeout).1 = .ok fc) :
    (relay.wait timeout).2.frames.length < relay.frames.length := by
  rcases relay with ⟨capacity, frames, closed⟩
  cases closed with
  | true => simp [wait] at h
  | false =>
    cases frames with
    | nil => simp [wait] at h
    | cons first rest => simp [wait]

/-- Drops all frames and tells how many there were. -/
def clear (relay : Relay) : Nat × Relay := (relay.frames.length, { relay with frames := [] })

/-- Closes the relay for good. The frames in it stay, but nobody can take them. -/
def close (relay : Relay) : Relay := { relay with closed := true }

/-- Something that reaches a relay from outside the sender. -/
inductive Event where
  | push (fc : FlowControl)
  | close
deriving Repr, DecidableEq

def after (relay : Relay) : Event → Relay
  | .push fc => (relay.push fc).2
  | .close => relay.close

/-- A wait during which one event happens: a sender that finds a frame takes it before the event,
and one that finds none is woken by it. -/
def waitDuring (relay : Relay) (timeout : Span) (event : Event) :
    Except Fault FlowControl × Relay :=
  match relay.wait timeout with
  | (.error (.flowControlTimeout _), relay) => (relay.after event).wait timeout
  | (outcome, relay) => (outcome, relay.after event)

end Relay

end DiagnosticGateway
