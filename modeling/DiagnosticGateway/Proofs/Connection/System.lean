import Mathlib.Logic.Relation
import DiagnosticGateway.Proofs.Doip.Encoding
import DiagnosticGateway.Proofs.Forwarder.Thread
import DiagnosticGateway.Proofs.Session.Thread
import DiagnosticGateway.Relay

/-! # The two threads of a connection, step by step

A session thread and a forwarder share an active flag, a relay, a bus and the connection to a tester.
Any of them may take the next step, and so may those who are not part of the connection: an ECU that
answers, others who use the bus, and a closer that lowers the flag and then closes the relay. A
message is written to the tester as a whole, as nobody else can write at the same time. Writes and
reads may fail at any time.
-/

namespace DiagnosticGateway.Connection

open Bus (Frame)
open Doip (Message Sink Source)

/-! ## What the threads share -/

/-- A frame on its way to the forwarder. If an ECU answers a request with it, the request is told by
the number of messages that the session had read when it came to it. -/
structure Signal where
  frame : Frame
  answers : Option Nat

structure Shared where
  active : Bool
  relay : Relay
  /-- What the forwarder has not read from the bus yet, the oldest first. -/
  bus : List Signal
  /-- The bytes that were put out to the tester. -/
  out : List UInt8

/-- What may come of writing a message: a sink takes bytes of it, in one of its states. -/
def Puts (m : Message) (bytes : List UInt8) (outcome : Except Fault Unit) : Prop :=
  ∃ (τ : Type) (sink : Sink τ) (before after : τ),
    sink.writeMessage m before = (bytes, outcome, after)

theorem Puts.whole (m : Message) : Puts m m.toBytes (.ok ()) := by
  let sink : Sink Unit :=
    ⟨fun bytes s => (.ok bytes.length, s), fun _ => 0, fun _ _ _ failed => nomatch failed⟩
  have unfailing : sink.Unfailing := fun _ bytes _ => ⟨bytes.length, rfl⟩
  have written := unfailing.writeMessage m ()
  exact ⟨Unit, sink, (), (), Prod.ext (sink.writeMessage_of_ok m () written) (Prod.ext written rfl)⟩

namespace Shared

/-- What a call of the session thread is answered, and what it leaves. -/
inductive ServesSession (timeout : Span) : Shared → Session.Call → Shared → Prop where
  | look {s} : ServesSession timeout s (.look s.active) s
  | read {s result} : ServesSession timeout s (.read result) s
  | reply {s m bytes outcome} :
    Puts m bytes outcome →
    ServesSession timeout s (.reply m outcome) { s with out := s.out ++ bytes }
  | write {s frame outcome} : ServesSession timeout s (.link (.write frame outcome)) s
  | wait {s outcome relay} :
    s.relay.wait timeout = (outcome, relay) →
    ServesSession timeout s (.link (.wait outcome)) { s with relay }
  | clear {s} : ServesSession timeout s (.link .clear) { s with relay := s.relay.clear.2 }

/-- What a call of the forwarder is answered, and what it leaves. A frame that is read may answer a
request. -/
inductive ServesForwarder : Shared → Forwarder.Call → Option Nat → Shared → Prop where
  | look {s} : ServesForwarder s (.look s.active) none s
  | frame {s signal rest} :
    s.bus = signal :: rest →
    ServesForwarder s (.read (.ok (.frame signal.frame))) signal.answers { s with bus := rest }
  | timeout {s} : ServesForwarder s (.read (.ok .timeout)) none s
  | broken {s fault} : ServesForwarder s (.read (.error fault)) none s
  | nothing {s} : ServesForwarder s (.act .none (.ok ())) none s
  | relay {s fc} :
    ServesForwarder s (.act (.relay fc) (.ok ())) none { s with relay := (s.relay.push fc).2 }
  | write {s frame outcome} : ServesForwarder s (.act (.write frame) outcome) none s
  | deliver {s m bytes outcome} :
    Puts m bytes outcome →
    ServesForwarder s (.act (.deliver m) outcome) none { s with out := s.out ++ bytes }

end Shared

/-! ## All of them -/

/-- A call of one of the two threads. -/
inductive Happening where
  /-- A call of the session thread, after so many messages were read. -/
  | session (reads : Nat) (call : Session.Call)
  /-- A call of the forwarder. A frame that it reads may answer a request. -/
  | forwarder (call : Forwarder.Call) (answers : Option Nat)

/-- A frame of the request with this number was written to the bus. -/
def Happening.Writes (history : List Happening) (request : Nat) : Prop :=
  ∃ frame, .session request (.link (.write frame (.ok ()))) ∈ history

structure State where
  session : Session.Thread
  forwarder : Forwarder.Point
  shared : Shared
  /-- All calls so far. -/
  history : List Happening

/-- A connection before the first call, with all that will come from the tester, and with whatever is
in the relay and on the bus. -/
def State.initial (source : Source) (relay : Relay) (bus : List Frame) : State where
  session := ⟨.looking, .connected, source, 0⟩
  forwarder := .looking none
  shared := ⟨true, relay, bus.map (⟨·, none⟩), []⟩
  history := []

inductive Step (c : Config) : State → State → Prop where
  /-- The session thread makes a call. -/
  | session {session forwarder shared history call next shared'} :
    Session.Thread.Step c session (some call) next →
    shared.ServesSession (Session.sender c).timeout call shared' →
    Step c ⟨session, forwarder, shared, history⟩
      ⟨next, forwarder, shared', history ++ [.session next.reads call]⟩
  /-- The session thread goes on without a call. -/
  | silent {session forwarder shared history next} :
    Session.Thread.Step c session none next →
    Step c ⟨session, forwarder, shared, history⟩ ⟨next, forwarder, shared, history⟩
  /-- The forwarder makes a call. -/
  | forwarder {session forwarder shared history call next answers shared'} :
    Forwarder.Point.Step (.ofConfig c) forwarder (some call) next →
    shared.ServesForwarder call answers shared' →
    Step c ⟨session, forwarder, shared, history⟩
      ⟨session, next, shared', history ++ [.forwarder call answers]⟩
  /-- A frame comes in. An ECU that answers a request has seen a frame of it. -/
  | signal {session forwarder shared history signal} :
    (∀ request ∈ signal.answers, Happening.Writes history request) →
    Step c ⟨session, forwarder, shared, history⟩
      ⟨session, forwarder, { shared with bus := shared.bus ++ [signal] }, history⟩
  /-- A closer lowers the flag. -/
  | lower {session forwarder shared history} :
    Step c ⟨session, forwarder, shared, history⟩
      ⟨session, forwarder, { shared with active := false }, history⟩
  /-- A closer that has lowered the flag closes the relay. -/
  | close {session forwarder shared history} :
    shared.active = false →
    Step c ⟨session, forwarder, shared, history⟩
      ⟨session, forwarder, { shared with relay := shared.relay.close }, history⟩

/-- The states that some order of steps leads to. -/
def Reachable (c : Config) (start s : State) : Prop := Relation.ReflTransGen (Step c) start s

variable {c : Config} {s t : State} {x : Happening}

/-- A step makes one call or none. -/
theorem Step.history_cases (step : Step c s t) :
    t.history = s.history ∨ ∃ x, t.history = s.history ++ [x] := by
  cases step with
  | session | forwarder => exact .inr ⟨_, rfl⟩
  | silent | signal | lower | close => exact .inl rfl

theorem Step.call_cases (step : Step c s t) (grown : t.history = s.history ++ [x]) :
    (∃ call, x = .session t.session.reads call ∧
      Session.Thread.Step c s.session (some call) t.session) ∨
    ∃ call answers, x = .forwarder call answers ∧
      Forwarder.Point.Step (.ofConfig c) s.forwarder (some call) t.forwarder := by
  cases step with
  | session step =>
      obtain rfl := List.singleton_inj.mp (List.append_cancel_left grown)
      exact .inl ⟨_, rfl, step⟩
  | forwarder step =>
      obtain rfl := List.singleton_inj.mp (List.append_cancel_left grown)
      exact .inr ⟨_, _, rfl, step⟩
  | silent | signal | lower | close =>
      cases List.self_eq_append_right.mp grown

/-- Every call was made in a state in which all calls before it, and no others, had been made. -/
theorem Reachable.exists_step {start before after} (reached : Reachable c start s)
    (fresh : start.history = []) (split : s.history = before ++ x :: after) :
    ∃ t u, Reachable c start t ∧ t.history = before ∧ Step c t u ∧ u.history = before ++ [x] := by
  induction reached generalizing after with
  | refl =>
      rw [fresh] at split
      cases before <;> cases split
  | @tail t u reached step ih =>
      rcases step.history_cases with same | ⟨y, grown⟩
      · exact ih (same ▸ split)
      · -- The call is the latest one, or it is among those before the latest.
        rcases List.eq_nil_or_concat after with rfl | ⟨more, z, rfl⟩
        · obtain ⟨all, last⟩ := List.append_inj' (grown.symm.trans split) rfl
          exact ⟨t, u, reached, all, step, by rw [grown, all, last]⟩
        · rw [List.concat_eq_append, ← List.cons_append, ← List.append_assoc] at split
          exact ih (List.append_inj' (grown.symm.trans split) rfl).1

def sessionCalls (history : List Happening) : List Session.Call :=
  history.filterMap fun
    | .session _ call => some call
    | .forwarder _ _ => none

end DiagnosticGateway.Connection
