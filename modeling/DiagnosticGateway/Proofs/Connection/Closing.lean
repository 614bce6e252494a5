import DiagnosticGateway.Proofs.Connection.System
import DiagnosticGateway.Proofs.Session.Interruption

/-! # What a closed relay leaves to the sender

A closer lowers the active flag before it closes the relay. So when the relay is closed the flag is
down, and from then on all calls of the session thread are answered as those of a thread that is
interrupted, even if there is flow control in the relay.
-/

namespace DiagnosticGateway.Connection

open Bus (Frame)
open Doip (Message Source)
open IsoTp (FlowControl)
open Session (Accounts Call Opens Thread sender)
open Threads (Run)

/-- The flag is down and the relay is closed. -/
structure Shared.Shut (s : Shared) : Prop where
  inactive : s.active = false
  closed : s.relay.closed = true

/-- A step that leaves the flag and the relay as they are, up to what is in the relay. -/
structure Shared.Same (s s' : Shared) : Prop where
  active : s'.active = s.active
  closed : s'.relay.closed = s.relay.closed

namespace Shared

variable {s s' : Shared}

theorem Shut.same (shut : s.Shut) (same : s.Same s') : s'.Shut :=
  ⟨same.active.trans shut.inactive, same.closed.trans shut.closed⟩

theorem ServesSession.same {timeout call} (served : s.ServesSession timeout call s') :
    s.Same s' := by
  cases served with
  | look | read | reply | write | clear => exact ⟨rfl, rfl⟩
  | wait waited =>
      refine ⟨rfl, ?_⟩
      unfold Relay.wait at waited
      split at waited
      · cases waited
        rfl
      · split at waited <;> cases waited <;> rfl

theorem ServesSession.late {timeout call} (served : s.ServesSession timeout call s')
    (shut : s.Shut) : call.Late := by
  cases served with
  | look => exact shut.inactive
  | read | reply | write | clear => exact trivial
  | wait waited =>
      rw [Relay.wait, if_pos shut.closed] at waited
      cases waited
      rfl

theorem ServesForwarder.same {call answers} (served : s.ServesForwarder call answers s') :
    s.Same s' := by
  cases served with
  | look | frame | timeout | broken | nothing | write | deliver => exact ⟨rfl, rfl⟩
  | relay =>
      refine ⟨rfl, ?_⟩
      simp only [Relay.push]
      split
      · rfl
      · split <;> rfl

end Shared

variable {c : Config} {s t : State}

/-- A step of a connection is a run of its session thread, whose calls are answered late if the
relay is closed. -/
theorem Step.session_run (step : Step c s t) :
    ∃ calls, sessionCalls t.history = sessionCalls s.history ++ calls ∧
      Run (Thread.Step c) s.session calls t.session ∧
      (s.shared.Shut → t.shared.Shut ∧ ∀ call ∈ calls, call.Late) := by
  cases step with
  | session step served =>
      exact ⟨_, List.filterMap_append, .step step .refl, fun shut =>
        ⟨shut.same served.same, List.forall_mem_singleton.mpr (served.late shut)⟩⟩
  | silent step =>
      exact ⟨[], (List.append_nil _).symm, .step step .refl, fun shut =>
        ⟨shut, List.forall_mem_nil _⟩⟩
  | forwarder step served =>
      exact ⟨[], List.filterMap_append, .refl, fun shut =>
        ⟨shut.same served.same, List.forall_mem_nil _⟩⟩
  | signal =>
      exact ⟨[], (List.append_nil _).symm, .refl, fun shut =>
        ⟨⟨shut.inactive, shut.closed⟩, List.forall_mem_nil _⟩⟩
  | lower =>
      exact ⟨[], (List.append_nil _).symm, .refl, fun shut =>
        ⟨⟨rfl, shut.closed⟩, List.forall_mem_nil _⟩⟩
  | close =>
      exact ⟨[], (List.append_nil _).symm, .refl, fun shut =>
        ⟨⟨shut.inactive, rfl⟩, List.forall_mem_nil _⟩⟩

theorem session_run (reached : Reachable c s t) :
    ∃ calls, sessionCalls t.history = sessionCalls s.history ++ calls ∧
      Run (Thread.Step c) s.session calls t.session ∧
      (s.shared.Shut → t.shared.Shut ∧ ∀ call ∈ calls, call.Late) := by
  induction reached with
  | refl =>
      exact ⟨[], (List.append_nil _).symm, .refl, fun shut => ⟨shut, List.forall_mem_nil _⟩⟩
  | tail _ step ih =>
      obtain ⟨calls, logged, run, late⟩ := ih
      obtain ⟨more, loggedToo, next, lateToo⟩ := step.session_run
      refine ⟨calls ++ more, ?_, run.trans next, fun shut => ?_⟩
      · rw [loggedToo, logged, List.append_assoc]
      · have ⟨still, these⟩ := late shut
        have ⟨last, those⟩ := lateToo still
        exact ⟨last, List.forall_mem_append.mpr ⟨these, those⟩⟩

/-- The flag is down whenever the relay is closed, since a closer lowers it first. -/
theorem shut_of_closed {source relay bus} (opened : relay.closed = false)
    (reached : Reachable c (.initial source relay bus) s) (closed : s.shared.relay.closed = true) :
    s.shared.Shut := by
  refine ⟨?_, closed⟩
  induction reached with
  | refl =>
      rw [State.initial, opened] at closed
      cases closed
  | tail _ step ih =>
      cases step with
      | session _ served =>
          have same := served.same
          rw [same.active]
          exact ih (same.closed.symm.trans closed)
      | forwarder _ served =>
          have same := served.same
          rw [same.active]
          exact ih (same.closed.symm.trans closed)
      | silent | signal => exact ih closed
      | lower => rfl
      | close inactive => exact inactive

/-- Once the relay is closed, no wait gives flow control, whatever is left in the relay; the session
thread reads no further message but the one that it is about to read; its sender only tries to write
what is left of the block for which it has been cleared, or one frame to start with; and a wait that
the close interrupts ends the session without a refusal and without a fault. -/
theorem closing_stops_sender {source relay bus} (opened : relay.closed = false)
    (before : Reachable c (.initial source relay bus) s) (closed : s.shared.relay.closed = true)
    (after : Reachable c s t) :
    ∃ calls, sessionCalls t.history = sessionCalls s.history ++ calls ∧
      (∀ fc, .link (.wait (.ok fc)) ∉ calls) ∧
      (t.session.reads = s.session.reads ∨
        s.session.point = .reading ∧ t.session.reads = s.session.reads + 1) ∧
      ((∃ data phase older fc p since, s.session.point = .underway data phase ∧
          sessionCalls s.history = older ++ .link (.wait (.ok fc)) :: since.map Call.wrote ∧
          fc.status = .continueToSend ∧
          (sender c).remaining p <:+ (sender c).consecutives data ∧
          since ++ calls.filterMap Call.frame? <+: (sender c).clearance p fc) ∨
        calls.filterMap Call.frame? = [] ∨
        ∃ data frame, s.session.Unsent c data ∧ Opens c data frame ∧
          calls.filterMap Call.frame? = [frame]) ∧
      (∀ sent rest, calls = sent ++ .link (.wait (.error .relayClosed)) :: rest →
        (∀ call ∈ rest, call = .look false) ∧
        ∀ outcome, t.session.point = .ended outcome → outcome = .ok ()) := by
  have shut := shut_of_closed opened before closed
  obtain ⟨earlier, logged, past, _⟩ := session_run before
  obtain ⟨calls, extended, run, late⟩ := session_run after
  replace late := (late shut).2
  have accounts : Accounts c ([] ++ earlier) s.session.point :=
    Session.accounts_of_run past trivial
  have permits := Thread.permits_of_run run late
  rw [show sessionCalls s.history = earlier from logged] at extended ⊢
  refine ⟨calls, extended, ?_, Thread.reads_of_run run late, ?_, ?_⟩
  · intro fc taken
    exact nomatch late _ taken
  · unfold Thread.Permits at permits
    split at permits
    · rename_i data phase here
      rw [here] at accounts
      cases accounts with
      | awaiting | finished => exact .inr (.inl (List.prefix_nil.mp permits))
      | sending whole split go begun block =>
          refine .inl ⟨_, _, _, _, _, _, here, split, go, begun, ?_⟩
          rw [← block]
          exact (List.prefix_append_right_inj _).mpr permits
    · exact .inr permits
  · intro sent rest split
    have ⟨leaving, looked⟩ := Thread.leaves_of_interrupted run late split
    refine ⟨looked, fun outcome ended => ?_⟩
    rw [ended] at leaving
    cases leaving
    rfl

/-- A relay that is closed with flow control in it. The sender of eight bytes, which has sent its first
frame, does not get it and ends the session. -/
theorem late_clearance_not_taken :
    let data : List UInt8 := [0x22, 1, 2, 3, 4, 5, 6, 7]
    let source : Source :=
      [.data ([0x02, 0xFD, 0x80, 0x01, 0, 0, 0, 12, 0x0E, 0x00, 0x10, 0x00] ++ data)]
    let go : FlowControl := .continueToSend 0 0
    ∃ s t, Reachable {} (.initial source (.ofCapacity 8) []) s ∧
      s.shared.relay = ⟨8, [go], true⟩ ∧
      s.session.point = .underway data (.opened data) ∧
      Reachable {} s t ∧ t.session.point = .ended (.ok ()) ∧
      ∃ calls, sessionCalls t.history = sessionCalls s.history ++ calls ∧
        ∀ fc, .link (.wait (.ok fc)) ∉ calls := by
  intro data source go
  let start := State.initial source (.ofCapacity 8) []
  let out := (Session.acceptance {}).toBytes
  let request : Message :=
    ⟨⟨0x02, 0xFD, .diagnosticMessage, 12⟩, [0x0E, 0x00, 0x10, 0x00] ++ data⟩
  let first : Frame := ⟨0x7E0, [0x10, 8, 0x22, 1, 2, 3, 4, 5], by decide, by decide⟩
  let answer : Frame := ⟨0x7E8, [0x30, 0, 0], by decide, by decide⟩
  let sent : Thread := ⟨.underway data (.opened data), .connected, [], 1⟩
  let past : List Happening := [.session 0 (.look true), .session 1 (.read (.ok request)),
    .session 1 (.reply (Session.acceptance {}) (.ok ())), .session 1 (.link .clear),
    .session 1 (.link (.write first (.ok ())))]
  let relaying : List Happening := past ++ [.forwarder (.look true) none,
    .forwarder (.read (.ok (.frame answer))) none, .forwarder (.act (.relay go) (.ok ())) none]
  have built : IsoTp.Pci.firstFrame (sender {}).id data.length data = .ok first :=
    IsoTp.Pci.firstFrame_eq_ok_iff.mpr ⟨by decide, by decide, by decide, rfl, by decide⟩
  have put : IsoTp.Put (IsoTp.Pci.firstFrame (sender {}).id data.length data)
      (some (.write first (.ok ()))) (.ok ()) := built ▸ .written
  have accepted : Reachable {} start
      ⟨⟨.clearing data, .connected, [], 1⟩, .looking none, ⟨true, .ofCapacity 8, [], out⟩,
        past.take 3⟩ :=
    ((Relation.ReflTransGen.refl.tail (.session .look .look)).tail (.session (.read rfl) .read)).tail
      (.session .accept (.reply (.whole _)))
  have opened : Reachable {} start ⟨sent, .looking none, ⟨true, .ofCapacity 8, [], out⟩, past⟩ :=
    (accepted.tail (.session .clear .clear)).tail (.session (.first put) .write)
  have answered : Reachable {} start
      ⟨sent, .looking none, ⟨true, .ofCapacity 8, [⟨answer, none⟩], out⟩, past⟩ :=
    opened.tail (.signal nofun)
  have relayed : Reachable {} start
      ⟨sent, .looking none, ⟨true, ⟨8, [go], false⟩, [], out⟩, relaying⟩ :=
    ((answered.tail (.forwarder .look .look)).tail (.forwarder .read (.frame rfl))).tail
      (.forwarder .act .relay)
  have closed : Reachable {} start
      ⟨sent, .looking none, ⟨false, ⟨8, [go], true⟩, [], out⟩, relaying⟩ :=
    (relayed.tail .lower).tail (.close rfl)
  have interrupted : Step {} ⟨sent, .looking none, ⟨false, ⟨8, [go], true⟩, [], out⟩, relaying⟩ _ :=
    .session (.send .stranded) (.wait rfl)
  have ended := ((Relation.ReflTransGen.single interrupted).tail (.silent .settle)).tail
    (.session .look .look)
  have ⟨calls, logged, untaken, _⟩ := closing_stops_sender rfl closed rfl ended
  exact ⟨_, _, closed, rfl, rfl, ended, rfl, calls, logged, untaken⟩

end DiagnosticGateway.Connection
