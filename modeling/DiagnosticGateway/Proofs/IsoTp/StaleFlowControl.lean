import DiagnosticGateway.Bench.ScriptedBus
import DiagnosticGateway.Proofs.IsoTp.SenderCalls
import DiagnosticGateway.Proofs.Relay.Operations

/-! # Flow control from before a message

While a sender is at work, others push flow control into its relay and may close it. A lock makes
each use of the relay a step of its own, so whatever they do happens right before one of the calls
of the sender. The relay is cleared before a first frame goes out. From then on it does not matter
what was in it: neither is any of that taken, nor does it take the room of what comes.
-/

namespace DiagnosticGateway

open Bus (Frame)
open IsoTp (Call FlowControl Link Phase Sender)

namespace Relay

variable {relay : Relay}

def Event.pushed? : Event → Option FlowControl
  | .push fc => some fc
  | .close => none

theorem foldl_after (events : List Event) (relay : Relay) :
    events.foldl after relay = relay.run (events.map Event.operation) := by
  induction events generalizing relay with
  | nil => rfl
  | cons event events ih => cases event <;> exact ih _

/-- Relays that differ in their frames only are the same after a clear, whatever happens before. -/
theorem clear_foldl_after (events : List Event) (relay : Relay) :
    (events.foldl after relay).clear.2 =
      (events.foldl after { relay with frames := [] }).clear.2 := by
  rw [foldl_after, foldl_after]
  simp only [clear, capacity_run, closed_run]

theorem sublist_after (relay : Relay) (event : Event) :
    (relay.after event).frames.Sublist (relay.frames ++ event.pushed?.toList) := by
  cases event with
  | close => exact List.sublist_append_left _ _
  | push fc =>
      simp only [after, push]
      split
      · exact List.sublist_append_left _ _
      · split
        · exact (List.drop_sublist 1 _).append_right [fc]
        · exact List.Sublist.refl _

/-- Nothing is in a relay but what was there before and what was pushed, in this order. -/
theorem sublist_foldl_after (events : List Event) (relay : Relay) :
    (events.foldl after relay).frames.Sublist
      (relay.frames ++ events.filterMap Event.pushed?) := by
  induction events generalizing relay with
  | nil => exact List.sublist_append_left _ _
  | cons event events ih =>
      refine (ih (relay.after event)).trans ?_
      have here := (sublist_after relay event).append_right (events.filterMap Event.pushed?)
      rw [List.append_assoc] at here
      cases event <;> exact here

theorem frames_of_wait_ok {timeout fc} (taken : (relay.wait timeout).1 = .ok fc) :
    relay.frames = fc :: (relay.wait timeout).2.frames := by
  obtain ⟨capacity, frames, _ | _⟩ := relay
  · cases frames with
    | nil => nomatch taken
    | cons first rest =>
        cases taken
        rfl
  · nomatch taken

theorem wait_of_error {timeout fault} (failed : (relay.wait timeout).1 = .error fault) :
    (relay.wait timeout).2 = relay := by
  obtain ⟨capacity, frames, _ | _⟩ := relay
  · cases frames with
    | nil => rfl
    | cons => nomatch failed
  · rfl

end Relay

namespace IsoTp

def Call.taken? : Call → Option FlowControl
  | .wait (.ok fc) => some fc
  | _ => none

/-- A sender's bus and relay, and what reaches the relay right before each of its calls. -/
structure Surroundings (β : Type) where
  bus : β
  relay : Relay
  script : List (List Relay.Event)

namespace Surroundings

variable {β : Type} {s : Surroundings β}

/-- What was scripted for the next call happens. -/
def settle (s : Surroundings β) : Surroundings β :=
  ⟨s.bus, (s.script.headD []).foldl Relay.after s.relay, s.script.drop 1⟩

/-- The flow control in the relay and what is still to be pushed. -/
def pending (s : Surroundings β) : List FlowControl :=
  s.relay.frames ++ s.script.flatten.filterMap Relay.Event.pushed?

theorem settle_pending (s : Surroundings β) : s.settle.pending.Sublist s.pending := by
  obtain ⟨bus, relay, _ | ⟨events, script⟩⟩ := s
  · exact List.Sublist.refl _
  · simp only [pending, List.flatten_cons, List.filterMap_append, ← List.append_assoc]
    exact (Relay.sublist_foldl_after events relay).append_right _

def wait (timeout : Span) (s : Surroundings β) : Except Fault FlowControl × Surroundings β :=
  ((s.settle.relay.wait timeout).1, { s.settle with relay := (s.settle.relay.wait timeout).2 })

/-- What a wait takes comes from the front. -/
theorem wait_pending (timeout : Span) (s : Surroundings β) :
    ((Call.wait (s.wait timeout).1).taken?.toList ++ (s.wait timeout).2.pending).Sublist
      s.pending := by
  refine List.Sublist.trans ?_ s.settle_pending
  simp only [wait]
  cases waited : (s.settle.relay.wait timeout).1 with
  | error fault =>
      rw [Relay.wait_of_error waited]
      exact List.Sublist.refl _
  | ok fc =>
      simp only [pending, Relay.frames_of_wait_ok waited]
      exact List.Sublist.refl _

/-- The bus may do anything with a frame, and fail at any. -/
def link (write : Frame → β → Except Fault Unit × β) : Link (Surroundings β) where
  write frame s := ((write frame s.bus).1, { s.settle with bus := (write frame s.bus).2 })
  wait := wait
  clear s := { s.settle with relay := s.settle.relay.clear.2 }
  supply s := s.pending.length
  supply_lt timeout s fc taken := by
    have front := (s.wait_pending timeout).length_le
    rw [taken] at front
    exact front

/-- The same with an empty relay. -/
def fresh (s : Surroundings β) : Surroundings β :=
  { s with relay := { s.relay with frames := [] } }

variable {write : Frame → β → Except Fault Unit × β}

theorem clear_fresh (s : Surroundings β) :
    (link write).clear s = (link write).clear s.fresh := by
  simp only [link, settle, fresh, Relay.clear_foldl_after (s.script.headD []) s.relay]

theorem clear_pending (s : Surroundings β) :
    ((link write).clear s).pending =
      (s.script.drop 1).flatten.filterMap Relay.Event.pushed? :=
  rfl

variable {sender : Sender}

theorem put_pending (write : Frame → β → Except Fault Unit × β) (frame : Except Fault Frame)
    (s : Surroundings β) :
    (Sender.put (link write) frame s).2.pending.Sublist s.pending := by
  cases frame with
  | error => exact List.Sublist.refl _
  | ok frame => exact s.settle_pending

theorem putCalls_taken (frame : Except Fault Frame) (s : Surroundings β) :
    (Sender.putCalls (link write) frame s).filterMap Call.taken? = [] := by
  cases frame <;> rfl

theorem advance_pending (phase : Phase) (s : Surroundings β) :
    ((sender.stepCalls (link write) phase s).filterMap Call.taken? ++
      (sender.advance (link write) phase s).2.pending).Sublist s.pending := by
  cases phase with
  | finished => exact List.Sublist.refl _
  | awaiting p =>
      have front := s.wait_pending sender.timeout
      simp only [Sender.advance, Sender.stepCalls, link]
      cases waited : s.wait sender.timeout with
      | mk answer s' =>
          rw [waited] at front
          cases answer <;> exact front
  | sending p room =>
      have here := put_pending write (sender.nextFrame p) s
      simp only [Sender.advance, Sender.stepCalls]
      split
      · exact List.Sublist.refl _
      · rw [putCalls_taken, List.nil_append]
        cases wrote : Sender.put (link write) (sender.nextFrame p) s with
        | mk outcome s' =>
            rw [wrote] at here
            cases outcome <;> exact here

/-- A run takes nothing but what is there and what comes, in this order. -/
theorem run_pending (phase : Phase) (s : Surroundings β) :
    ((sender.runCalls (link write) phase s).filterMap Call.taken? ++
      (sender.run (link write) phase s).2.pending).Sublist s.pending := by
  induction phase, s using Sender.advance_induction sender (link write) with
  | finished outcome s =>
      rw [Sender.runCalls_finished, Sender.run_finished]
      exact List.Sublist.refl _
  | step phase s _ ih =>
      rw [Sender.runCalls_advance, Sender.run_advance, List.filterMap_append, List.append_assoc]
      exact (ih.append_left _).trans (advance_pending phase s)

variable {data : List UInt8}

theorem send_fresh (large : singleMax < data.length) (small : data.length ≤ maxMessage)
    (s : Surroundings β) :
    sender.send (link write) data s = sender.send (link write) data s.fresh := by
  rw [Sender.send_segmented large small, Sender.send_segmented large small, clear_fresh]

theorem calls_fresh (large : singleMax < data.length) (small : data.length ≤ maxMessage)
    (s : Surroundings β) :
    sender.calls (link write) data s = sender.calls (link write) data s.fresh := by
  rw [Sender.calls_segmented large small, Sender.calls_segmented large small, clear_fresh]

theorem send_pending (large : singleMax < data.length) (small : data.length ≤ maxMessage)
    (s : Surroundings β) :
    ((sender.calls (link write) data s).filterMap Call.taken? ++
      (sender.send (link write) data s).2.pending).Sublist
        ((s.script.drop 1).flatten.filterMap Relay.Event.pushed?) := by
  have first_pending := put_pending write
    (Pci.firstFrame sender.id data.length data) ((link write).clear s)
  rw [clear_pending] at first_pending
  rw [Sender.calls_segmented large small, Sender.send_segmented large small]
  simp only [List.filterMap_cons, Call.taken?, List.filterMap_append, putCalls_taken,
    List.nil_append]
  cases first : Sender.put (link write) (Pci.firstFrame sender.id data.length data)
      ((link write).clear s) with
  | mk outcome s' =>
      rw [first] at first_pending
      cases outcome with
      | error => exact first_pending
      | ok => exact (run_pending _ s').trans first_pending

/-- Flow control that is in the relay when a segmented message begins has no effect: with it and
without it the sender makes the same calls, with the same answers, and leaves the same behind.
Whatever happens to the relay meanwhile, all that the sender takes was pushed after the clear. -/
theorem stale_flow_control_has_no_effect (write : Frame → β → Except Fault Unit × β)
    (sender : Sender) (large : singleMax < data.length) (small : data.length ≤ maxMessage)
    (s : Surroundings β) :
    sender.send (link write) data s = sender.send (link write) data s.fresh ∧
      sender.calls (link write) data s = sender.calls (link write) data s.fresh ∧
      ((sender.calls (link write) data s).filterMap Call.taken? ++
        (sender.send (link write) data s).2.pending).Sublist
          ((s.script.drop 1).flatten.filterMap Relay.Event.pushed?) :=
  ⟨send_fresh large small s, calls_fresh large small s, send_pending large small s⟩

open Bench in
/-- An old overflow and an old clearance fill the relay. During the message three frames are pushed
at once, so the first of them is displaced, and the second of them clears the way. -/
theorem old_overflow_has_no_effect :
    let sender : Sender := ⟨0x7E0, 0xCC, .ofMillis 1000⟩
    let stale : List FlowControl := [⟨.overflow, 0, ⟨0⟩⟩, ⟨.continueToSend, 0, ⟨0⟩⟩]
    let pushes : List Relay.Event := [.push ⟨.wait, 0, ⟨0⟩⟩, .push ⟨.continueToSend, 2, ⟨10⟩⟩,
      .push ⟨.continueToSend, 1, ⟨0⟩⟩]
    let s : Surroundings ScriptedBus := ⟨⟨[], 0, []⟩, ⟨2, stale, false⟩, [[], [], pushes]⟩
    let data : List UInt8 := [0x22, 0xF1, 0x90, 1, 2, 3, 4, 5, 6]
    let write (frame : Frame) (bus : ScriptedBus) := bus.write frame
    let link := link write
    sender.send link data s = sender.send link data s.fresh ∧
      sender.calls link data s = sender.calls link data s.fresh ∧
      (sender.send link data s).1 = .ok () ∧
      (sender.send link data s).2.relay.frames = [⟨.continueToSend, 1, ⟨0⟩⟩] := by
  intro sender stale pushes s data write link
  have large : singleMax < data.length := by decide
  have small : data.length ≤ maxMessage := by decide
  obtain ⟨sent, called, -⟩ := stale_flow_control_has_no_effect write sender large small s
  have done : ∃ s', sender.send link data s = (.ok (), s') ∧
      s'.relay.frames = [⟨.continueToSend, 1, ⟨0⟩⟩] := by
    rw [Sender.send_segmented large small]
    exact ⟨_, Sender.run_of_steps 2 rfl, rfl⟩
  obtain ⟨s', ends, left⟩ := done
  rw [ends] at sent
  exact ⟨ends.trans sent, called, congrArg Prod.fst ends, by rw [ends]; exact left⟩

end Surroundings

end IsoTp
end DiagnosticGateway
