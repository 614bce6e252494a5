import DiagnosticGateway.Forwarder
import DiagnosticGateway.Proofs.Doip.Encoding
import DiagnosticGateway.Proofs.IsoTp.Segmentation

/-! # What a forwarder does about events

What the content of a frame can be wrong about only drops the message in progress. So as long as
the forwarder's own frames can be built, every event has a reaction, and a run over events whose
writes succeed is the sequence of these reactions, whatever the bus and the connection are.
-/

namespace DiagnosticGateway

open Bus (Frame)
open Doip (Diagnostic Message)
open IsoTp (FlowControl FrameKind Pci Reassembly Receipt Receiver)

/-! ## Faults of content -/

namespace IsoTp

theorem Pci.isFraming_of_ofData {data fault} (refused : Pci.ofData data = .error fault) :
    fault.isFraming = true := by
  unfold Pci.ofData at refused
  split at refused
  · cases refused
    rfl
  · simp only at refused
    split at refused <;> (try split at refused) <;> cases refused <;> rfl

namespace Receiver

variable {receiver : Receiver} {frame : Frame} {fault : Fault}

theorem isFraming_of_start (idLe : receiver.id ≤ Bus.maxIdentifier)
    (refused : receiver.start frame = .error fault) : fault.isFraming = true := by
  unfold start at refused
  cases read : Pci.ofData frame.data with
  | error other =>
      rw [read] at refused
      cases refused
      exact Pci.isFraming_of_ofData read
  | ok pci =>
      rw [read] at refused
      cases pci with
      | single data => nomatch refused
      | consecutive | flowControl => cases refused; rfl
      | first total data =>
          simp only [bind, Except.bind] at refused
          split at refused
          · cases refused
            rfl
          · split at refused
            · cases refused
              rfl
            · obtain ⟨reply, paced⟩ := exists_paced idLe ⟨total, data.take firstData, 1, 0⟩
              rw [paced] at refused
              cases refused

theorem isFraming_of_extend {state : Reassembly} (idLe : receiver.id ≤ Bus.maxIdentifier)
    (refused : receiver.extend state frame = .error fault) : fault.isFraming = true := by
  cases read : Pci.ofData frame.data with
  | error other =>
      rw [extend, read] at refused
      cases refused
      exact Pci.isFraming_of_ofData read
  | ok pci =>
      cases pci with
      | single | first | flowControl =>
          rw [extend, read] at refused
          cases refused
          rfl
      | consecutive sequence bytes =>
          by_cases expected : sequence = state.expected
          · rw [expected] at read
            rw [extend_consecutive read] at refused
            obtain ⟨inBlock, reply, counted⟩ := exists_count idLe (state.append bytes)
            rw [counted] at refused
            split at refused <;> cases refused
          · simp only [extend, read, bind, Except.bind, ne_eq, expected, not_false_eq_true,
              if_true] at refused
            cases refused
            rfl

end Receiver

end IsoTp

namespace Forwarder

variable {fw : Forwarder} {pending : Option Reassembly} {σ : Type} {wiring : Wiring σ}

/-! ## Messages to the tester -/

/-- What reaches the tester is a diagnostic message from the ECU. -/
theorem ofPayload_message (fw : Forwarder) (data : List UInt8) :
    Diagnostic.ofPayload (fw.message data).payload =
      .ok ⟨fw.ecu, fw.tester, wrapResponse data⟩ :=
  Diagnostic.ofPayload_toPayload _

theorem toWire_type_message (fw : Forwarder) (data : List UInt8) :
    (fw.message data).header.type.toWire = 0x8001 :=
  rfl

theorem length_payload_message (fw : Forwarder) (data : List UInt8) :
    (fw.message data).payload.length = Doip.addressBytes + (wrapResponse data).length :=
  Diagnostic.length_toPayload _

/-! ## Reactions -/

theorem isFraming_of_receive (idLe : fw.requestId ≤ Bus.maxIdentifier) {frame fault}
    (refused : fw.receive pending frame = .error fault) : fault.isFraming = true := by
  unfold receive at refused
  cases pending with
  | none => exact Receiver.isFraming_of_start idLe refused
  | some state =>
      simp only at refused
      split at refused
      · exact Receiver.isFraming_of_extend idLe refused
      · exact Receiver.isFraming_of_start idLe refused

theorem exists_react (idLe : fw.requestId ≤ Bus.maxIdentifier) (pending : Option Reassembly)
    (event : Event) : ∃ reaction, fw.react pending event = .ok reaction := by
  cases event with
  | timeout => exact ⟨_, rfl⟩
  | frame frame =>
      simp only [react]
      split
      · exact ⟨_, rfl⟩
      · split
        · cases FlowControl.ofData frame.data with
          | ok | error => exact ⟨_, rfl⟩
        · cases received : fw.receive pending frame with
          | ok => exact ⟨_, rfl⟩
          | error fault => exact ⟨_, if_pos (isFraming_of_receive idLe received)⟩

/-- What a forwarder does about an event, and the message that is then in progress. -/
def respond (fw : Forwarder) (pending : Option Reassembly) (event : Event) :
    Action × Option Reassembly :=
  match fw.react pending event with
  | .ok reaction => reaction
  | .error _ => (.none, none)

theorem react_eq (idLe : fw.requestId ≤ Bus.maxIdentifier) (pending : Option Reassembly)
    (event : Event) : fw.react pending event = .ok (fw.respond pending event) := by
  obtain ⟨reaction, reacted⟩ := exists_react idLe pending event
  rw [respond, reacted]

def Action.toList : Action → List Action
  | .none => []
  | action => [action]

/-- What a forwarder does about events, and the message that is then in progress. -/
def responses (fw : Forwarder) : Option Reassembly → List Event → List Action × Option Reassembly
  | pending, [] => ([], pending)
  | pending, event :: events =>
    ((fw.respond pending event).1.toList ++ (fw.responses (fw.respond pending event).2 events).1,
      (fw.responses (fw.respond pending event).2 events).2)

theorem responses_append (first second : List Event) :
    ∀ pending, fw.responses pending (first ++ second) =
      ((fw.responses pending first).1 ++ (fw.responses (fw.responses pending first).2 second).1,
        (fw.responses (fw.responses pending first).2 second).2) := by
  induction first with
  | nil => intro pending; rfl
  | cons event first ih =>
      intro pending
      simp only [List.cons_append, responses, ih, List.append_assoc]

/-! ## Runs -/

/-- The same wiring, which also records what is done. -/
def Wiring.recording (wiring : Wiring σ) : Wiring (List Action × σ) where
  write frame s :=
    match wiring.write frame s.2 with
    | (.ok (), after) => (.ok (), s.1 ++ [.write frame], after)
    | (.error fault, after) => (.error fault, s.1, after)
  push fc s := (s.1 ++ [.relay fc], wiring.push fc s.2)
  deliver message s :=
    match wiring.deliver message s.2 with
    | (.ok (), after) => (.ok (), s.1 ++ [.deliver message], after)
    | (.error fault, after) => (.error fault, s.1, after)

/-- A bus and a connection to the tester whose writes succeed. -/
structure Wiring.Reliable (wiring : Wiring σ) : Prop where
  write : ∀ frame s, (wiring.write frame s).1 = .ok ()
  deliver : ∀ message s, (wiring.deliver message s).1 = .ok ()

theorem perform_reliable (reliable : wiring.Reliable) (action : Action) (s : σ) :
    (perform wiring action s).1 = .ok () := by
  cases action with
  | none | relay => rfl
  | write frame => exact reliable.write frame s
  | deliver message => exact reliable.deliver message s

/-- An action that fails ends a run, unless the bus refuses the content of a frame. -/
theorem conclude_error (action : Action) (pending : Option Reassembly) (fault : Fault) :
    ((∀ frame, action = .write frame → fault.isFraming = false) ∧
      conclude action pending (.error fault) = .error fault) ∨
    ((∃ frame, action = .write frame) ∧ fault.isFraming = true ∧
      conclude action pending (.error fault) = .ok none) := by
  cases action with
  | none | relay | deliver => exact .inl ⟨nofun, rfl⟩
  | write frame =>
      cases framing : fault.isFraming with
      | false => exact .inl ⟨fun _ _ => rfl, if_neg (Bool.eq_false_iff.mp framing)⟩
      | true => exact .inr ⟨⟨frame, rfl⟩, rfl, if_pos framing⟩

theorem perform_recording (reliable : wiring.Reliable) (action : Action) (log : List Action)
    (s : σ) :
    perform wiring.recording action (log, s) =
      (.ok (), log ++ action.toList, (perform wiring action s).2) := by
  cases action with
  | none => simp only [perform, Action.toList, List.append_nil]
  | relay fc => rfl
  | write frame =>
      have wrote : wiring.write frame s = (.ok (), (wiring.write frame s).2) :=
        Prod.ext (reliable.write frame s) rfl
      simp only [perform, Wiring.recording]
      rw [wrote]
      rfl
  | deliver message =>
      have delivered : wiring.deliver message s = (.ok (), (wiring.deliver message s).2) :=
        Prod.ext (reliable.deliver message s) rfl
      simp only [perform, Wiring.recording]
      rw [delivered]
      rfl

/-- A run over events does what the reactions to them call for, one after the other. -/
theorem exists_forward (idLe : fw.requestId ≤ Bus.maxIdentifier) (reliable : wiring.Reliable)
    (events : List Event) :
    ∀ pending (log : List Action) (s : σ), ∃ after,
      fw.forward wiring pending (events.map .ok) s = (.ok (fw.responses pending events).2, after) ∧
        fw.forward wiring.recording pending (events.map .ok) (log, s) =
          (.ok (fw.responses pending events).2, log ++ (fw.responses pending events).1,
            after) := by
  induction events with
  | nil =>
      intro pending log s
      exact ⟨s, rfl, by simp only [List.map_nil, forward, responses, List.append_nil]⟩
  | cons event events ih =>
      intro pending log s
      let reaction := fw.respond pending event
      obtain ⟨after, bare, recorded⟩ :=
        ih reaction.2 (log ++ reaction.1.toList) (perform wiring reaction.1 s).2
      have performed : perform wiring reaction.1 s = (.ok (), (perform wiring reaction.1 s).2) :=
        Prod.ext (perform_reliable reliable _ s) rfl
      refine ⟨after, ?_, ?_⟩
      · simp only [List.map_cons, forward, step, react_eq idLe]
        rw [performed]
        exact bare
      · simp only [List.map_cons, forward, step, react_eq idLe]
        rw [perform_recording reliable]
        simp only [responses, ← List.append_assoc]
        exact recorded

/-! ## Runs that may fail -/

/-- The events that a run comes to handle: those before the first one without a reaction. -/
def handled (fw : Forwarder) : Option Reassembly → List Event → List Event
  | _, [] => []
  | pending, event :: events =>
    match fw.react pending event with
    | .ok reaction => event :: fw.handled reaction.2 events
    | .error _ => []

theorem handled_isPrefix (events : List Event) :
    ∀ pending, fw.handled pending events <+: events := by
  induction events with
  | nil => intro pending; exact List.prefix_rfl
  | cons event events ih =>
      intro pending
      unfold handled
      split
      · exact List.cons_prefix_cons.mpr ⟨rfl, ih _⟩
      · exact List.nil_prefix

theorem handled_eq (idLe : fw.requestId ≤ Bus.maxIdentifier) (events : List Event) :
    ∀ pending, fw.handled pending events = events := by
  induction events with
  | nil => intro pending; rfl
  | cons event events ih =>
      intro pending
      simp only [handled, react_eq idLe, ih]

/-- What is recorded of a run are the reactions to the events that it handles. -/
theorem log_forward (reliable : wiring.Reliable) (events : List Event) :
    ∀ pending (log : List Action) (s : σ),
      (fw.forward wiring.recording pending (events.map .ok) (log, s)).2.1 =
        log ++ (fw.responses pending (fw.handled pending events)).1 := by
  induction events with
  | nil => intro pending log s; exact (List.append_nil log).symm
  | cons event events ih =>
      intro pending log s
      cases reacts : fw.react pending event with
      | error fault =>
          simp only [List.map_cons, forward, step, reacts, handled, responses, List.append_nil]
      | ok reaction =>
          have responds : fw.respond pending event = reaction := by rw [respond, reacts]
          simp only [List.map_cons, forward, step, reacts, handled, responses, responds,
            perform_recording reliable, conclude, ih, List.append_assoc]

end Forwarder

end DiagnosticGateway
