import DiagnosticGateway.Proofs.Config.Identifiers
import DiagnosticGateway.Proofs.Forwarder.Resynchronisation

/-! # What can end a forwarder

Nothing that comes over the bus can. Whatever is wrong with the content of a frame costs at most the
message in progress, and the gateway's own frames can always be built. What is left is the transport:
a read of the bus that fails, or a write that a read calls for.
-/

namespace DiagnosticGateway.Forwarder

open Bus (Frame)
open Doip (Message)
open IsoTp (FlowControl FrameKind Reassembly Receiver)

variable {σ : Type} {fw : Forwarder} {wiring : Wiring σ} {pending : Option Reassembly} {s : σ}

/-- How the handling of a read breaks down with a fault. -/
inductive Breakdown (fw : Forwarder) (wiring : Wiring σ) (pending : Option Reassembly) (s : σ) :
    Except Fault Event → Fault → Prop where
  /-- The bus cannot be read. -/
  | read {fault} : Breakdown fw wiring pending s (.error fault) fault
  /-- The gateway's own flow control cannot be written to the bus, and not because of its content. -/
  | write {event frame next fault} :
    fw.react pending event = .ok (.write frame, next) →
    (wiring.write frame s).1 = .error fault →
    fault.isFraming = false →
    Breakdown fw wiring pending s (.ok event) fault
  /-- A message cannot be written to the tester. -/
  | deliver {event message next fault} :
    fw.react pending event = .ok (.deliver message, next) →
    (wiring.deliver message s).1 = .error fault →
    Breakdown fw wiring pending s (.ok event) fault

theorem breakdown_of_step (idLe : fw.requestId ≤ Bus.maxIdentifier) {read fault}
    (failed : (fw.step wiring pending read s).1 = .error fault) :
    Breakdown fw wiring pending s read fault := by
  cases read with
  | error other =>
      cases failed
      exact .read
  | ok event =>
      obtain ⟨⟨action, next⟩, reacted⟩ := exists_react idLe pending event
      simp only [step, reacted] at failed
      cases performed : (perform wiring action s).1 with
      | ok =>
          rw [performed] at failed
          cases failed
      | error other =>
          rw [performed] at failed
          rcases conclude_error action next other with ⟨transport, ended⟩ | ⟨_, _, dropped⟩
          · rw [ended] at failed
            cases failed
            cases action with
            | none | relay => cases performed
            | write frame => exact .write reacted performed (transport frame rfl)
            | deliver message => exact .deliver reacted performed
          · rw [dropped] at failed
            cases failed

/-- A run that fails has broken down at one of its reads, after it had handled those before. -/
theorem exists_breakdown (idLe : fw.requestId ≤ Bus.maxIdentifier) {fault}
    (reads : List (Except Fault Event)) :
    ∀ {pending s}, (fw.forward wiring pending reads s).1 = .error fault →
      ∃ before read rest reached s', reads = before ++ read :: rest ∧
        fw.forward wiring pending before s = (.ok reached, s') ∧
        Breakdown fw wiring reached s' read fault := by
  induction reads with
  | nil => intro pending s failed; cases failed
  | cons read reads ih =>
      intro pending s failed
      rw [forward] at failed
      cases stepped : fw.step wiring pending read s with
      | mk outcome after =>
          rw [stepped] at failed
          cases outcome with
          | error other =>
              cases failed
              exact ⟨[], read, reads, pending, s, rfl, rfl,
                breakdown_of_step idLe (congrArg Prod.fst stepped)⟩
          | ok next =>
              obtain ⟨before, bad, rest, reached, s', split, handled, broken⟩ := ih failed
              refine ⟨read :: before, bad, rest, reached, s', ?_, ?_, broken⟩
              · rw [split, List.cons_append]
              · rw [forward, stepped]
                exact handled

/-- A frame that cannot be taken calls for nothing, and nothing is in progress after it. -/
theorem react_of_refused {frame fault} (framing : fault.isFraming = true)
    (concerned : fw.concerns (.frame frame)) (refused : fw.receive pending frame = .error fault) :
    fw.react pending (.frame frame) = .ok (.none, none) := by
  have ⟨addressed, kind⟩ := of_decide_eq_true concerned
  simp only [react, addressed, kind, refused, framing, ne_eq, not_true_eq_false, if_false, if_true]

/-- With a valid configuration a run only fails with the fault of a read of the bus, of a write to
the bus or of a write to the tester, and never if they all succeed. What a receiver finds wrong with
a frame only drops the message in progress, and the gateway's own flow control can be built. -/
theorem only_transport_ends_forwarding {c : Config} (valid : c.validate = .ok ())
    (wiring : Wiring σ) :
    (∀ pending reads s fault, ((ofConfig c).forward wiring pending reads s).1 = .error fault →
      ∃ before read rest reached s', reads = before ++ read :: rest ∧
        (ofConfig c).forward wiring pending before s = (.ok reached, s') ∧
        Breakdown (ofConfig c) wiring reached s' read fault) ∧
    (wiring.Reliable → ∀ pending (events : List Event) s, ∃ final after,
      (ofConfig c).forward wiring pending (events.map .ok) s = (.ok final, after)) ∧
    (∀ frame fault, (ofConfig c).receiver.start frame = .error fault → fault.isFraming) ∧
    (∀ state frame fault, (ofConfig c).receiver.extend state frame = .error fault →
      fault.isFraming) ∧
    (∀ pending frame fault, (ofConfig c).concerns (.frame frame) →
      (ofConfig c).receive pending frame = .error fault →
        (ofConfig c).react pending (.frame frame) = .ok (.none, none)) ∧
    ∃ frame, (ofConfig c).flowControl.toFrame (ofConfig c).requestId (ofConfig c).padding =
      .ok frame := by
  have idLe : (ofConfig c).requestId ≤ Bus.maxIdentifier := Config.requestId_le_of_validate valid
  refine ⟨?_, ?_, ?_, ?_, ?_, ?_⟩
  · intro pending reads s fault failed
    exact exists_breakdown idLe reads failed
  · intro reliable pending events s
    obtain ⟨after, handled, _⟩ := exists_forward idLe reliable events pending [] s
    exact ⟨_, after, handled⟩
  · intro frame fault refused
    exact Receiver.isFraming_of_start idLe refused
  · intro state frame fault refused
    exact Receiver.isFraming_of_extend idLe refused
  · intro pending frame fault concerned refused
    exact react_of_refused (isFraming_of_receive idLe refused) concerned refused
  · exact FlowControl.exists_toFrame _ _ idLe

/-- An empty frame, a single frame without a length, a first frame that is cut short, consecutive
frames out of order and a frame of unknown kind leave nothing behind. -/
theorem malformed_frames_endured :
    let events := [Event.frame (sampleFrame []), .frame (sampleFrame [0x00]),
      .frame (sampleFrame [0x10]), .frame (sampleFrame [0x21, 1]),
      .frame (sampleFrame [0x10, 20, 1, 2, 3, 4, 5, 6]), .frame (sampleFrame [0x22, 7]),
      .timeout, .frame (sampleFrame [0xF0])]
    ({} : Config).validate = .ok () ∧ ∃ final after,
      (ofConfig {}).forward .sink none (events.map .ok) () = (.ok final, after) := by
  intro events
  have valid : ({} : Config).validate = .ok () := rfl
  have reliable : Wiring.sink.Reliable := ⟨fun _ _ => rfl, fun _ _ => rfl⟩
  exact ⟨valid, (only_transport_ends_forwarding valid .sink).2.1 reliable none events ()⟩

end DiagnosticGateway.Forwarder
