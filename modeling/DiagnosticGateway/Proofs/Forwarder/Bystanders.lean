import DiagnosticGateway.Proofs.Forwarder.Resynchronisation

/-! # Traffic that is not part of a message

Flow control of the ECU and frames on other identifiers may come at any time. Without them the
messages to the tester and the gateway's own flow control are the same; and the relay gets just the
flow control that is on the response identifier and complete, whatever else is on the bus.
-/

namespace DiagnosticGateway.Forwarder

open Bus (Frame)
open Doip (Message)
open IsoTp

/-- The frame that an action puts on the bus. -/
def Action.frame? : Action → Option Frame
  | .write frame => some frame
  | _ => Option.none

/-- The flow control that an action hands to the relay. -/
def Action.flowControl? : Action → Option FlowControl
  | .relay fc => some fc
  | _ => Option.none

/-- The flow control frame of the ECU that an event brings, if it is complete. -/
def pacing? (fw : Forwarder) : Event → Option Frame
  | .timeout => none
  | .frame frame =>
    if frame.id = fw.responseId ∧ FrameKind.ofData frame.data = .flowControl ∧
      3 ≤ frame.data.length then some frame else none

section Runs

variable {σ : Type} (fw : Forwarder) (wiring : Wiring σ) (events : List Event) (s : σ)

/-- The frames that a run over events puts on the bus. -/
def written : List Frame :=
  (fw.forward wiring.recording none (events.map .ok) ([], s)).2.1.filterMap Action.frame?

/-- The flow control that a run over events hands to the relay. -/
def relayed : List FlowControl :=
  (fw.forward wiring.recording none (events.map .ok) ([], s)).2.1.filterMap Action.flowControl?

end Runs

variable {fw : Forwarder}

/-! ## Leaving bystanders out -/

theorem handled_filter (events : List Event) :
    ∀ pending, fw.handled pending (events.filter fw.concerns) =
      (fw.handled pending events).filter fw.concerns := by
  induction events with
  | nil => intro pending; rfl
  | cons event events ih =>
      intro pending
      by_cases concerned : fw.concerns event
      · rw [List.filter_cons_of_pos concerned, handled, handled]
        split
        · rw [List.filter_cons_of_pos concerned, ih]
        · rfl
      · rw [List.filter_cons_of_neg concerned, handled, react_aside concerned,
          List.filter_cons_of_neg concerned, ih]

/-- Whatever is read off the actions of a forwarder is read off without the bystanders, unless it
shows what happens to bystanders. -/
theorem filterMap_responses_filter {β : Type} {view : Action → Option β}
    (nothing : view .none = none) (blind : ∀ event, view (fw.pass event) = none)
    (events : List Event) :
    ∀ pending, (fw.responses pending (events.filter fw.concerns)).1.filterMap view =
      (fw.responses pending events).1.filterMap view := by
  induction events with
  | nil => intro pending; rfl
  | cons event events ih =>
      intro pending
      by_cases concerned : fw.concerns event
      · simp only [List.filter_cons_of_pos concerned, responses, List.filterMap_append, ih]
      · simp only [List.filter_cons_of_neg concerned, responses, List.filterMap_append, ih,
          respond_aside concerned, Action.filterMap_toList nothing, blind, Option.toList_none,
          List.nil_append]

theorem frame?_pass (event : Event) : (fw.pass event).frame? = none := by
  rcases fw.pass_cases event with passed | ⟨fc, passed⟩ <;> rw [passed] <;> rfl

/-! ## What the relay gets -/

theorem flowControl?_settle (receipt : Receipt) : (fw.settle receipt).1.flowControl? = none := by
  unfold settle
  split <;> rfl

theorem pacing?_of_concerns {event} (concerned : fw.concerns event) : fw.pacing? event = none := by
  cases event with
  | timeout => rfl
  | frame frame =>
      have ⟨_, kind⟩ := of_decide_eq_true concerned
      exact if_neg fun found => kind found.2.1

theorem flowControl?_pass {event} (aside : ¬ fw.concerns event) :
    (fw.pass event).flowControl?.map .ok =
      (fw.pacing? event).map fun frame => FlowControl.ofData frame.data := by
  cases event with
  | timeout => rfl
  | frame frame =>
      by_cases addressed : frame.id = fw.responseId
      · have kind : FrameKind.ofData frame.data = .flowControl := by
          simpa [concerns, addressed] using aside
        by_cases complete : 3 ≤ frame.data.length
        · obtain ⟨fc, read⟩ := FlowControl.exists_ofData kind complete
          rw [pass, if_pos addressed, pacing?, if_pos ⟨addressed, kind, complete⟩, read,
            Option.map_some, read]
          rfl
        · have refused := FlowControl.ofData_of_length_lt kind (Nat.lt_of_not_le complete)
          rw [pass, if_pos addressed, refused, pacing?, if_neg fun found => complete found.2.2]
          rfl
      · rw [pass, if_neg addressed, pacing?, if_neg fun found => addressed found.1]
        rfl

theorem flowControl?_respond (pending : Option Reassembly) (event : Event) :
    (fw.respond pending event).1.flowControl?.map .ok =
      (fw.pacing? event).map fun frame => FlowControl.ofData frame.data := by
  by_cases concerned : fw.concerns event
  · rw [pacing?_of_concerns concerned, Option.map_none, Option.map_eq_none_iff]
    cases event with
    | timeout => rfl
    | frame frame =>
        cases received : fw.receive pending frame with
        | error fault =>
            rw [respond_refused concerned received]
            rfl
        | ok receipt =>
            rw [respond_received concerned received]
            exact flowControl?_settle receipt
  · rw [respond_aside concerned]
    exact flowControl?_pass concerned

theorem filterMap_flowControl? (events : List Event) :
    ∀ pending, ((fw.responses pending events).1.filterMap Action.flowControl?).map .ok =
      (events.filterMap fw.pacing?).map fun frame => FlowControl.ofData frame.data := by
  induction events with
  | nil => intro pending; rfl
  | cons event events ih =>
      intro pending
      have nothing : Action.flowControl? .none = none := rfl
      have here := Action.filterMap_toList nothing (fw.respond pending event).1
      rw [responses, List.filterMap_append, List.map_append, ih, here, ← Option.toList_map,
        flowControl?_respond, List.filterMap_cons]
      cases fw.pacing? event with
      | none => rfl
      | some frame => rfl

/-! ## Runs -/

/-- Leaving bystanders out changes neither what the tester gets nor what the gateway writes. The
relay gets exactly the complete flow control on the response identifier, up to an event without a
reaction, and there is none if the gateway's own frames can be built. -/
theorem bystanders_do_not_interfere {σ : Type} {wiring : Wiring σ} (reliable : wiring.Reliable)
    (events : List Event) (s : σ) :
    fw.delivered wiring (events.filter fw.concerns) s = fw.delivered wiring events s ∧
      fw.written wiring (events.filter fw.concerns) s = fw.written wiring events s ∧
      (fw.relayed wiring events s).map .ok =
        ((fw.handled none events).filterMap fw.pacing?).map
          (fun frame => FlowControl.ofData frame.data) ∧
      (fw.requestId ≤ Bus.maxIdentifier → fw.handled none events = events) := by
  have unseen {β : Type} {view : Action → Option β} (nothing : view .none = none)
      (blind : ∀ event, view (fw.pass event) = none) :
      (fw.responses none (fw.handled none (events.filter fw.concerns))).1.filterMap view =
        (fw.responses none (fw.handled none events)).1.filterMap view := by
    rw [handled_filter]
    exact filterMap_responses_filter nothing blind _ none
  refine ⟨?_, ?_, ?_, fun idLe => handled_eq idLe events none⟩
  · simp only [delivered, log_forward reliable, List.nil_append]
    exact unseen rfl message?_pass
  · simp only [written, log_forward reliable, List.nil_append]
    exact unseen rfl frame?_pass
  · rw [relayed, log_forward reliable, List.nil_append]
    exact filterMap_flowControl? _ none

/-- Between the two frames of a message come a frame of another ECU, flow control that is cut short
and flow control. Only the last of them shows, and only to the relay. -/
theorem message_among_bystanders :
    let fw := ofConfig {}
    let opening := Event.frame (sampleFrame [0x10, 8, 0x62, 0xF1, 0x90, 1, 2, 3])
    let foreign := Event.frame ⟨0x7E9, [0x21, 9, 9], by decide, by decide⟩
    let pacing := [Event.frame (sampleFrame [0x31, 4]), .frame (sampleFrame [0x30, 4, 10])]
    let last := Event.frame (sampleFrame [0x21, 4, 5])
    let events := opening :: foreign :: pacing ++ [last]
    fw.delivered .sink [opening, last] () = fw.delivered .sink events () ∧
      fw.written .sink [opening, last] () = fw.written .sink events () ∧
      (fw.relayed .sink events ()).map .ok =
        [(.ok (.continueToSend 4 10) : Except Fault FlowControl)] := by
  intro fw opening foreign pacing last events
  have reliable : Wiring.sink.Reliable := ⟨fun _ _ => rfl, fun _ _ => rfl⟩
  have ⟨delivered, written, relayed, handled⟩ :=
    @bystanders_do_not_interfere fw _ _ reliable events ()
  rw [handled (by decide)] at relayed
  exact ⟨delivered, written, relayed⟩

end DiagnosticGateway.Forwarder
