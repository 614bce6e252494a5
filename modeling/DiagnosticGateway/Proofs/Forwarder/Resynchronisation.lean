import DiagnosticGateway.Proofs.Forwarder.Reactions

/-! # A forwarder finds its way back

Whatever was on the bus before, a message of the ECU that comes in one piece reaches the tester: its
opening frame drops what was in progress, each frame after it continues what the ones before it
left, and the last one delivers the message. Flow control and the frames of others may come in
between, since they leave the message in progress alone.
-/

namespace DiagnosticGateway.Forwarder

open Bus (Frame)
open Doip (Diagnostic Message)
open IsoTp

/-- Whether an event bears on the message in progress: nothing came in time, or a frame on the
response identifier came that is not flow control. -/
def concerns (fw : Forwarder) : Event → Bool
  | .timeout => true
  | .frame frame => frame.id = fw.responseId ∧ FrameKind.ofData frame.data ≠ .flowControl

/-- The message that an action brings to the tester. -/
def Action.message? : Action → Option Message
  | .deliver message => some message
  | _ => Option.none

/-- The messages that a run over events brings to the tester. -/
def delivered {σ : Type} (fw : Forwarder) (wiring : Wiring σ) (events : List Event) (s : σ) :
    List Message :=
  (fw.forward wiring.recording none (events.map .ok) ([], s)).2.1.filterMap Action.message?

/-- What an event that does not concern the receiver calls for. -/
def pass (fw : Forwarder) : Event → Action
  | .timeout => .none
  | .frame frame =>
    if frame.id = fw.responseId then
      match FlowControl.ofData frame.data with
      | .ok fc => .relay fc
      | .error _ => .none
    else .none

/-- These events bring nothing to the tester and leave this message in progress. -/
structure Silent (fw : Forwarder) (pending : Option Reassembly) (events : List Event)
    (next : Option Reassembly) : Prop where
  left : (fw.responses pending events).2 = next
  nothing : (fw.responses pending events).1.filterMap Action.message? = []

variable {fw : Forwarder} {pending middle next : Option Reassembly} {frame : Frame}
  {receipt : Receipt} {data : List UInt8}

theorem Action.filterMap_toList {β : Type} {view : Action → Option β}
    (nothing : view .none = Option.none) (action : Action) :
    action.toList.filterMap view = (view action).toList := by
  cases action with
  | none => rw [nothing]; rfl
  | relay | write | deliver =>
      simp only [toList, List.filterMap_cons, List.filterMap_nil]
      split <;> rename_i shown <;> rw [shown] <;> rfl

/-! ## Bystanders -/

theorem react_aside {event} (aside : ¬ fw.concerns event) (pending : Option Reassembly) :
    fw.react pending event = .ok (fw.pass event, pending) := by
  cases event with
  | timeout => exact absurd rfl aside
  | frame frame =>
      by_cases addressed : frame.id = fw.responseId
      · have kind : FrameKind.ofData frame.data = .flowControl := by
          simpa [concerns, addressed] using aside
        simp only [react, pass, addressed, kind, ne_eq, not_true_eq_false, if_false, if_true]
        cases FlowControl.ofData frame.data with
        | ok fc => rfl
        | error fault => rfl
      · simp only [react, pass, addressed, ne_eq, not_false_eq_true, if_true, if_false]

theorem respond_aside {event} (aside : ¬ fw.concerns event) (pending : Option Reassembly) :
    fw.respond pending event = (fw.pass event, pending) := by
  rw [respond, react_aside aside]

theorem pass_cases (event : Event) : fw.pass event = .none ∨ ∃ fc, fw.pass event = .relay fc := by
  cases event with
  | timeout => exact .inl rfl
  | frame frame =>
      rw [pass]
      split
      · cases FlowControl.ofData frame.data with
        | ok fc => exact .inr ⟨fc, rfl⟩
        | error fault => exact .inl rfl
      · exact .inl rfl

theorem message?_pass (event : Event) : (fw.pass event).message? = none := by
  rcases fw.pass_cases event with passed | ⟨fc, passed⟩ <;> rw [passed] <;> rfl

namespace Silent

theorem append {first second} (before : fw.Silent pending first middle)
    (after : fw.Silent middle second next) : fw.Silent pending (first ++ second) next where
  left := by rw [responses_append, before.left, after.left]
  nothing := by
    rw [responses_append, List.filterMap_append, before.left, before.nothing, after.nothing,
      List.nil_append]

theorem singleton {event} (left : (fw.respond pending event).2 = next)
    (nothing : (fw.respond pending event).1.message? = none) : fw.Silent pending [event] next where
  left := left
  nothing := by
    simp only [responses, List.append_nil]
    rw [Action.filterMap_toList rfl, nothing, Option.toList_none]

theorem of_not_concerns {event} (aside : ¬ fw.concerns event) :
    fw.Silent pending [event] pending := by
  have responds := respond_aside aside pending
  exact singleton (by rw [responds]) (by rw [responds]; exact message?_pass event)

theorem bystanders {events} (aside : ∀ event ∈ events, ¬ fw.concerns event) :
    fw.Silent pending events pending := by
  induction events with
  | nil => exact ⟨rfl, rfl⟩
  | cons event events ih =>
      have first : fw.Silent pending [event] pending :=
        of_not_concerns (aside event List.mem_cons_self)
      exact first.append (ih fun other this => aside other (List.mem_cons_of_mem _ this))

theorem of_partly {state reply event}
    (reacts : fw.respond pending event = fw.settle ⟨.partly state, reply⟩) :
    fw.Silent pending [event] (some state) := by
  cases reply with
  | none | some => exact singleton (by rw [reacts]; rfl) (by rw [reacts]; rfl)

end Silent

/-! ## Frames of a message -/

theorem respond_received (concerned : fw.concerns (.frame frame))
    (received : fw.receive pending frame = .ok receipt) :
    fw.respond pending (.frame frame) = fw.settle receipt := by
  have ⟨addressed, kind⟩ := of_decide_eq_true concerned
  have reacts : fw.react pending (.frame frame) = _ :=
    (if_neg (not_not_intro addressed)).trans (if_neg kind)
  rw [received] at reacts
  rw [respond, reacts]

theorem respond_refused {fault} (concerned : fw.concerns (.frame frame))
    (refused : fw.receive pending frame = .error fault) :
    fw.respond pending (.frame frame) = (.none, none) := by
  have ⟨addressed, kind⟩ := of_decide_eq_true concerned
  simp only [respond, react, addressed, kind, refused, ne_eq, not_true_eq_false, if_false]
  cases fault.isFraming with
  | true => rfl
  | false => rfl

/-- A frame that opens a message does so whatever was in progress. -/
theorem respond_start (pending : Option Reassembly) (concerned : fw.concerns (.frame frame))
    (opens : FrameKind.ofData frame.data ≠ .consecutive)
    (started : fw.receiver.start frame = .ok receipt) :
    fw.respond pending (.frame frame) = fw.settle receipt := by
  refine respond_received concerned ?_
  cases pending with
  | none => exact started
  | some state => exact (if_neg opens).trans started

theorem respond_extend {state : Reassembly} (concerned : fw.concerns (.frame frame))
    (continues : FrameKind.ofData frame.data = .consecutive)
    (extended : fw.receiver.extend state frame = .ok receipt) :
    fw.respond (some state) (.frame frame) = fw.settle receipt :=
  respond_received concerned ((if_pos continues).trans extended)

theorem last_of_map_data {frames : List Frame} {last field}
    (shown : (frames ++ [last]).map Frame.data = [field]) : frames = [] ∧ last.data = field := by
  cases frames with
  | nil => exact ⟨rfl, List.singleton_inj.mp shown⟩
  | cons => simp at shown

theorem cons_of_map_data {frames : List Frame} {last field fields} (more : fields ≠ [])
    (shown : (frames ++ [last]).map Frame.data = field :: fields) :
    ∃ frame rest, frames = frame :: rest ∧ frame.data = field ∧
      (rest ++ [last]).map Frame.data = fields := by
  cases frames with
  | nil => exact absurd (List.cons_eq_cons.mp shown).2.symm more
  | cons frame rest =>
      obtain ⟨field, shown⟩ := List.cons_eq_cons.mp shown
      exact ⟨frame, rest, rfl, field, shown⟩

/-- The events hold these frames for the receiver, in order, and nothing else that concerns it. -/
def Holds (fw : Forwarder) (events : List Event) (frames : List Frame) : Prop :=
  events.filter fw.concerns = frames.map .frame

theorem Holds.bystanders {events} (holds : fw.Holds events []) : fw.Silent pending events pending :=
  .bystanders (List.filter_eq_nil_iff.mp holds)

theorem Holds.uncons {events frames} (holds : fw.Holds events (frame :: frames)) :
    ∃ before after, events = before ++ [.frame frame] ++ after ∧
      (∀ pending, fw.Silent pending before pending) ∧ fw.concerns (.frame frame) ∧
      fw.Holds after frames := by
  obtain ⟨before, after, split, aside, concerned, rest⟩ := List.filter_eq_cons_iff.mp holds
  exact ⟨before, after, by simp [split], fun _ => .bystanders aside, concerned, rest⟩

theorem concerns_of_kind (addressed : frame.id = fw.responseId)
    (kind : FrameKind.ofData frame.data ≠ .flowControl) : fw.concerns (.frame frame) = true :=
  decide_eq_true ⟨addressed, kind⟩

/-- Consecutive frames that carry the rest of a message finish it. -/
theorem exists_silent_of_continuation {i rest fields} (idLe : fw.requestId ≤ Bus.maxIdentifier)
    (carried : Continuation i rest fields) :
    ∀ {state frames last during}, Reassembly.Lacks state data i rest →
      (frames ++ [last]).map Frame.data = fields → fw.Holds during frames →
      last.id = fw.responseId →
      ∃ final, fw.Silent (some state) during final ∧
        fw.respond final (.frame last) = (.deliver (fw.message data), none) := by
  induction carried with
  | @last i rest filler =>
      intro state frames last during lacks shown holds addressed
      obtain ⟨rfl, field⟩ := last_of_map_data shown
      have kind : FrameKind.ofData last.data = .consecutive := by
        rw [field, FrameKind.ofData_sequenceByte]
      have concerned := concerns_of_kind addressed (by rw [kind]; decide)
      exact ⟨some state, holds.bystanders,
        respond_extend concerned kind (Receiver.extend_last lacks field)⟩
  | @more i chunk rest fields full more carried ih =>
      intro state frames last during lacks shown holds addressed
      obtain ⟨frame, frames, rfl, field, shown⟩ := cons_of_map_data carried.fields_ne_nil shown
      obtain ⟨before, after, rfl, aside, concerned, holds⟩ := holds.uncons
      have kind : FrameKind.ofData frame.data = .consecutive := by
        rw [field, FrameKind.ofData_sequenceByte]
      have receiverId : fw.receiver.id ≤ Bus.maxIdentifier := idLe
      obtain ⟨inBlock, reply, counted⟩ := Receiver.exists_count receiverId (state.append chunk)
      have goesOn := respond_extend concerned kind
        ((Receiver.extend_more lacks more field).trans counted)
      obtain ⟨final, silent, delivers⟩ :=
        ih (lacks.append.setInBlock inBlock) shown holds addressed
      exact ⟨final, ((aside _).append (.of_partly goesOn)).append silent, delivers⟩

/-- A whole message is delivered with its last frame, and with none before it. -/
theorem exists_silent_of_segmentation {frames last during} (idLe : fw.requestId ≤ Bus.maxIdentifier)
    (carried : Segmentation data ((frames ++ [last]).map Frame.data))
    (holds : fw.Holds during frames) (addressed : last.id = fw.responseId)
    (pending : Option Reassembly) :
    ∃ final, fw.Silent pending during final ∧
      fw.respond final (.frame last) = (.deliver (fw.message data), none) := by
  generalize shown : (frames ++ [last]).map Frame.data = fields at carried
  cases carried with
  | @single _ filler nonempty small =>
      obtain ⟨rfl, field⟩ := last_of_map_data shown
      rw [List.length_append] at small
      have short : data.length ≤ singleMax := by omega
      have kind : FrameKind.ofData last.data = .single := by
        rw [field, FrameKind.ofData_singleLength short]
      have concerned := concerns_of_kind addressed (by rw [kind]; decide)
      have completed : fw.receiver.start last = .ok ⟨.complete data, none⟩ :=
        Receiver.start_single nonempty short field
      exact ⟨pending, holds.bystanders,
        respond_start pending concerned (by rw [kind]; decide) completed⟩
  | @segmented head rest fields full large small carried =>
      obtain ⟨frame, frames, rfl, field, shown⟩ := cons_of_map_data carried.fields_ne_nil shown
      obtain ⟨before, after, rfl, aside, concerned, holds⟩ := holds.uncons
      have kind : FrameKind.ofData frame.data = .first := by
        rw [field, FrameKind.ofData_lengthBytes small]
      have receiverId : fw.receiver.id ≤ Bus.maxIdentifier := idLe
      obtain ⟨reply, paced⟩ :=
        Receiver.exists_paced receiverId ⟨(head ++ rest).length, head, 1, 0⟩
      have opens := respond_start pending concerned (by rw [kind]; decide)
        ((Receiver.start_first full large small field).trans paced)
      have lacks : Reassembly.Lacks ⟨(head ++ rest).length, head, 1, 0⟩ (head ++ rest) 1 rest :=
        ⟨rfl, rfl, rfl⟩
      obtain ⟨final, silent, delivers⟩ :=
        exists_silent_of_continuation idLe carried lacks shown holds addressed
      exact ⟨final, ((aside _).append (.of_partly opens)).append silent, delivers⟩

/-! ## After any history -/

section Runs

variable {σ : Type} {wiring : Wiring σ} (idLe : fw.requestId ≤ Bus.maxIdentifier)
  (reliable : wiring.Reliable)

include idLe reliable

theorem delivered_eq (events : List Event) (s : σ) :
    fw.delivered wiring events s =
      (fw.responses none events).1.filterMap Action.message? := by
  obtain ⟨after, _, recorded⟩ := exists_forward idLe reliable events none [] s
  rw [delivered, recorded, List.nil_append]

/-- Whatever was on the bus before, a message whose frames come in order, with nothing in between
that concerns the receiver, is delivered once, with its last frame, as a diagnostic message from the
ECU to the tester. Nothing is in progress then. -/
theorem resynchronises {history during : List Event} {frames : List Frame} {last : Frame}
    (carried : Segmentation data ((frames ++ [last]).map Frame.data))
    (addressed : last.id = fw.responseId)
    (holds : during.filter fw.concerns = frames.map Event.frame) (s : σ) :
    (fw.forward wiring none ((history ++ during ++ [Event.frame last]).map .ok) s).1 = .ok none ∧
      fw.delivered wiring (history ++ during) s = fw.delivered wiring history s ∧
      fw.delivered wiring (history ++ during ++ [Event.frame last]) s =
        fw.delivered wiring history s ++ [fw.message data] ∧
      (fw.message data).header.type.toWire = 0x8001 ∧
      Diagnostic.ofPayload (fw.message data).payload =
        .ok ⟨fw.ecu, fw.tester, wrapResponse data⟩ := by
  obtain ⟨final, silent, delivers⟩ := exists_silent_of_segmentation idLe carried holds addressed
    (fw.responses none history).2
  obtain ⟨after, bare, _⟩ :=
    exists_forward idLe reliable (history ++ during ++ [Event.frame last]) none [] s
  refine ⟨?_, ?_, ?_, fw.toWire_type_message data, fw.ofPayload_message data⟩
  · rw [bare, responses_append, responses_append, silent.left]
    simp only [responses, delivers]
  · rw [delivered_eq idLe reliable, delivered_eq idLe reliable, responses_append,
      List.filterMap_append, silent.nothing, List.append_nil]
  · rw [delivered_eq idLe reliable, delivered_eq idLe reliable, responses_append, responses_append,
      List.filterMap_append, List.filterMap_append, silent.left, silent.nothing, List.append_nil]
    simp only [responses, delivers]
    rfl

end Runs

/-- A bus and a connection that take everything. -/
def Wiring.sink : Wiring Unit := ⟨fun _ s => (.ok (), s), fun _ s => s, fun _ s => (.ok (), s)⟩

/-- A frame of an ECU on the usual identifier. -/
def sampleFrame (data : List UInt8) (small : data.length ≤ Bus.maxData := by decide) : Frame :=
  ⟨0x7E8, data, by decide, small⟩

/-- Eight bytes arrive after a message that was broken off, with flow control in between. -/
theorem eight_bytes_after_broken_message :
    let fw := ofConfig {}
    let history := [Event.frame (sampleFrame [0x10, 20, 1, 2, 3, 4, 5, 6]),
      .frame (sampleFrame [0x21, 7, 8, 9, 10, 11, 12, 13])]
    let during := [Event.frame (sampleFrame [0x10, 8, 0x62, 0xF1, 0x90, 1, 2, 3]),
      .frame (sampleFrame [0x30, 0, 0])]
    let message := fw.message [0x62, 0xF1, 0x90, 1, 2, 3, 4, 5]
    message.toBytes = [0x02, 0xFD, 0x80, 0x01, 0, 0, 0, 12, 0x10, 0x00, 0x0E, 0x00, 0x62, 0xF1,
        0x90, 1, 2, 3, 4, 5] ∧
      fw.delivered .sink (history ++ during ++ [.frame (sampleFrame [0x21, 4, 5])]) () =
        [message] ∧
      message.header.type.toWire = 0x8001 ∧
      Diagnostic.ofPayload message.payload =
        .ok ⟨⟨0x1000⟩, ⟨0x0E00⟩, [0x62, 0xF1, 0x90, 1, 2, 3, 4, 5]⟩ := by
  intro fw history during message
  have carried : Segmentation ([0x62, 0xF1, 0x90, 1, 2, 3] ++ [4, 5])
      [lengthBytes 8 ++ [0x62, 0xF1, 0x90, 1, 2, 3], sequenceByte 1 :: ([4, 5] ++ [])] :=
    .segmented rfl (by decide) (by decide) (.last (by decide) (by decide))
  have reliable : Wiring.sink.Reliable := ⟨fun _ _ => rfl, fun _ _ => rfl⟩
  have holds : during.filter fw.concerns =
      [sampleFrame [0x10, 8, 0x62, 0xF1, 0x90, 1, 2, 3]].map Event.frame := rfl
  exact ⟨by decide, (resynchronises (by decide) reliable carried rfl holds ()).2.2⟩

end DiagnosticGateway.Forwarder
