import DiagnosticGateway.Proofs.Forwarder.Delivery
import DiagnosticGateway.Proofs.Forwarder.Resynchronisation
import DiagnosticGateway.Proofs.IsoTp.Gathering

/-! # Where the messages of a forwarder come from

Every message that reaches the tester was on the bus: as a single frame, or as a first frame and the
consecutive frames after it, with nothing in between that concerns the receiver. Two messages never
share a frame. The invariant ties the message in progress to the latest events: they end with the
frames that brought it to where it is.
-/

namespace DiagnosticGateway.Forwarder

open Bus (Frame)
open Doip (Diagnostic Message)
open IsoTp

/-- Events that bring a message, and the events before them that have no part in it. -/
structure Passage where
  before : List Event
  /-- The events from the first frame of the message to the last. -/
  span : List Event
  /-- The bytes of the message. -/
  data : List UInt8

def Passage.events (passage : Passage) : List Event := passage.before ++ passage.span

/-- The frames in the span that concern the receiver spell the message. -/
def Passage.Sound (fw : Forwarder) (passage : Passage) : Prop :=
  ∃ frames, fw.Holds passage.span frames ∧ Spelling passage.data (frames.map Frame.data)

/-- These events end with the frames of a message in progress. -/
def Underway (fw : Forwarder) (past : List Event) (state : Reassembly) : Prop :=
  ∃ before span frames head chunks, past = before ++ span ∧ fw.Holds span frames ∧
    frames.map Frame.data = (lengthBytes state.total ++ head) :: numbered chunks ∧
    state.Gathers head chunks

/-- The events account for the message in progress, if there is one. -/
def Tracked (fw : Forwarder) (past : List Event) (pending : Option Reassembly) : Prop :=
  ∀ state ∈ pending, fw.Underway past state

/-- What a forwarder did about the last of these events is accounted for by all of them. -/
inductive Accounted (fw : Forwarder) (past : List Event) : Action × Option Reassembly → Prop where
  | delivery (passage : Passage) :
    past = passage.events → passage.Sound fw →
    Accounted fw past (.deliver (fw.message passage.data), none)
  | silence {action pending} :
    action.message? = none → fw.Tracked past pending → Accounted fw past (action, pending)

variable {fw : Forwarder} {past : List Event} {pending : Option Reassembly} {frame : Frame}
  {receipt : Receipt}

theorem Holds.nil : fw.Holds [] [] := rfl

theorem Holds.concat {span frames} (holds : fw.Holds span frames)
    (concerned : fw.concerns (.frame frame)) :
    fw.Holds (span ++ [.frame frame]) (frames ++ [frame]) := by
  unfold Holds at *
  simp only [List.filter_append, List.map_append, holds, List.filter_cons_of_pos concerned,
    List.filter_nil, List.map_singleton]

theorem Holds.aside {span frames event} (holds : fw.Holds span frames)
    (aside : ¬ fw.concerns event) : fw.Holds (span ++ [event]) frames := by
  unfold Holds at *
  simp only [List.filter_append, holds, List.filter_cons_of_neg aside, List.filter_nil,
    List.append_nil]

theorem Underway.aside {state event} (underway : fw.Underway past state)
    (aside : ¬ fw.concerns event) : fw.Underway (past ++ [event]) state := by
  obtain ⟨before, span, frames, head, chunks, rfl, holds, fields, gathers⟩ := underway
  exact ⟨before, span ++ [event], frames, head, chunks, List.append_assoc .., holds.aside aside,
    fields, gathers⟩

namespace Tracked

theorem none : fw.Tracked past .none := fun _ this => nomatch this

theorem some {state} (underway : fw.Underway past state) : fw.Tracked past (.some state) := by
  intro other this
  cases this
  exact underway

theorem aside {event} (tracked : fw.Tracked past pending) (aside : ¬ fw.concerns event) :
    fw.Tracked (past ++ [event]) pending :=
  fun state this => (tracked state this).aside aside

end Tracked

/-! ## One event -/

namespace Accounted

theorem dropped : fw.Accounted past (.none, none) := .silence rfl .none

theorem partly {state reply} (underway : fw.Underway past state) :
    fw.Accounted past (fw.settle ⟨.partly state, reply⟩) := by
  cases reply with
  | none => exact .silence rfl (.some underway)
  | some reply => exact .silence rfl (.some underway)

theorem start (concerned : fw.concerns (.frame frame))
    (started : fw.receiver.start frame = .ok receipt) :
    fw.Accounted (past ++ [.frame frame]) (fw.settle receipt) := by
  have holds : fw.Holds [.frame frame] [frame] := Holds.nil.concat concerned
  rcases Receiver.start_cases started with
    ⟨data, spelling, rfl⟩ | ⟨state, head, reply, field, gathers, rfl⟩
  · exact .delivery ⟨past, [.frame frame], data⟩ rfl ⟨_, holds, spelling⟩
  · exact partly ⟨past, _, _, head, [], rfl, holds, congrArg (· :: []) field, gathers⟩

theorem extend {state} (underway : fw.Underway past state) (concerned : fw.concerns (.frame frame))
    (extended : fw.receiver.extend state frame = .ok receipt) :
    fw.Accounted (past ++ [.frame frame]) (fw.settle receipt) := by
  obtain ⟨before, span, frames, head, chunks, rfl, holds, fields, gathers⟩ := underway
  obtain ⟨chunk, next, field, total, gathered, outcome⟩ := Receiver.extend_cases gathers extended
  have held := holds.concat concerned
  have longer : (frames ++ [frame]).map Frame.data =
      (lengthBytes next.total ++ head) :: numbered (chunks ++ [chunk]) := by
    rw [List.map_append, fields, numbered_concat, total, List.map_singleton, field]
    rfl
  rcases outcome with ⟨enough, rfl⟩ | ⟨reply, rfl⟩
  · refine .delivery ⟨before, _, _⟩ (List.append_assoc ..) ⟨_, held, ?_⟩
    rw [longer]
    exact gathered.spelling enough
  · exact partly ⟨before, _, _, head, _, List.append_assoc .., held, longer, gathered⟩

end Accounted

theorem accounted_respond (tracked : fw.Tracked past pending) (event : Event) :
    fw.Accounted (past ++ [event]) (fw.respond pending event) := by
  by_cases concerned : fw.concerns event
  · cases event with
    | timeout => exact .dropped
    | frame frame =>
        cases received : fw.receive pending frame with
        | error fault =>
            rw [respond_refused concerned received]
            exact .dropped
        | ok receipt =>
            rw [respond_received concerned received]
            cases pending with
            | none => exact .start concerned received
            | some state =>
                simp only [receive] at received
                split at received
                · exact .extend (tracked state rfl) concerned received
                · exact .start concerned received
  · rw [respond_aside concerned]
    exact .silence (message?_pass event) (tracked.aside concerned)

/-! ## All events -/

/-- The messages delivered from some point on divide the events, those past included, into the
passages that bring them. -/
theorem exists_passages (events : List Event) :
    ∀ past pending, fw.Tracked past pending →
      ∃ (passages : List Passage) (rest : List Event),
        past ++ events = passages.flatMap Passage.events ++ rest ∧
        (∀ passage ∈ passages, passage.Sound fw) ∧
        (fw.responses pending events).1.filterMap Action.message? =
          passages.map fun passage => fw.message passage.data := by
  induction events with
  | nil =>
      intro past pending tracked
      exact ⟨[], past, List.append_nil past, List.forall_mem_nil _, rfl⟩
  | cons event events ih =>
      intro past pending tracked
      have accounted := accounted_respond tracked event
      generalize responds : fw.respond pending event = response at accounted
      have nothing : Action.message? .none = none := rfl
      simp only [responses, responds, List.filterMap_append, Action.filterMap_toList nothing]
      cases accounted with
      | delivery passage ends sound =>
          -- The passage takes up all events so far, so the rest starts with none of them.
          obtain ⟨passages, rest, division, sounds, messages⟩ := ih [] none .none
          refine ⟨passage :: passages, rest, ?_, List.forall_mem_cons.mpr ⟨sound, sounds⟩, ?_⟩
          · rw [List.flatMap_cons, ← ends, List.append_assoc, List.append_assoc, ← division]
            rfl
          · rw [messages]
            rfl
      | silence quiet tracked =>
          obtain ⟨passages, rest, division, sounds, messages⟩ := ih _ _ tracked
          refine ⟨passages, rest, ?_, sounds, ?_⟩
          · rw [← division, List.append_assoc]
            rfl
          · rw [messages, quiet, Option.toList_none, List.nil_append]

/-- The events of a run divide into passages, one for each message that reaches the tester, in
order. The message holds the bytes that the frames of its passage spell. -/
theorem delivered_divides_events {σ : Type} {wiring : Wiring σ} (reliable : wiring.Reliable)
    (events : List Event) (s : σ) :
    ∃ (passages : List Passage) (rest : List Event),
      events = passages.flatMap Passage.events ++ rest ∧
      (∀ passage ∈ passages, passage.Sound fw ∧
        Diagnostic.ofPayload (fw.message passage.data).payload =
          .ok ⟨fw.ecu, fw.tester, wrapResponse passage.data⟩) ∧
      fw.delivered wiring events s = passages.map fun passage => fw.message passage.data := by
  obtain ⟨unhandled, split⟩ := fw.handled_isPrefix events none
  obtain ⟨passages, rest, division, sounds, messages⟩ :=
    exists_passages (fw.handled none events) [] none .none
  refine ⟨passages, rest ++ unhandled, ?_, ?_, ?_⟩
  · rw [← List.append_assoc, ← division]
    exact split.symm
  · intro passage this
    exact ⟨sounds passage this, fw.ofPayload_message passage.data⟩
  · rw [delivered, log_forward reliable, List.nil_append, messages]

/-- Eight bytes in three frames, with flow control in between, and a single frame after a message
that was broken off. -/
theorem two_passages :
    let fw := ofConfig {}
    let events := [Event.frame (sampleFrame [0x10, 8, 0x62, 0xF1, 0x90, 1, 2, 3]),
      .frame (sampleFrame [0x21, 4]), .frame (sampleFrame [0x30, 0, 0]),
      .frame (sampleFrame [0x22, 5, 0, 0]), .frame (sampleFrame [0x10, 20, 1, 2, 3, 4, 5, 6]),
      .timeout, .frame (sampleFrame [0x21, 7, 8, 9]), .frame (sampleFrame [0x03, 0x7F, 0x22, 0x13])]
    ∃ (passages : List Passage) (rest : List Event),
      events = passages.flatMap Passage.events ++ rest ∧
      (∀ passage ∈ passages, passage.Sound fw) ∧
      (passages.map fun passage => fw.message passage.data) =
        [fw.message [0x62, 0xF1, 0x90, 1, 2, 3, 4, 5], fw.message [0x7F, 0x22, 0x13]] := by
  intro fw events
  have reliable : Wiring.sink.Reliable := ⟨fun _ _ => rfl, fun _ _ => rfl⟩
  have messages : fw.delivered .sink events () =
      [fw.message [0x62, 0xF1, 0x90, 1, 2, 3, 4, 5], fw.message [0x7F, 0x22, 0x13]] := by decide
  obtain ⟨passages, rest, division, sounds, divided⟩ :=
    delivered_divides_events reliable events ()
  exact ⟨passages, rest, division, fun passage this => (sounds passage this).1,
    divided.symm.trans messages⟩

end DiagnosticGateway.Forwarder
