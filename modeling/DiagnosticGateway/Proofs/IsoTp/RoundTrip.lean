import DiagnosticGateway.Bench.ScriptedBus
import DiagnosticGateway.Proofs.IsoTp.Segmentation
import DiagnosticGateway.Proofs.IsoTp.SenderCalls

/-! # What is sent arrives

A sender that succeeds has put a segmentation of its message on the bus. How often it waited, which
flow control it was given and how large the blocks were does not show in the frames: each
consecutive frame only depends on what is left of the message and on how many came before it.
-/

namespace DiagnosticGateway.IsoTp

open Bus (Frame)

namespace Phase

theorem cleared_cases (p : Progress) (fc : FlowControl) :
    (cleared p fc).progress? = some p ∨ ∃ fault, cleared p fc = .finished (.error fault) := by
  unfold cleared
  split
  · exact .inl rfl
  · exact .inl rfl
  · exact .inr ⟨_, rfl⟩

/-- The phase after a frame that left this progress, given the room in the block before it. -/
def counted (p : Progress) : Option Nat → Phase
  | none => .sending p none
  | some n => if n ≤ 1 then .awaiting p else .sending p (some (n - 1))

@[simp]
theorem progress?_counted (p : Progress) (room : Option Nat) :
    (counted p room).progress? = some p := by
  cases room with
  | none => rfl
  | some n =>
      rw [counted]
      split <;> rfl

theorem wrote_last {p : Progress} {room : Option Nat} (empty : p.next.rest = []) :
    wrote p room = .finished (.ok ()) :=
  if_pos empty

theorem wrote_more {p : Progress} {room : Option Nat} (more : p.next.rest ≠ []) :
    wrote p room = counted p.next room :=
  if_neg more

end Phase

/-- Something is left, and the next frame has this number. -/
structure Progress.At (p : Progress) (i : Nat) : Prop where
  more : p.rest ≠ []
  numbered : p.sequence = UInt8.ofNat (i % 16)

theorem Progress.At.next {p : Progress} {i : Nat} (here : p.At i) (more : p.next.rest ≠ []) :
    p.next.At (i + 1) where
  more := more
  numbered := by rw [Progress.next, here.numbered, sequence_succ]

/-- After the first frame of a segmented message something is left. -/
theorem Progress.At.opened {data : List UInt8} (large : singleMax < data.length) :
    Progress.At ⟨data.drop firstData, 1⟩ 1 where
  more := by
    simp only [singleMax] at large
    rw [ne_eq, List.drop_eq_nil_iff]
    simp only [firstData]
    omega
  numbered := rfl

namespace Sender

variable {σ : Type} {sender : Sender} {link : Link σ} {s : σ} {data : List UInt8}

/-! ## The next frame -/

section NextFrame

variable {p : Progress} {i : Nat} {frame : Frame}

theorem nextFrame_eq_ok_iff (here : p.At i) :
    sender.nextFrame p = .ok frame ↔ frame.id = sender.id ∧
      frame.data = Frame.fill (sequenceByte i :: p.rest.take consecutiveMax) sender.padding := by
  have nonempty : p.rest.take consecutiveMax ≠ [] := by
    simp [consecutiveMax, here.more]
  have small : (p.rest.take consecutiveMax).length ≤ consecutiveMax := List.length_take_le _ _
  rw [nextFrame, here.numbered, Pci.consecutiveFrame_eq_ok_iff]
  exact ⟨fun built => built.2.2, fun shown => ⟨nonempty, small, shown⟩⟩

theorem exists_nextFrame (here : p.At i) (idLe : sender.id ≤ Bus.maxIdentifier) :
    ∃ frame, sender.nextFrame p = .ok frame := by
  have fits : (sequenceByte i :: p.rest.take consecutiveMax).length ≤ Bus.maxData := by
    simp only [List.length_cons, List.length_take, consecutiveMax, Bus.maxData]
    omega
  obtain ⟨frame, built⟩ := Frame.exists_padded sender.padding idLe fits
  exact ⟨frame, (nextFrame_eq_ok_iff here).mpr (Frame.padded_eq_ok_iff.mp built)⟩

theorem nextFrame_last (here : p.At i) (built : sender.nextFrame p = .ok frame)
    (empty : p.next.rest = []) :
    ∃ filler, (p.rest ++ filler).length ≤ consecutiveMax ∧
      frame.data = sequenceByte i :: (p.rest ++ filler) := by
  obtain ⟨_, field⟩ := (nextFrame_eq_ok_iff here).mp built
  rw [Progress.next, List.drop_eq_nil_iff] at empty
  rw [List.take_of_length_le empty, Frame.fill, List.cons_append] at field
  refine ⟨_, ?_, field⟩
  simp only [consecutiveMax] at empty
  simp only [List.length_append, List.length_cons, List.length_replicate, Bus.maxData,
    consecutiveMax]
  omega

theorem nextFrame_more (here : p.At i) (built : sender.nextFrame p = .ok frame)
    (more : p.next.rest ≠ []) :
    ∃ chunk, chunk.length = consecutiveMax ∧ p.rest = chunk ++ p.next.rest ∧
      frame.data = sequenceByte i :: chunk := by
  obtain ⟨_, field⟩ := (nextFrame_eq_ok_iff here).mp built
  have full : (p.rest.take consecutiveMax).length = consecutiveMax := by
    rw [Progress.next, ne_eq, List.drop_eq_nil_iff] at more
    rw [List.length_take]
    omega
  have unfilled : Frame.fill (sequenceByte i :: p.rest.take consecutiveMax) sender.padding =
      sequenceByte i :: p.rest.take consecutiveMax := by
    rw [Frame.fill, List.length_cons, full]
    exact List.append_nil _
  exact ⟨_, full, (List.take_append_drop consecutiveMax p.rest).symm, field.trans unfilled⟩

end NextFrame

/-! ## All frames -/

/-- The frames that a run puts on the bus from a phase on. -/
def runWritten (sender : Sender) (link : Link σ) (phase : Phase) (s : σ) : List Frame :=
  (sender.runCalls link phase s).filterMap Call.written?

def stepWritten (sender : Sender) (link : Link σ) (phase : Phase) (s : σ) : List Frame :=
  (sender.stepCalls link phase s).filterMap Call.written?

theorem runWritten_advance {phase} :
    sender.runWritten link phase s = sender.stepWritten link phase s ++
      sender.runWritten link (sender.advance link phase s).1 (sender.advance link phase s).2 := by
  rw [runWritten, runCalls_advance, List.filterMap_append]
  rfl

theorem exists_of_put_ok {frame : Except Fault Frame} (sent : (put link frame s).1 = .ok ()) :
    ∃ built, frame = .ok built ∧ put link frame s = (.ok (), (link.write built s).2) ∧
      (putCalls link frame s).filterMap Call.written? = [built] := by
  cases frame with
  | error fault => nomatch sent
  | ok built =>
      have wrote : (link.write built s).1 = .ok () := sent
      refine ⟨built, rfl, Prod.ext wrote rfl, ?_⟩
      simp only [putCalls, wrote, List.filterMap_cons, Call.written?, List.filterMap_nil]

/-- A step ends the run with a fault, or writes nothing and keeps the progress, or writes the next
frame. -/
theorem advance_cases (sender : Sender) (link : Link σ) (s : σ) {phase : Phase} {p}
    (shown : phase.progress? = some p) (more : p.rest ≠ []) :
    (∃ fault, (sender.advance link phase s).1 = .finished (.error fault)) ∨
      (sender.stepWritten link phase s = [] ∧
        (sender.advance link phase s).1.progress? = some p) ∨
      ∃ frame room, sender.nextFrame p = .ok frame ∧
        sender.stepWritten link phase s = [frame] ∧
        (sender.advance link phase s).1 = .wrote p room := by
  cases phase with
  | finished => nomatch shown
  | awaiting q =>
      cases shown
      simp only [advance, stepWritten, stepCalls]
      cases waited : link.wait sender.timeout s with
      | mk outcome s' =>
          cases outcome with
          | error fault => exact .inl ⟨fault, rfl⟩
          | ok fc =>
              rcases Phase.cleared_cases p fc with goesOn | ended
              · exact .inr (.inl ⟨rfl, goesOn⟩)
              · exact .inl ended
  | sending q room =>
      cases shown
      simp only [advance, stepWritten, stepCalls, if_neg more]
      cases outcome : (put link (sender.nextFrame p) s).1 with
      | error fault =>
          refine .inl ⟨fault, ?_⟩
          rw [← Prod.eta (put link (sender.nextFrame p) s), outcome]
      | ok =>
          obtain ⟨frame, built, wrote, calls⟩ := exists_of_put_ok outcome
          refine .inr (.inr ⟨frame, room, built, calls, ?_⟩)
          rw [wrote]

/-- A run that succeeds puts the rest of its message on the bus, whatever the flow control was. -/
theorem continuation_of_run {phase : Phase} :
    ∀ {p i}, phase.progress? = some p → p.At i → (sender.run link phase s).1 = .ok () →
      Continuation i p.rest ((sender.runWritten link phase s).map Frame.data) := by
  induction phase, s using advance_induction sender link with
  | finished => intro p i shown; nomatch shown
  | step phase s _ ih =>
      intro p i shown here sent
      rw [run_advance] at sent
      rw [runWritten_advance, List.map_append]
      obtain ⟨fault, ended⟩ | ⟨nothing, goesOn⟩ | ⟨frame, room, built, wrote, after⟩ :=
        advance_cases sender link s shown here.more
      · simp only [ended, run_finished, reduceCtorEq] at sent
      · rw [nothing]
        exact ih goesOn here sent
      · rw [wrote]
        by_cases empty : p.next.rest = []
        · obtain ⟨filler, fits, field⟩ := nextFrame_last here built empty
          rw [after, Phase.wrote_last empty, runWritten, runCalls_finished, List.filterMap_nil,
            List.map_nil, List.append_nil, List.map_singleton, field]
          exact .last here.more fits
        · obtain ⟨chunk, full, split, field⟩ := nextFrame_more here built empty
          have goesOn : (sender.advance link phase s).1.progress? = some p.next := by
            rw [after, Phase.wrote_more empty, Phase.progress?_counted]
          rw [List.map_singleton, field, split]
          exact .more full empty (ih goesOn (here.next empty) sent)

theorem segmentation_single (nonempty : data ≠ []) (small : data.length ≤ singleMax)
    (sent : (sender.send link data s).1 = .ok ()) :
    Segmentation data ((sender.written link data s).map Frame.data) := by
  rw [send_single nonempty small] at sent
  obtain ⟨frame, built, -, calls⟩ := exists_of_put_ok sent
  obtain ⟨_, _, _, field⟩ := Pci.singleFrame_eq_ok_iff.mp built
  rw [written, calls_single nonempty small, calls, List.map_singleton, field]
  refine .single nonempty ?_
  simp only [singleMax] at small
  simp only [List.length_append, List.length_replicate, List.length_cons, Bus.maxData, singleMax]
  omega

theorem segmentation_segmented (large : singleMax < data.length)
    (small : data.length ≤ maxMessage) (sent : (sender.send link data s).1 = .ok ()) :
    Segmentation data ((sender.written link data s).map Frame.data) := by
  rw [send_segmented large small] at sent
  rw [written, calls_segmented large small]
  cases first : put link (Pci.firstFrame sender.id data.length data) (link.clear s) with
  | mk outcome s' =>
      rw [first] at sent
      cases outcome with
      | error => nomatch sent
      | ok =>
          obtain ⟨frame, built, -, calls⟩ := exists_of_put_ok (congrArg Prod.fst first)
          obtain ⟨_, _, enough, _, field⟩ := Pci.firstFrame_eq_ok_iff.mp built
          have opened : (Phase.opened data).progress? = some ⟨data.drop firstData, 1⟩ := rfl
          have carried := continuation_of_run opened (.opened large) sent
          have full : (data.take firstData).length = firstData := by
            rw [List.length_take]
            omega
          have whole := List.take_append_drop firstData data
          have joined := Segmentation.segmented full (by rwa [whole]) (by rwa [whole]) carried
          rw [whole, ← field] at joined
          simp only [List.filterMap_cons, Call.written?, List.filterMap_append, calls]
          exact joined

theorem segmentation_of_send (sent : (sender.send link data s).1 = .ok ()) :
    Segmentation data ((sender.written link data s).map Frame.data) := by
  by_cases empty : data.length = 0
  · simp only [send, empty, if_pos, reduceCtorEq] at sent
  by_cases large : maxMessage < data.length
  · simp only [send, empty, large, if_pos, if_neg, not_false_eq_true, reduceCtorEq] at sent
  by_cases single : data.length ≤ singleMax
  · exact segmentation_single (fun none => empty (List.length_eq_zero_iff.mpr none)) single sent
  · exact segmentation_segmented (by omega) (by omega) sent

/-- Segmentation and reassembly are inverse to each other. Whatever flow control the sender got and
whatever block size the receiver advertises, the frames of a message that was sent give a message
in progress each, but for the last one, which gives the whole message. -/
theorem arrives_of_send {receiver : Receiver} (idLe : receiver.id ≤ Bus.maxIdentifier)
    (sent : (sender.send link data s).1 = .ok ()) :
    receiver.Arrives none (sender.written link data s) data :=
  receiver.arrives_of_segmentation idLe (segmentation_of_send sent)

open Bench in
/-- Nine bytes, with a wait and then a clearance in the relay after the first frame. -/
theorem nine_bytes_arrive :
    let sender : Sender := ⟨0x7E0, 0xCC, .ofMillis 1000⟩
    let receiver : Receiver := ⟨0x7E8, ⟨.continueToSend, 4, ⟨0⟩⟩, 0xAA⟩
    let clearance : List Relay.Event := [.push ⟨.wait, 0, ⟨0⟩⟩, .push ⟨.continueToSend, 2, ⟨10⟩⟩]
    let rig : SenderRig := ⟨⟨[], 0, []⟩, .ofCapacity 4, [clearance]⟩
    let data : List UInt8 := [0x22, 0xF1, 0x90, 1, 2, 3, 4, 5, 6]
    (sender.send SenderRig.link data rig).1 = .ok () ∧
      receiver.Arrives none (sender.written SenderRig.link data rig) data := by
  intro sender receiver clearance rig data
  have sent : (sender.send SenderRig.link data rig).1 = .ok () := by
    rw [send_segmented (by decide) (by decide)]
    exact congrArg Prod.fst (run_of_steps 3 rfl)
  exact ⟨sent, arrives_of_send (by decide) sent⟩

end Sender

end DiagnosticGateway.IsoTp
