import DiagnosticGateway.IsoTp.Receiver
import DiagnosticGateway.Proofs.IsoTp.FrameCoding

/-! # Messages in frames

`Segmentation` says which data fields make up a message: a single frame, or a full first frame and
consecutive frames with the sequence numbers 1, 2, ..., 15, 0, 1, ..., all of them full but the
last. Whoever builds them, a receiver that gets exactly these fields in order has the message in
progress after each of them but the last, and then completes it without the filler.
-/

namespace DiagnosticGateway.IsoTp

open Bus (Frame)

/-- The data fields of consecutive frames that carry the rest of a message, the first of them with
the given number. Filler after the last bytes does not belong to the message. -/
inductive Continuation : Nat → List UInt8 → List (List UInt8) → Prop where
  | last {i rest filler} :
    rest ≠ [] → (rest ++ filler).length ≤ consecutiveMax →
    Continuation i rest [sequenceByte i :: (rest ++ filler)]
  | more {i chunk rest fields} :
    chunk.length = consecutiveMax → rest ≠ [] → Continuation (i + 1) rest fields →
    Continuation i (chunk ++ rest) ((sequenceByte i :: chunk) :: fields)

/-- The data fields of the frames that carry a message. -/
inductive Segmentation : List UInt8 → List (List UInt8) → Prop where
  | single {data filler} :
    data ≠ [] → (data ++ filler).length ≤ singleMax →
    Segmentation data [UInt8.ofNat data.length :: (data ++ filler)]
  | segmented {head rest fields} :
    head.length = firstData → singleMax < (head ++ rest).length →
    (head ++ rest).length ≤ maxMessage → Continuation 1 rest fields →
    Segmentation (head ++ rest) ((lengthBytes (head ++ rest).length ++ head) :: fields)

theorem Continuation.fields_ne_nil {i rest fields} (carried : Continuation i rest fields) :
    fields ≠ [] := by
  cases carried <;> exact List.cons_ne_nil _ _

/-! ## One frame at a receiver -/

/-- The message after a consecutive frame with these bytes, as far as they belong to it. -/
def Reassembly.append (state : Reassembly) (bytes : List UInt8) : Reassembly :=
  { state with
    received := state.received ++ bytes.take (state.total - state.received.length)
    expected := (state.expected + 1) % 16 }

/-- A message in progress that still lacks these bytes, from the frame with this number on. -/
structure Reassembly.Lacks (state : Reassembly) (data : List UInt8) (i : Nat) (rest : List UInt8) :
    Prop where
  total : state.total = data.length
  received : state.received ++ rest = data
  expected : state.expected = UInt8.ofNat (i % 16)

namespace Reassembly.Lacks

variable {state : Reassembly} {data : List UInt8} {i : Nat} {rest : List UInt8}

theorem room (lacks : state.Lacks data i rest) :
    state.total - state.received.length = rest.length := by
  rw [lacks.total, ← lacks.received, List.length_append]
  omega

theorem received_append (lacks : state.Lacks data i rest) (filler : List UInt8) :
    (state.append (rest ++ filler)).received = data := by
  simp only [append, lacks.room, List.take_left, lacks.received]

theorem append {chunk} (lacks : state.Lacks data i (chunk ++ rest)) :
    (state.append chunk).Lacks data (i + 1) rest where
  total := lacks.total
  received := by
    have take : chunk.take (state.total - state.received.length) = chunk := by
      rw [lacks.room, List.length_append]
      exact List.take_of_length_le (by omega)
    simp only [Reassembly.append, take, List.append_assoc, lacks.received]
  expected := by
    simp only [Reassembly.append, lacks.expected, sequence_succ]

/-- What a message lacks has nothing to do with blocks. -/
theorem setInBlock (lacks : state.Lacks data i rest) (inBlock : UInt8) :
    { state with inBlock }.Lacks data i rest :=
  ⟨lacks.total, lacks.received, lacks.expected⟩

theorem unfinished (lacks : state.Lacks data i rest) (more : rest ≠ []) :
    ¬ state.total ≤ state.received.length := by
  have positive := List.length_pos_iff.mpr more
  have := lacks.room
  omega

end Reassembly.Lacks

namespace Receiver

variable {receiver : Receiver} {state : Reassembly} {frame : Frame} {data : List UInt8} {i : Nat}

/-- The receipt for a message that goes on, with its latest frame counted towards a block. -/
def count (receiver : Receiver) (state : Reassembly) : Except Fault Receipt :=
  if receiver.flowControl.blockSize = 0 then .ok ⟨.partly state, none⟩
  else if receiver.flowControl.blockSize ≤ state.inBlock + 1 then
    receiver.paced { state with inBlock := 0 }
  else .ok ⟨.partly { state with inBlock := state.inBlock + 1 }, none⟩

theorem paced_eq {reply}
    (built : receiver.flowControl.toFrame receiver.id receiver.padding = .ok reply)
    (state : Reassembly) : receiver.paced state = .ok ⟨.partly state, some reply⟩ := by
  simp only [paced, built]
  rfl

theorem start_single {filler} (nonempty : data ≠ []) (small : data.length ≤ singleMax)
    (field : frame.data = UInt8.ofNat data.length :: (data ++ filler)) :
    receiver.start frame = .ok ⟨.complete data, none⟩ := by
  simp only [start, field, Pci.ofData_single filler nonempty small]
  rfl

theorem start_first {total head} (full : head.length = firstData) (large : singleMax < total)
    (small : total ≤ maxMessage) (field : frame.data = lengthBytes total ++ head) :
    receiver.start frame = receiver.paced ⟨total, head, 1, 0⟩ := by
  have take : head.take firstData = head := List.take_of_length_le (Nat.le_of_eq full)
  simp only [start, field, Pci.ofData_first small, bind, Except.bind, take]
  rw [if_neg (by omega), if_neg (by omega)]

/-- What a frame with the expected number does to the message in progress. -/
theorem extend_consecutive {bytes}
    (pci : Pci.ofData frame.data = .ok (.consecutive state.expected bytes)) :
    receiver.extend state frame =
      if state.total ≤ (state.append bytes).received.length then
        .ok ⟨.complete (state.append bytes).received, none⟩
      else receiver.count (state.append bytes) := by
  simp only [extend, pci, bind, Except.bind, ne_eq, not_true_eq_false, if_false, Reassembly.append,
    count]
  rfl

theorem extend_last {rest filler} (lacks : state.Lacks data i rest)
    (field : frame.data = sequenceByte i :: (rest ++ filler)) :
    receiver.extend state frame = .ok ⟨.complete data, none⟩ := by
  have pci : Pci.ofData frame.data = .ok (.consecutive state.expected (rest ++ filler)) := by
    rw [field, Pci.ofData_consecutive, lacks.expected]
  rw [extend_consecutive pci, lacks.received_append, if_pos (Nat.le_of_eq lacks.total)]

theorem extend_more {chunk rest} (lacks : state.Lacks data i (chunk ++ rest)) (more : rest ≠ [])
    (field : frame.data = sequenceByte i :: chunk) :
    receiver.extend state frame = receiver.count (state.append chunk) := by
  have pci : Pci.ofData frame.data = .ok (.consecutive state.expected chunk) := by
    rw [field, Pci.ofData_consecutive, lacks.expected]
  have unfinished : ¬ state.total ≤ (state.append chunk).received.length :=
    lacks.append.unfinished more
  rw [extend_consecutive pci, if_neg unfinished]

theorem exists_paced (idLe : receiver.id ≤ Bus.maxIdentifier) (state : Reassembly) :
    ∃ reply, receiver.paced state = .ok ⟨.partly state, some reply⟩ := by
  obtain ⟨reply, built⟩ := receiver.flowControl.exists_toFrame receiver.padding idLe
  exact ⟨reply, paced_eq built state⟩

/-- Whether or not a block ends with a frame, the message goes on as it is. -/
theorem exists_count (idLe : receiver.id ≤ Bus.maxIdentifier) (state : Reassembly) :
    ∃ inBlock reply, receiver.count state = .ok ⟨.partly { state with inBlock }, reply⟩ := by
  unfold count
  split
  · exact ⟨state.inBlock, none, rfl⟩
  · split
    · obtain ⟨reply, paced⟩ := exists_paced idLe { state with inBlock := 0 }
      exact ⟨0, some reply, paced⟩
    · exact ⟨state.inBlock + 1, none, rfl⟩

/-! ## All frames at a receiver -/

/-- Takes a frame to continue the message in progress or, if there is none, to start one. -/
def take (receiver : Receiver) : Option Reassembly → Frame → Except Fault Receipt
  | none, frame => receiver.start frame
  | some state, frame => receiver.extend state frame

/-- What becomes of frames handed to a receiver one after the other, up to the frame with which
the message ends. -/
def receptions (receiver : Receiver) :
    Option Reassembly → List Frame → List (Except Fault Reception)
  | _, [] => []
  | pending, frame :: frames =>
    match receiver.take pending frame with
    | .error fault => [.error fault]
    | .ok ⟨.complete data, _⟩ => [.ok (.complete data)]
    | .ok ⟨.partly state, _⟩ => .ok (.partly state) :: receiver.receptions (some state) frames

/-- The receptions of a message that arrives: it is in progress after each frame but the last. -/
def Arrives (receiver : Receiver) (pending : Option Reassembly) (frames : List Frame)
    (data : List UInt8) : Prop :=
  ∃ states : List Reassembly, states.length + 1 = frames.length ∧
    receiver.receptions pending frames =
      states.map (fun state => .ok (.partly state)) ++ [.ok (.complete data)]

theorem Arrives.last {pending reply}
    (complete : receiver.take pending frame = .ok ⟨.complete data, reply⟩) :
    receiver.Arrives pending [frame] data := by
  refine ⟨[], rfl, ?_⟩
  simp only [receptions, complete, List.map_nil, List.nil_append]

theorem Arrives.cons {pending state reply frames}
    (goesOn : receiver.take pending frame = .ok ⟨.partly state, reply⟩)
    (rest : receiver.Arrives (some state) frames data) :
    receiver.Arrives pending (frame :: frames) data := by
  obtain ⟨states, length, receptions⟩ := rest
  refine ⟨state :: states, by simp only [List.length_cons, length], ?_⟩
  simp only [Receiver.receptions, goesOn, receptions, List.map_cons, List.cons_append]

theorem arrives_of_continuation {rest fields} (idLe : receiver.id ≤ Bus.maxIdentifier)
    (carried : Continuation i rest fields) :
    ∀ {state frames}, state.Lacks data i rest → frames.map Frame.data = fields →
      receiver.Arrives (some state) frames data := by
  induction carried with
  | last =>
      intro state frames lacks shown
      obtain ⟨frame, rfl, field⟩ := List.map_eq_singleton_iff.mp shown
      exact .last (extend_last lacks field)
  | more full more carried ih =>
      intro state frames lacks shown
      obtain ⟨frame, frames, rfl, field, shown⟩ := List.map_eq_cons_iff.mp shown
      obtain ⟨inBlock, reply, counted⟩ := exists_count idLe (state.append _)
      have goesOn := (extend_more lacks more field).trans counted
      exact .cons goesOn (ih (lacks.append.setInBlock inBlock) shown)

/-- Segmented data arrives, whatever block size the receiver advertises. -/
theorem arrives_of_segmentation {frames} (idLe : receiver.id ≤ Bus.maxIdentifier)
    (segmented : Segmentation data (frames.map Frame.data)) :
    receiver.Arrives none frames data := by
  generalize shown : frames.map Frame.data = fields at segmented
  cases segmented with
  | single nonempty small =>
      obtain ⟨frame, rfl, field⟩ := List.map_eq_singleton_iff.mp shown
      rw [List.length_append] at small
      exact .last (start_single nonempty (by omega) field)
  | @segmented head rest fields full large small carried =>
      obtain ⟨frame, frames, rfl, field, shown⟩ := List.map_eq_cons_iff.mp shown
      obtain ⟨reply, paced⟩ := exists_paced idLe ⟨(head ++ rest).length, head, 1, 0⟩
      have opened := (start_first full large small field).trans paced
      exact .cons opened (arrives_of_continuation idLe carried ⟨rfl, rfl, rfl⟩ shown)

end Receiver

end DiagnosticGateway.IsoTp
