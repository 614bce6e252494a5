import DiagnosticGateway.Proofs.IsoTp.Segmentation

/-! # What a message in progress was gathered from

A receiver takes more than what a well-behaved sender puts out: consecutive frames may be of any
length. `Spelling` says which data fields it takes for a message, and `Reassembly.Gathers` which
bytes have made a message in progress what it is. What `Receiver.start` and `Receiver.extend` do to
a frame they accept is said once, in `start_cases` and `extend_cases`.
-/

namespace DiagnosticGateway.IsoTp

open Bus (Frame)

/-- The data fields of consecutive frames with these bytes and the sequence numbers
1, 2, ..., 15, 0, 1, ... -/
def numbered (chunks : List (List UInt8)) : List (List UInt8) :=
  chunks.mapIdx fun i chunk => sequenceByte (i + 1) :: chunk

/-- The data fields that a receiver may take for a message: those of a single frame, or of a first
frame and of consecutive frames of any length that bring at least the bytes declared. -/
inductive Spelling : List UInt8 → List (List UInt8) → Prop where
  | single {data filler} :
    data ≠ [] → data.length ≤ singleMax →
    Spelling data [UInt8.ofNat data.length :: (data ++ filler)]
  | segmented {total head chunks} :
    singleMax < total → total ≤ maxMessage → head.length = firstData →
    total ≤ (head ++ chunks.flatten).length →
    Spelling ((head ++ chunks.flatten).take total) ((lengthBytes total ++ head) :: numbered chunks)

theorem Spelling.length_le {data fields} (spelling : Spelling data fields) :
    data.length ≤ maxMessage := by
  cases spelling with
  | single _ small => exact Nat.le_trans small (by decide)
  | segmented _ small => exact Nat.le_trans (List.length_take_le _ _) small

theorem numbered_concat (chunks : List (List UInt8)) (chunk : List UInt8) :
    numbered (chunks ++ [chunk]) = numbered chunks ++ [sequenceByte (chunks.length + 1) :: chunk] :=
  List.mapIdx_concat

/-- A message in progress that a first frame with these bytes and consecutive frames with those
chunks have left. -/
structure Reassembly.Gathers (state : Reassembly) (head : List UInt8) (chunks : List (List UInt8)) :
    Prop where
  large : singleMax < state.total
  small : state.total ≤ maxMessage
  full : head.length = firstData
  received : state.received = (head ++ chunks.flatten).take state.total
  expected : state.expected = UInt8.ofNat ((chunks.length + 1) % 16)

namespace Reassembly.Gathers

variable {state : Reassembly} {head : List UInt8} {chunks : List (List UInt8)}

theorem append (gathers : state.Gathers head chunks) (chunk : List UInt8) :
    (state.append chunk).Gathers head (chunks ++ [chunk]) where
  large := gathers.large
  small := gathers.small
  full := gathers.full
  received := by
    have room : state.total - state.received.length =
        state.total - (head ++ chunks.flatten).length := by
      rw [gathers.received, List.length_take]
      omega
    simp only [Reassembly.append, room]
    rw [List.flatten_concat, ← List.append_assoc, List.take_append, gathers.received]
  expected := by
    simp only [Reassembly.append, gathers.expected, sequence_succ, List.length_append,
      List.length_singleton]

theorem setInBlock (gathers : state.Gathers head chunks) (inBlock : UInt8) :
    { state with inBlock }.Gathers head chunks :=
  ⟨gathers.large, gathers.small, gathers.full, gathers.received, gathers.expected⟩

/-- Once all declared bytes are there, the frames spell the message. -/
theorem spelling (gathers : state.Gathers head chunks)
    (enough : state.total ≤ state.received.length) :
    Spelling state.received ((lengthBytes state.total ++ head) :: numbered chunks) := by
  rw [gathers.received]
  rw [gathers.received, List.length_take] at enough
  exact .segmented gathers.large gathers.small gathers.full (by omega)

end Reassembly.Gathers

namespace Receiver

variable {receiver : Receiver} {state : Reassembly} {frame : Frame} {receipt : Receipt}

theorem paced_cases (paced : receiver.paced state = .ok receipt) :
    ∃ reply, receipt = ⟨.partly state, some reply⟩ := by
  unfold Receiver.paced at paced
  cases built : receiver.flowControl.toFrame receiver.id receiver.padding with
  | error fault =>
      rw [built] at paced
      cases paced
  | ok reply =>
      rw [built] at paced
      cases paced
      exact ⟨reply, rfl⟩

theorem count_cases (counted : receiver.count state = .ok receipt) :
    ∃ inBlock reply, receipt = ⟨.partly { state with inBlock }, reply⟩ := by
  unfold count at counted
  split at counted
  · cases counted
    exact ⟨state.inBlock, none, rfl⟩
  · split at counted
    · obtain ⟨reply, rfl⟩ := paced_cases counted
      exact ⟨0, some reply, rfl⟩
    · cases counted
      exact ⟨state.inBlock + 1, none, rfl⟩

/-- A frame that starts a message is a whole one, or a first frame with six bytes. -/
theorem start_cases (started : receiver.start frame = .ok receipt) :
    (∃ data, Spelling data [frame.data] ∧ receipt = ⟨.complete data, none⟩) ∨
      ∃ state head reply, frame.data = lengthBytes state.total ++ head ∧
        state.Gathers head [] ∧ receipt = ⟨.partly state, some reply⟩ := by
  unfold start at started
  cases read : Pci.ofData frame.data with
  | error fault =>
      rw [read] at started
      cases started
  | ok pci =>
      rw [read] at started
      cases pci with
      | consecutive | flowControl => cases started
      | single data =>
          cases started
          obtain ⟨nonempty, small, filler, field⟩ := Pci.data_of_single read
          exact .inl ⟨data, field ▸ .single nonempty small, rfl⟩
      | first total bytes =>
          obtain ⟨small, field⟩ := Pci.data_of_first read
          simp only [bind, Except.bind] at started
          split at started
          · cases started
          · rename_i large
            split at started
            · cases started
            · rename_i enough
              obtain ⟨reply, rfl⟩ := paced_cases started
              have fits := frame.length_le
              simp only [field, lengthBytes, List.length_append, List.length_cons, List.length_nil,
                Bus.maxData] at fits
              simp only [firstData] at enough
              have whole : bytes.take firstData = bytes :=
                List.take_of_length_le (by simp only [firstData]; omega)
              rw [whole]
              refine .inr ⟨_, bytes, reply, field,
                ⟨Nat.lt_of_not_le large, small, ?_, ?_, rfl⟩, rfl⟩
              · simp only [firstData]
                omega
              · simp only [List.flatten_nil, List.append_nil]
                simp only [singleMax] at large
                rw [List.take_of_length_le (by omega)]

/-- Only a consecutive frame with the expected number is accepted for a message in progress. -/
theorem exists_consecutive_of_extend (extended : receiver.extend state frame = .ok receipt) :
    ∃ chunk, Pci.ofData frame.data = .ok (.consecutive state.expected chunk) := by
  cases read : Pci.ofData frame.data with
  | error fault =>
      rw [extend, read] at extended
      cases extended
  | ok pci =>
      cases pci with
      | single | first | flowControl =>
          rw [extend, read] at extended
          cases extended
      | consecutive sequence chunk =>
          by_cases expected : sequence = state.expected
          · exact ⟨chunk, by rw [expected]⟩
          · simp only [extend, read, bind, Except.bind, ne_eq, expected, not_false_eq_true,
              if_true] at extended
            cases extended

/-- A frame that continues a message is a consecutive frame with the expected number. -/
theorem extend_cases {head chunks} (gathers : state.Gathers head chunks)
    (extended : receiver.extend state frame = .ok receipt) :
    ∃ chunk next, frame.data = sequenceByte (chunks.length + 1) :: chunk ∧
      next.total = state.total ∧ next.Gathers head (chunks ++ [chunk]) ∧
        (next.total ≤ next.received.length ∧ receipt = ⟨.complete next.received, none⟩ ∨
          ∃ reply, receipt = ⟨.partly next, reply⟩) := by
  obtain ⟨chunk, read⟩ := exists_consecutive_of_extend extended
  have appended := gathers.append chunk
  rw [extend_consecutive read] at extended
  rw [gathers.expected] at read
  have field := Pci.data_of_consecutive read
  split at extended
  · rename_i enough
    cases extended
    exact ⟨chunk, state.append chunk, field, rfl, appended, .inl ⟨enough, rfl⟩⟩
  · obtain ⟨inBlock, reply, rfl⟩ := count_cases extended
    exact ⟨chunk, { state.append chunk with inBlock }, field, rfl,
      appended.setInBlock inBlock, .inr ⟨reply, rfl⟩⟩

end Receiver

end DiagnosticGateway.IsoTp
