import Mathlib.Algebra.BigOperators.Group.List.Basic
import DiagnosticGateway.Proofs.IsoTp.Reassembling

/-! # How far a message has come

The frames that a receiver has accepted tell all about its message in progress: they have brought
the bytes behind their first ones, and they are counted modulo sixteen for the sequence number and
modulo the block size for the block. So no count leaves its byte, and what is missing is never less
than nothing. A frame of one byte is accepted like any other and brings nothing. The others come to
an end, since each of them leaves less to be brought.
-/

namespace DiagnosticGateway.IsoTp

open Bus (Frame)

namespace Receiver

/-- A receiver that has accepted a first frame and these frames after it has this message in
progress. -/
inductive InProgress (receiver : Receiver) (first : Frame) : List Frame → Reassembly → Prop where
  | start {state reply} :
    receiver.start first = .ok ⟨.partly state, reply⟩ → InProgress receiver first [] state
  | extend {frames state frame next reply} :
    InProgress receiver first frames state →
    receiver.extend state frame = .ok ⟨.partly next, reply⟩ →
    InProgress receiver first (frames ++ [frame]) next

/-- What the accepted frames tell about a message in progress. -/
structure Tally (receiver : Receiver) (first : Frame) (frames : List Frame) (state : Reassembly) :
    Prop where
  idLe : receiver.id ≤ Bus.maxIdentifier
  gathered : ∃ head, first.data = lengthBytes state.total ++ head ∧
    state.Gathers head (frames.map (·.data.tail))
  unfinished : state.received.length < state.total
  counts : CountsTo receiver.flowControl.blockSize state.inBlock frames.length
  uncounted : receiver.flowControl.blockSize = 0 → state.inBlock = 0

variable {receiver : Receiver} {first frame : Frame} {frames : List Frame}
variable {state next : Reassembly} {reply : Option Frame}

/-! ## One frame -/

theorem extend_partly (extended : receiver.extend state frame = .ok ⟨.partly next, reply⟩) :
    ∃ chunk, Pci.ofData frame.data = .ok (.consecutive state.expected chunk) ∧
      (state.append chunk).received.length < state.total ∧
      receiver.count (state.append chunk) = .ok ⟨.partly next, reply⟩ := by
  obtain ⟨chunk, read⟩ := exists_consecutive_of_extend extended
  rw [extend_consecutive read] at extended
  split at extended
  · cases extended
  · rename_i unfinished
    exact ⟨chunk, read, Nat.lt_of_not_le unfinished, extended⟩

theorem count_partly {n : Nat} (counted : receiver.count state = .ok ⟨.partly next, reply⟩)
    (counts : CountsTo receiver.flowControl.blockSize state.inBlock n) :
    ∃ inBlock, next = { state with inBlock } ∧
      CountsTo receiver.flowControl.blockSize inBlock (n + 1) ∧
      (receiver.flowControl.blockSize = 0 → inBlock = state.inBlock) := by
  unfold count at counted
  split at counted
  · rename_i unlimited
    cases counted
    exact ⟨_, rfl, fun limited => absurd unlimited limited, fun _ => rfl⟩
  · rename_i limited
    obtain ⟨full_iff, goesOn⟩ := counts.succ limited
    split at counted
    · rename_i full
      obtain ⟨reply, same⟩ := paced_cases counted
      cases same
      refine ⟨0, rfl, fun _ => ?_, fun unlimited => absurd unlimited limited⟩
      simp [Nat.mod_eq_zero_of_dvd (full_iff.mp full)]
    · rename_i room
      cases counted
      exact ⟨_, rfl, goesOn (mt full_iff.mpr room), fun unlimited => absurd unlimited limited⟩

namespace Tally

theorem start (started : receiver.start first = .ok ⟨.partly state, reply⟩) :
    receiver.Tally first [] state := by
  obtain ⟨idLe, total, head, opens⟩ := opens_of_start started rfl
  rw [start_first opens.full opens.large opens.small opens.field] at started
  obtain ⟨reply, same⟩ := paced_cases started
  cases same
  have large := opens.large
  have whole : head.take total = head := by
    apply List.take_of_length_le
    simp only [opens.full, firstData, singleMax] at *
    omega
  refine ⟨idLe, ⟨head, opens.field, large, opens.small, opens.full, ?_, rfl⟩, ?_, ?_, ?_⟩
  · simp [whole]
  · simp only [opens.full, firstData, singleMax] at *
    omega
  · intro _
    simp
  · intro _
    rfl

theorem extend (tally : receiver.Tally first frames state)
    (extended : receiver.extend state frame = .ok ⟨.partly next, reply⟩) :
    receiver.Tally first (frames ++ [frame]) next := by
  obtain ⟨head, opening, gathers⟩ := tally.gathered
  obtain ⟨chunk, read, unfinished, counted⟩ := extend_partly extended
  obtain ⟨inBlock, rfl, counts, uncounted⟩ := count_partly counted tally.counts
  rw [gathers.expected] at read
  have field := Pci.data_of_consecutive read
  have tail : frame.data.tail = chunk := by rw [field, List.tail_cons]
  refine ⟨tally.idLe, ⟨head, opening, ?_⟩, unfinished, ?_, ?_⟩
  · rw [List.map_append, List.map_singleton, tail]
    exact (gathers.append chunk).setInBlock inBlock
  · rw [List.length_append]
    exact counts
  · intro unlimited
    exact (uncounted unlimited).trans (tally.uncounted unlimited)

end Tally

/-! ## All frames -/

theorem InProgress.tally (held : receiver.InProgress first frames state) :
    receiver.Tally first frames state := by
  induction held with
  | start started => exact .start started
  | extend _ extended ih => exact ih.extend extended

namespace Tally

theorem length_received (tally : receiver.Tally first frames state) :
    state.received.length = firstData + (frames.map (·.data.tail.length)).sum := by
  obtain ⟨head, _, gathers⟩ := tally.gathered
  have unfinished := tally.unfinished
  have length := congrArg List.length gathers.received
  simp only [List.length_take, List.length_append, List.length_flatten, List.map_map,
    gathers.full, Function.comp_def] at length
  omega

theorem length_received_concat (tally : receiver.Tally first frames state)
    (next_tally : receiver.Tally first (frames ++ [frame]) next) :
    next.received.length = state.received.length + frame.data.tail.length := by
  simp [tally.length_received, next_tally.length_received, Nat.add_assoc]

theorem expected_eq (tally : receiver.Tally first frames state) :
    state.expected = UInt8.ofNat ((frames.length + 1) % 16) := by
  obtain ⟨_, _, gathers⟩ := tally.gathered
  simpa using gathers.expected

theorem toNat_expected (tally : receiver.Tally first frames state) :
    state.expected.toNat = (1 + frames.length) % 16 := by
  rw [tally.expected_eq, toNat_ofNat_byte (by omega), Nat.add_comm]

theorem inBlock_lt (tally : receiver.Tally first frames state)
    (limited : receiver.flowControl.blockSize ≠ 0) :
    state.inBlock < receiver.flowControl.blockSize := by
  have positive : 0 < receiver.flowControl.blockSize.toNat :=
    UInt8.lt_iff_toNat_lt.mp (UInt8.pos_iff_ne_zero.mpr limited)
  rw [UInt8.lt_iff_toNat_lt, tally.counts limited]
  exact Nat.mod_lt _ positive

theorem toNat_inBlock_succ (tally : receiver.Tally first frames state) :
    (state.inBlock + 1).toNat = state.inBlock.toNat + 1 := by
  by_cases unlimited : receiver.flowControl.blockSize = 0
  · rw [tally.uncounted unlimited]
    rfl
  · exact toNat_succ_of_lt (UInt8.lt_iff_toNat_lt.mp (tally.inBlock_lt unlimited))

/-- Frames with bytes behind the first one are fewer than the bytes that were missing at first. -/
theorem length_lt_of_carry (tally : receiver.Tally first frames state)
    (carry : ∀ frame ∈ frames, 1 < frame.data.length) :
    frames.length + 1 ≤ state.total - firstData := by
  have unfinished := tally.unfinished
  have length := tally.length_received
  have each : ∀ n ∈ frames.map (·.data.tail.length), 1 ≤ n := by
    intro n member
    obtain ⟨frame, here, rfl⟩ := List.mem_map.mp member
    have carries := carry frame here
    rw [List.length_tail]
    omega
  have atLeast := List.length_le_sum_of_one_le _ each
  rw [List.length_map] at atLeast
  omega

/-- A frame with bytes behind the first one ends the message or brings it on. -/
theorem progress (tally : receiver.Tally first frames state) (carries : 1 < frame.data.length) :
    (∃ fault, receiver.extend state frame = .error fault) ∨
    (∃ data, receiver.extend state frame = .ok ⟨.complete data, none⟩) ∨
    ∃ next reply, receiver.extend state frame = .ok ⟨.partly next, reply⟩ ∧
      next.total = state.total ∧ state.received.length < next.received.length := by
  obtain ⟨_, _, gathers⟩ := tally.gathered
  cases extended : receiver.extend state frame with
  | error fault => exact .inl ⟨fault, rfl⟩
  | ok receipt =>
      obtain ⟨chunk, next, _, total, _, ⟨_, rfl⟩ | ⟨reply, rfl⟩⟩ := extend_cases gathers extended
      · exact .inr (.inl ⟨_, rfl⟩)
      · have longer := tally.length_received_concat (tally.extend extended)
        refine .inr (.inr ⟨next, reply, rfl, total, ?_⟩)
        rw [longer, List.length_tail]
        omega

end Tally

theorem InProgress.exists_idle (held : receiver.InProgress first frames state) :
    ∃ idle next, idle.data.length = 1 ∧ receiver.InProgress first (frames ++ [idle]) next ∧
      next.received = state.received := by
  have tally := held.tally
  let idle : Frame := ⟨0, [sequenceByte (frames.length + 1)], by decide, Nat.le_of_ble_eq_true rfl⟩
  have pci : Pci.ofData idle.data = .ok (.consecutive state.expected []) := by
    rw [tally.expected_eq]
    exact Pci.ofData_consecutive (frames.length + 1) []
  have received : (state.append []).received = state.received := by simp [Reassembly.append]
  have unfinished : ¬ state.total ≤ (state.append []).received.length := by
    rw [received]
    exact Nat.not_le_of_lt tally.unfinished
  obtain ⟨inBlock, reply, counted⟩ := exists_count tally.idLe (state.append [])
  have extended := (extend_consecutive pci).trans ((if_neg unfinished).trans counted)
  exact ⟨idle, _, rfl, .extend held extended, received⟩

theorem InProgress.exists_idle_run (held : receiver.InProgress first frames state) (n : Nat) :
    ∃ idle next, idle.length = n ∧ (∀ frame ∈ idle, frame.data.length = 1) ∧
      receiver.InProgress first (frames ++ idle) next ∧ next.received = state.received := by
  induction n with
  | zero => exact ⟨[], state, rfl, List.forall_mem_nil _, by simpa using held, rfl⟩
  | succ n ih =>
      obtain ⟨idle, between, length, single, going, same⟩ := ih
      obtain ⟨frame, next, one, further, unchanged⟩ := going.exists_idle
      refine ⟨idle ++ [frame], next, by simp [length], ?_, ?_, unchanged.trans same⟩
      · intro other member
        rcases List.mem_append.mp member with earlier | last
        · exact single other earlier
        · rw [List.mem_singleton.mp last, one]
      · rwa [← List.append_assoc]

/-- All counts of a message in progress stay in their ranges, however many frames have been
accepted: adding one to a count never leaves a byte, and there are never more bytes than declared. -/
theorem counts_stay_in_range (held : receiver.InProgress first frames state) :
    (firstData ≤ state.received.length ∧ state.received.length ≤ state.total ∧
      state.total ≤ maxMessage) ∧
    (state.expected.toNat = (1 + frames.length) % 16 ∧ state.expected < 16 ∧
      (state.expected + 1).toNat = state.expected.toNat + 1) ∧
    (receiver.flowControl.blockSize = 0 → state.inBlock = 0) ∧
    (receiver.flowControl.blockSize ≠ 0 →
      state.inBlock.toNat = frames.length % receiver.flowControl.blockSize.toNat ∧
      state.inBlock < receiver.flowControl.blockSize) ∧
    (state.inBlock + 1).toNat = state.inBlock.toNat + 1 := by
  have tally := held.tally
  have unfinished := tally.unfinished
  have length := tally.length_received
  have expected := tally.toNat_expected
  obtain ⟨_, _, gathers⟩ := tally.gathered
  have below : state.expected.toNat < (16 : UInt8).toNat := by
    rw [expected]
    exact Nat.mod_lt _ (by decide)
  refine ⟨⟨by omega, by omega, gathers.small⟩, ⟨expected, ?_, ?_⟩, tally.uncounted, ?_, ?_⟩
  · exact UInt8.lt_iff_toNat_lt.mpr below
  · exact toNat_succ_of_lt below
  · intro limited
    exact ⟨tally.counts limited, tally.inBlock_lt limited⟩
  · exact tally.toNat_inBlock_succ

/-- A block of 255 frames is about to be full, and one more frame can still be counted. -/
theorem frames_of_long_block_counted :
    let receiver : Receiver := ⟨0x7E0, .continueToSend 255 10, 0xAA⟩
    let first : Frame := ⟨0x7E8, [0x10, 8, 1, 2, 3, 4, 5, 6], by decide, by decide⟩
    ∃ frames state, frames.length = 254 ∧ receiver.InProgress first frames state ∧
      state.expected.toNat = 15 ∧ state.inBlock.toNat = 254 ∧
      (state.inBlock + 1).toNat = 254 + 1 := by
  intro receiver first
  obtain ⟨reply, started⟩ : ∃ reply,
      receiver.start first = .ok ⟨.partly ⟨8, [1, 2, 3, 4, 5, 6], 1, 0⟩, reply⟩ := ⟨_, rfl⟩
  obtain ⟨frames, state, length, _, held, _⟩ := (InProgress.start started).exists_idle_run 254
  obtain ⟨_, ⟨expected, _, _⟩, _, counted, next⟩ := counts_stay_in_range held
  have inBlock : state.inBlock.toNat = 254 := by
    have counted := (counted (by decide)).1
    rw [List.nil_append, length] at counted
    exact counted
  refine ⟨frames, state, length, held, ?_, inBlock, ?_⟩
  · rw [expected, List.nil_append, length]
  · rw [next, inBlock]

/-- Frames with bytes behind the first one make progress, so fewer of them are accepted than there
are bytes missing after the first frame. Frames without such bytes are accepted without end. -/
theorem frames_with_bytes_make_progress (held : receiver.InProgress first frames state) :
    (∃ head, first.data = lengthBytes state.total ++ head) ∧
    (∀ frame : Frame, 1 < frame.data.length →
      (∃ fault, receiver.extend state frame = .error fault) ∨
      (∃ data, receiver.extend state frame = .ok ⟨.complete data, none⟩) ∨
      ∃ next reply, receiver.extend state frame = .ok ⟨.partly next, reply⟩ ∧
        next.total = state.total ∧ state.received.length < next.received.length) ∧
    ((∀ frame ∈ frames, 1 < frame.data.length) → frames.length + 1 ≤ state.total - firstData) ∧
    ∀ n, ∃ idle next, idle.length = n ∧ (∀ frame ∈ idle, frame.data.length = 1) ∧
      receiver.InProgress first (frames ++ idle) next ∧ next.received = state.received := by
  have tally := held.tally
  obtain ⟨head, opening, _⟩ := tally.gathered
  refine ⟨⟨head, opening⟩, ?_, tally.length_lt_of_carry, held.exists_idle_run⟩
  intro frame carries
  exact tally.progress carries

/-- Of twenty bytes fourteen are missing after the first frame, so a second frame of them goes on. -/
theorem second_frame_makes_progress :
    let receiver : Receiver := ⟨0x7E0, .continueToSend 0 10, 0⟩
    let first : Frame := ⟨0x7E8, [0x10, 20, 1, 2, 3, 4, 5, 6], by decide, by decide⟩
    let second : Frame := ⟨0x7E8, [0x21, 7, 8, 9, 10, 11, 12, 13], by decide, by decide⟩
    let third : Frame := ⟨0x7E8, [0x22, 14], by decide, by decide⟩
    ∃ state next reply, receiver.InProgress first [second] state ∧
      receiver.extend state third = .ok ⟨.partly next, reply⟩ ∧
      state.received.length < next.received.length ∧
      [second].length + 1 ≤ state.total - firstData := by
  intro receiver first second third
  obtain ⟨reply, started⟩ : ∃ reply,
      receiver.start first = .ok ⟨.partly ⟨20, [1, 2, 3, 4, 5, 6], 1, 0⟩, reply⟩ := ⟨_, rfl⟩
  have held : receiver.InProgress first [second] _ := .extend (.start started) rfl
  obtain ⟨_, progress, bounded, _⟩ := frames_with_bytes_make_progress held
  have carries : ∀ frame ∈ [second], 1 < frame.data.length := by
    intro frame member
    rw [List.mem_singleton.mp member]
    decide
  rcases progress third (by decide) with ⟨_, refused⟩ | ⟨_, whole⟩ | ⟨next, reply, goesOn, _, more⟩
  · cases refused
  · cases whole
  · exact ⟨_, next, reply, held, goesOn, more, bounded carries⟩

/-- Two bytes are missing, and three frames are accepted without bringing one of them. -/
theorem three_frames_without_progress :
    let receiver : Receiver := ⟨0x7E0, .continueToSend 0 10, 0⟩
    let first : Frame := ⟨0x7E8, [0x10, 8, 1, 2, 3, 4, 5, 6], by decide, by decide⟩
    let one : Frame := ⟨0x7E8, [0x21], by decide, by decide⟩
    let two : Frame := ⟨0x7E8, [0x22], by decide, by decide⟩
    let three : Frame := ⟨0x7E8, [0x23], by decide, by decide⟩
    ∃ state next, receiver.InProgress first [one, two] state ∧
      receiver.extend state three = .ok ⟨.partly next, none⟩ ∧
      next.received.length = state.received.length ∧
      receiver.InProgress first [one, two, three] next ∧
      next.total - firstData < [one, two, three].length := by
  intro receiver first one two three
  obtain ⟨reply, started⟩ : ∃ reply,
      receiver.start first = .ok ⟨.partly ⟨8, [1, 2, 3, 4, 5, 6], 1, 0⟩, reply⟩ := ⟨_, rfl⟩
  have held : receiver.InProgress first [one, two] _ := .extend (.extend (.start started) rfl) rfl
  exact ⟨_, _, held, rfl, rfl, .extend held rfl, by decide⟩

end Receiver

end DiagnosticGateway.IsoTp
