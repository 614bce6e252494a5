import DiagnosticGateway.Proofs.IsoTp.FrameCoding

/-! # Encoders and reader agree

A frame can be built exactly if its bytes fit and its identifier does, and reading it gives what it
was built from. The other way round, what is read of a full frame can be built again, and the new
frame says the same. Reading never looks at a position behind the end of the data.
-/

namespace DiagnosticGateway

namespace Bus.Frame

theorem exists_padded_iff {id : UInt16} {data : List UInt8} {padding : UInt8} :
    (∃ frame, padded id data padding = .ok frame) ↔ id ≤ maxIdentifier ∧ data.length ≤ maxData := by
  constructor
  · rintro ⟨frame, built⟩
    obtain ⟨same, field⟩ := padded_eq_ok_iff.mp built
    have fits := frame.length_le
    simp only [field, fill, List.length_append] at fits
    exact ⟨same ▸ frame.id_le, by omega⟩
  · intro ⟨idLe, fits⟩
    exact exists_padded padding idLe fits

end Bus.Frame

namespace IsoTp

open Bus (Frame)

/-! ## Reading by positions -/

/-- The bytes from one position up to another. There are none if the data does not reach so far. -/
def slice? (data : List UInt8) (start stop : Nat) : Option (List UInt8) :=
  if start ≤ stop ∧ stop ≤ data.length then some ((data.take stop).drop start) else none

theorem slice?_cons (b : UInt8) {rest : List UInt8} {n : Nat} (within : n ≤ rest.length) :
    slice? (b :: rest) 1 (n + 1) = some (rest.take n) :=
  if_pos ⟨Nat.le_add_left 1 n, Nat.succ_le_succ within⟩

theorem slice?_length (data : List UInt8) {start : Nat} (within : start ≤ data.length) :
    slice? data start data.length = some (data.drop start) := by
  rw [slice?, if_pos ⟨within, Nat.le_refl _⟩, List.take_length]

/-- Reading as positions, masks and shifts spell it. There is no answer once a position behind the
end of the data is looked at. -/
def Pci.readAt? (data : List UInt8) : Option (Except Fault Pci) := do
  if data.length = 0 then
    return .error (.invalidFrame .empty)
  let first ← data[0]?
  let low := first.toNat &&& 0x0F
  match FrameKind.ofData data with
  | .single =>
    if low = 0 ∨ singleMax < low ∨ data.length ≤ low then
      return .error (.invalidSingleLength (UInt8.ofNat low))
    return .ok (.single (← slice? data 1 (low + 1)))
  | .first =>
    if data.length < 2 then
      return .error (.invalidFrame .truncatedFirst)
    return .ok (.first (low <<< 8 ||| (← data[1]?).toNat) (← slice? data 2 data.length))
  | .consecutive => return .ok (.consecutive (UInt8.ofNat low) (← slice? data 1 data.length))
  | .flowControl =>
    if data.length < 3 then
      return .error (.invalidFrame .truncatedFlowControl)
    return .ok (.flowControl ⟨.ofNibble first, ← data[1]?, ⟨← data[2]?⟩⟩)
  | .unknown nibble => return .error (.invalidFrame (.unknownKind nibble))

theorem and_low_eq (n : Nat) : n &&& 0x0F = n % 16 :=
  Nat.and_two_pow_sub_one_eq_mod n 4

/-- The twelve bits of a length are a nibble and a byte. -/
theorem shift_or_eq (high : Nat) (low : UInt8) :
    high <<< 8 ||| low.toNat = 256 * high + low.toNat := by
  rw [← Nat.shiftLeft_add_eq_or_of_lt low.toNat_lt, Nat.shiftLeft_eq, Nat.mul_comm]

/-- No position behind the end is looked at, whatever the data and its length. -/
theorem Pci.readAt?_eq (data : List UInt8) : readAt? data = some (ofData data) := by
  cases data with
  | nil => rfl
  | cons b rest =>
      cases kind : FrameKind.ofData (b :: rest) with
      | single =>
          simp only [readAt?, ofData, kind, and_low_eq, List.length_cons, List.getElem?_cons_zero,
            Option.bind_eq_bind, Option.bind_some, Option.pure_def, Nat.add_one_le_iff,
            if_neg (Nat.add_one_ne_zero _)]
          split
          · rfl
          · have within : b.toNat % 16 ≤ rest.length := by omega
            rw [slice?_cons b within, Option.bind_some]
      | first =>
          cases rest with
          | nil => simp [readAt?, ofData, kind]
          | cons declared bytes =>
              have all : slice? _ 2 _ = _ := slice?_length (b :: declared :: bytes) (by simp)
              rw [List.length_cons, List.length_cons] at all
              simp [readAt?, ofData, kind, and_low_eq, shift_or_eq, all]
      | consecutive =>
          have all := slice?_cons b (Nat.le_refl rest.length)
          simp [readAt?, ofData, kind, and_low_eq, all]
      | flowControl =>
          rcases rest with _ | ⟨blockSize, _ | ⟨separation, more⟩⟩ <;> simp [readAt?, ofData, kind]
      | unknown nibble => simp [readAt?, ofData, kind]

/-! ## Building and reading -/

section Building

variable {id : UInt16} {padding : UInt8} {data : List UInt8} {frame : Frame}

/-- A first byte leaves room for seven more in a full frame. -/
theorem exists_padded_cons_iff {first : UInt8} {fault : Fault} :
    (∃ frame, (if data.length = 0 ∨ 7 < data.length then .error fault
        else Frame.padded id (first :: data) padding) = .ok frame) ↔
      1 ≤ data.length ∧ data.length ≤ 7 ∧ id ≤ Bus.maxIdentifier := by
  split
  · rename_i bad
    refine iff_of_false ?_ (by omega)
    rintro ⟨_, built⟩
    cases built
  · rename_i fits
    rw [Frame.exists_padded_iff, List.length_cons, Bus.maxData]
    constructor
    · rintro ⟨idLe, _⟩
      exact ⟨by omega, by omega, idLe⟩
    · rintro ⟨_, _, idLe⟩
      exact ⟨idLe, by omega⟩

theorem Pci.ofData_of_singleFrame (built : singleFrame id data padding = .ok frame) :
    ofData frame.data = .ok (.single data) := by
  obtain ⟨nonempty, small, _, field⟩ := singleFrame_eq_ok_iff.mp built
  rw [field]
  exact ofData_single _ nonempty small

theorem Pci.exists_firstFrame_iff {total : Nat} :
    (∃ frame, firstFrame id total data = .ok frame) ↔
      singleMax < total ∧ total ≤ maxMessage ∧ firstData ≤ data.length ∧
        id ≤ Bus.maxIdentifier := by
  constructor
  · rintro ⟨frame, built⟩
    obtain ⟨small, large, enough, same, _⟩ := firstFrame_eq_ok_iff.mp built
    exact ⟨large, small, enough, same ▸ frame.id_le⟩
  · intro ⟨large, small, enough, idLe⟩
    exact exists_firstFrame idLe small large enough

theorem Pci.ofData_of_firstFrame {total : Nat} (built : firstFrame id total data = .ok frame) :
    ofData frame.data = .ok (.first total (data.take firstData)) := by
  obtain ⟨small, _, _, _, field⟩ := firstFrame_eq_ok_iff.mp built
  rw [field]
  exact ofData_first small _

theorem mod_sixteen_eq (b : UInt8) : b % 16 = UInt8.ofNat (b.toNat % 16) := by
  apply UInt8.toNat_inj.mp
  rw [UInt8.toNat_mod, toNat_ofNat_byte (by omega)]
  rfl

/-- Only the low four bits of a sequence number are sent. -/
theorem Pci.consecutiveFrame_mod (sequence : UInt8) :
    consecutiveFrame id (sequence % 16) data padding =
      consecutiveFrame id sequence data padding := by
  have low : (sequence % 16).toNat % 16 = sequence.toNat % 16 := by
    rw [UInt8.toNat_mod]
    exact Nat.mod_mod _ _
  simp only [consecutiveFrame, low]

theorem Pci.ofData_of_consecutiveFrame {sequence : UInt8}
    (built : consecutiveFrame id sequence data padding = .ok frame) :
    ofData frame.data = .ok (.consecutive (sequence % 16)
      (data ++ List.replicate (consecutiveMax - data.length) padding)) := by
  rw [← consecutiveFrame_mod, mod_sixteen_eq] at built
  obtain ⟨_, _, _, field⟩ := consecutiveFrame_eq_ok_iff.mp built
  have filler : Bus.maxData - (data.length + 1) = consecutiveMax - data.length := by
    simp only [Bus.maxData, consecutiveMax]
    omega
  rw [field, Frame.fill, List.length_cons, filler, List.cons_append, ofData_consecutive,
    mod_sixteen_eq]

theorem FlowControl.exists_toFrame_iff {fc : FlowControl} :
    (∃ frame, fc.toFrame id padding = .ok frame) ↔ id ≤ Bus.maxIdentifier := by
  rw [toFrame, Frame.exists_padded_iff]
  exact and_iff_left (by simp [toBytes, Bus.maxData])

theorem FlowControl.ofData_of_toFrame {fc : FlowControl} (canonical : fc.status.Canonical)
    (built : fc.toFrame id padding = .ok frame) : ofData frame.data = .ok fc := by
  obtain ⟨_, field⟩ := toFrame_eq_ok_iff.mp built
  rw [field]
  exact ofData_toBytes canonical _

theorem FlowControl.ofData_eq_ok_iff {fc : FlowControl} :
    ofData data = .ok fc ↔ Pci.ofData data = .ok (.flowControl fc) := by
  unfold ofData
  split
  · rename_i read
    rw [read]
    simp only [Except.ok.injEq, Pci.flowControl.injEq]
  · rename_i other read
    refine iff_of_false nofun fun same => ?_
    exact other fc (Except.ok.inj (read.symm.trans same))
  · rename_i read
    rw [read]
    exact iff_of_false nofun nofun

/-! ## Building again -/

/-- The frame that says this. -/
def Pci.toFrame (pci : Pci) (id : UInt16) (padding : UInt8) : Except Fault Frame :=
  match pci with
  | .single data => singleFrame id data padding
  | .first total data => firstFrame id total data
  | .consecutive sequence data => consecutiveFrame id sequence data padding
  | .flowControl fc => fc.toFrame id padding

/-- A sequence number has four bits, and every byte after the first comes with it. -/
theorem Pci.length_of_consecutive {sequence : UInt8} {bytes : List UInt8}
    (read : ofData data = .ok (.consecutive sequence bytes)) :
    sequence % 16 = sequence ∧ bytes.length + 1 = data.length := by
  have kind : FrameKind.ofData data = .consecutive := kind_eq_of_ofData read
  cases data with
  | nil => cases read
  | cons b rest =>
      simp only [ofData, kind, Except.ok.injEq, Pci.consecutive.injEq] at read
      obtain ⟨rfl, rfl⟩ := read
      refine ⟨?_, rfl⟩
      rw [mod_sixteen_eq, toNat_ofNat_byte (by omega), Nat.mod_mod]

theorem Pci.canonical_of_flowControl {fc : FlowControl}
    (read : ofData data = .ok (.flowControl fc)) : fc.status.Canonical := by
  have kind : FrameKind.ofData data = .flowControl := kind_eq_of_ofData read
  match data with
  | [] => cases read
  | [b] | [b, blockSize] => simp [ofData, kind] at read
  | b :: blockSize :: separation :: rest =>
      simp only [ofData, kind, Except.ok.injEq, Pci.flowControl.injEq] at read
      exact ⟨b, congrArg FlowControl.status read⟩

/-- What is read of a full frame is said again by a frame that is built from it. -/
theorem Pci.exists_toFrame {pci : Pci} (full : data.length = Bus.maxData)
    (read : ofData data = .ok pci)
    (long : ∀ total bytes, pci = .first total bytes → singleMax < total)
    (idLe : id ≤ Bus.maxIdentifier) (padding : UInt8) :
    ∃ frame, pci.toFrame id padding = .ok frame ∧ ofData frame.data = .ok pci := by
  cases pci with
  | single bytes =>
      obtain ⟨nonempty, small, _⟩ := data_of_single read
      obtain ⟨frame, built⟩ : ∃ frame, singleFrame id bytes padding = .ok frame :=
        exists_padded_cons_iff.mpr ⟨List.length_pos_iff.mpr nonempty, small, idLe⟩
      exact ⟨frame, built, ofData_of_singleFrame built⟩
  | first total bytes =>
      obtain ⟨small, field⟩ := data_of_first read
      have six : bytes.length = firstData := by
        simp only [field, lengthBytes, List.length_append, List.length_cons, List.length_nil,
          Bus.maxData] at full
        simp only [firstData]
        omega
      obtain ⟨frame, built⟩ : ∃ frame, firstFrame id total bytes = .ok frame :=
        exists_firstFrame idLe small (long total bytes rfl) (Nat.le_of_eq six.symm)
      have again := ofData_of_firstFrame built
      rw [← six, List.take_length] at again
      exact ⟨frame, built, again⟩
  | consecutive sequence bytes =>
      obtain ⟨low, length⟩ := length_of_consecutive read
      have seven : bytes.length = consecutiveMax := by
        simp only [full, Bus.maxData] at length
        simp only [consecutiveMax]
        omega
      obtain ⟨frame, built⟩ : ∃ frame, consecutiveFrame id sequence bytes padding = .ok frame :=
        exists_padded_cons_iff.mpr ⟨by rw [seven]; decide, Nat.le_of_eq seven, idLe⟩
      have again := ofData_of_consecutiveFrame built
      rw [seven, Nat.sub_self, List.replicate_zero, List.append_nil, low] at again
      exact ⟨frame, built, again⟩
  | flowControl fc =>
      obtain ⟨frame, built⟩ : ∃ frame, fc.toFrame id padding = .ok frame :=
        FlowControl.exists_toFrame_iff.mpr idLe
      have again := FlowControl.ofData_of_toFrame (canonical_of_flowControl read) built
      exact ⟨frame, built, FlowControl.ofData_eq_ok_iff.mp again⟩

end Building

/-- Each encoder accepts just what fits, and its frames are read as what they were built from.
Reading looks at no position behind the end, names the kind that the first byte names, and reads
nothing of a full frame that cannot be built and read again. -/
theorem encoders_and_reader_agree :
    (∀ id data padding,
      ((∃ frame, Pci.singleFrame id data padding = .ok frame) ↔
        1 ≤ data.length ∧ data.length ≤ 7 ∧ id ≤ 0x7FF) ∧
      ∀ frame, Pci.singleFrame id data padding = .ok frame →
        Pci.ofData frame.data = .ok (.single data)) ∧
    (∀ id total data,
      ((∃ frame, Pci.firstFrame id total data = .ok frame) ↔
        8 ≤ total ∧ total ≤ 4095 ∧ 6 ≤ data.length ∧ id ≤ 0x7FF) ∧
      ∀ frame, Pci.firstFrame id total data = .ok frame →
        Pci.ofData frame.data = .ok (.first total (data.take 6))) ∧
    (∀ id sequence data padding,
      ((∃ frame, Pci.consecutiveFrame id sequence data padding = .ok frame) ↔
        1 ≤ data.length ∧ data.length ≤ 7 ∧ id ≤ 0x7FF) ∧
      ∀ frame, Pci.consecutiveFrame id sequence data padding = .ok frame →
        Pci.ofData frame.data =
          .ok (.consecutive (sequence % 16) (data ++ List.replicate (7 - data.length) padding))) ∧
    (∀ (fc : FlowControl) id padding, fc.status.Canonical →
      ((∃ frame, fc.toFrame id padding = .ok frame) ↔ id ≤ 0x7FF) ∧
      ∀ frame, fc.toFrame id padding = .ok frame → FlowControl.ofData frame.data = .ok fc) ∧
    (∀ data, Pci.readAt? data = some (Pci.ofData data)) ∧
    (∀ data pci, Pci.ofData data = .ok pci → pci.kind = FrameKind.ofData data) ∧
    ∀ data pci, data.length = 8 → Pci.ofData data = .ok pci →
      (∀ total bytes, pci = .first total bytes → 8 ≤ total) →
      ∀ id padding, id ≤ 0x7FF →
        ∃ frame, pci.toFrame id padding = .ok frame ∧ Pci.ofData frame.data = .ok pci := by
  refine ⟨?_, ?_, ?_, ?_, Pci.readAt?_eq, ?_, ?_⟩
  · intro id data padding
    exact ⟨exists_padded_cons_iff, fun _ => Pci.ofData_of_singleFrame⟩
  · intro id total data
    exact ⟨Pci.exists_firstFrame_iff, fun _ => Pci.ofData_of_firstFrame⟩
  · intro id sequence data padding
    exact ⟨exists_padded_cons_iff, fun _ => Pci.ofData_of_consecutiveFrame⟩
  · intro fc id padding canonical
    exact ⟨FlowControl.exists_toFrame_iff, fun _ => FlowControl.ofData_of_toFrame canonical⟩
  · intro data pci read
    exact (Pci.kind_eq_of_ofData read).symm
  · intro data pci full read long id padding idLe
    exact Pci.exists_toFrame full read long idLe padding

/-- A frame with a long sequence number, a status without a meaning, and a first frame of 258 bytes
that is built again. -/
theorem three_frames_agree :
    let fc : FlowControl := ⟨.reserved 7, 5, ⟨0xF3⟩⟩
    let data : List UInt8 := [0x11, 0x02, 1, 2, 3, 4, 5, 6]
    (∃ frame, Pci.consecutiveFrame 0x7E0 0x1F [0xAA] 0xCC = .ok frame ∧
      Pci.ofData frame.data =
        .ok (.consecutive 0x0F [0xAA, 0xCC, 0xCC, 0xCC, 0xCC, 0xCC, 0xCC])) ∧
    (∃ frame, fc.toFrame 0x7E0 0xCC = .ok frame ∧ FlowControl.ofData frame.data = .ok fc) ∧
    ∃ frame, Pci.firstFrame 0x7E0 258 [1, 2, 3, 4, 5, 6] = .ok frame ∧
      Pci.ofData frame.data = Pci.ofData data := by
  intro fc data
  obtain ⟨_, _, consecutive, flowControl, _, _, again⟩ := encoders_and_reader_agree
  refine ⟨?_, ?_, ?_⟩
  · obtain ⟨accepts, reads⟩ := consecutive 0x7E0 0x1F [0xAA] 0xCC
    obtain ⟨frame, built⟩ := accepts.mpr (by decide)
    exact ⟨frame, built, reads frame built⟩
  · obtain ⟨accepts, reads⟩ := flowControl fc 0x7E0 0xCC ⟨0x37, rfl⟩
    obtain ⟨frame, built⟩ := accepts.mpr (by decide)
    exact ⟨frame, built, reads frame built⟩
  · have read : Pci.ofData data = .ok (.first 258 [1, 2, 3, 4, 5, 6]) := rfl
    have long : ∀ total bytes, Pci.first 258 [1, 2, 3, 4, 5, 6] = .first total bytes →
        8 ≤ total := by
      rintro total bytes ⟨⟩
      decide
    exact again data _ rfl read long 0x7E0 0 (by decide)

end IsoTp

end DiagnosticGateway
