import DiagnosticGateway.IsoTp.Pci

/-! # Building transport frames and reading them

Each kind of frame is built in exactly one form, and reading that form gives back what went in.
Filler only follows the bytes of a message: a single frame is cut at its length, and a reader of
consecutive frames has to cut the last of them itself.
-/

namespace DiagnosticGateway

namespace Bus.Frame

theorem ofData_eq_ok_iff {id data frame} :
    ofData id data = .ok frame ↔ frame.id = id ∧ frame.data = data := by
  rcases frame with ⟨fid, fdata, idLe, lengthLe⟩
  constructor
  · intro built
    unfold ofData at built
    split at built
    · split at built
      · cases built
        exact ⟨rfl, rfl⟩
      · cases built
    · cases built
  · rintro ⟨rfl, rfl⟩
    exact (dif_pos idLe).trans (dif_pos lengthLe)

theorem length_fill {data : List UInt8} (padding : UInt8) (fits : data.length ≤ maxData) :
    (fill data padding).length = maxData := by
  simp only [fill, List.length_append, List.length_replicate]
  omega

theorem padded_eq_ok_iff {id data padding frame} :
    padded id data padding = .ok frame ↔ frame.id = id ∧ frame.data = fill data padding := by
  rcases frame with ⟨fid, fdata, idLe, lengthLe⟩
  constructor
  · intro built
    unfold padded at built
    split at built
    · split at built
      · cases built
        exact ⟨rfl, rfl⟩
      · cases built
    · cases built
  · rintro ⟨rfl, rfl⟩
    have fits : data.length ≤ maxData := by
      simp only [fill, List.length_append] at lengthLe
      omega
    exact (dif_pos idLe).trans (dif_pos fits)

theorem exists_padded {id data} (padding : UInt8) (idLe : id ≤ maxIdentifier)
    (fits : data.length ≤ maxData) : ∃ frame, padded id data padding = .ok frame := by
  have lengthLe : (fill data padding).length ≤ maxData := Nat.le_of_eq (length_fill padding fits)
  exact ⟨⟨id, fill data padding, idLe, lengthLe⟩, padded_eq_ok_iff.mpr ⟨rfl, rfl⟩⟩

end Bus.Frame

namespace IsoTp

open Bus (Frame)

/-! ## First bytes -/

/-- The first byte of the consecutive frame with this number. -/
def sequenceByte (i : Nat) : UInt8 := UInt8.ofNat (0x20 + i % 16)

/-- The two bytes that declare the length of a segmented message. -/
def lengthBytes (total : Nat) : List UInt8 :=
  [UInt8.ofNat (0x10 + total / 256), UInt8.ofNat (total % 256)]

theorem toNat_ofNat_byte {n : Nat} (small : n < 256) : (UInt8.ofNat n).toNat = n :=
  UInt8.toNat_ofNat_of_lt' small

/-- A byte that is below another one can be counted up. -/
theorem toNat_succ_of_lt {a b : UInt8} (less : a.toNat < b.toNat) :
    (a + 1).toNat = a.toNat + 1 := by
  have := b.toNat_lt
  rw [UInt8.toNat_add]
  change (a.toNat + 1) % 256 = a.toNat + 1
  omega

theorem toNat_sequenceByte (i : Nat) : (sequenceByte i).toNat = 0x20 + i % 16 :=
  toNat_ofNat_byte (by omega)

/-- Sequence numbers count modulo sixteen, as the byte arithmetic does. -/
theorem sequence_succ (i : Nat) : (UInt8.ofNat (i % 16) + 1) % 16 = UInt8.ofNat ((i + 1) % 16) := by
  apply UInt8.toNat_inj.mp
  rw [UInt8.toNat_mod, UInt8.toNat_add, toNat_ofNat_byte (by omega), toNat_ofNat_byte (by omega)]
  change (i % 16 + 1) % 256 % 16 = (i + 1) % 16
  omega

theorem FrameKind.ofData_singleLength {n : Nat} (small : n ≤ singleMax) (rest : List UInt8) :
    ofData (UInt8.ofNat n :: rest) = .single := by
  simp only [singleMax] at small
  have high : (UInt8.ofNat n).toNat / 16 = 0 := by
    rw [toNat_ofNat_byte (by omega)]
    omega
  simp only [ofData, high]

theorem FrameKind.ofData_lengthBytes {total : Nat} (small : total ≤ maxMessage)
    (rest : List UInt8) : ofData (lengthBytes total ++ rest) = .first := by
  simp only [maxMessage] at small
  have high : (UInt8.ofNat (0x10 + total / 256)).toNat / 16 = 1 := by
    rw [toNat_ofNat_byte (by omega)]
    omega
  simp only [lengthBytes, List.cons_append, ofData, high]

theorem FrameKind.ofData_sequenceByte (i : Nat) (rest : List UInt8) :
    ofData (sequenceByte i :: rest) = .consecutive := by
  have high : (sequenceByte i).toNat / 16 = 2 := by
    rw [toNat_sequenceByte]
    omega
  simp only [ofData, high]

/-! ## Reading -/

theorem Pci.ofData_single {data : List UInt8} (filler : List UInt8) (nonempty : data ≠ [])
    (small : data.length ≤ singleMax) :
    ofData (UInt8.ofNat data.length :: (data ++ filler)) = .ok (.single data) := by
  have positive := List.length_pos_iff.mpr nonempty
  have kind := FrameKind.ofData_singleLength small (data ++ filler)
  have low : (UInt8.ofNat data.length).toNat % 16 = data.length := by
    simp only [singleMax] at small
    rw [toNat_ofNat_byte (by omega)]
    omega
  simp only [ofData, kind, low, List.length_append, List.take_left]
  rw [if_neg (by omega)]

theorem Pci.ofData_first {total : Nat} (small : total ≤ maxMessage) (bytes : List UInt8) :
    ofData (lengthBytes total ++ bytes) = .ok (.first total bytes) := by
  have kind := FrameKind.ofData_lengthBytes small bytes
  simp only [maxMessage] at small
  have high : (UInt8.ofNat (0x10 + total / 256)).toNat = 0x10 + total / 256 :=
    toNat_ofNat_byte (by omega)
  have low : (UInt8.ofNat (total % 256)).toNat = total % 256 := toNat_ofNat_byte (by omega)
  simp only [lengthBytes, List.cons_append, List.nil_append] at kind ⊢
  simp only [ofData, kind, high, low]
  congr 2
  omega

theorem Pci.ofData_consecutive (i : Nat) (bytes : List UInt8) :
    ofData (sequenceByte i :: bytes) = .ok (.consecutive (UInt8.ofNat (i % 16)) bytes) := by
  have low : (0x20 + i % 16) % 16 = i % 16 := by omega
  simp only [ofData, FrameKind.ofData_sequenceByte, toNat_sequenceByte, low]

/-! ## What was read -/

/-- The high nibble of the first byte of a frame of this kind. -/
def FrameKind.nibble : FrameKind → Nat
  | .single => 0
  | .first => 1
  | .consecutive => 2
  | .flowControl => 3
  | .unknown nibble => nibble.toNat

theorem FrameKind.nibble_ofData (b : UInt8) (rest : List UInt8) :
    (ofData (b :: rest)).nibble = b.toNat / 16 := by
  have small := b.toNat_lt
  unfold ofData
  simp only
  split <;> rename_i high
  · exact high.symm
  · exact high.symm
  · exact high.symm
  · exact high.symm
  · exact toNat_ofNat_byte (by omega)

theorem Pci.kind_eq_of_ofData {data pci} (read : ofData data = .ok pci) :
    FrameKind.ofData data = pci.kind := by
  unfold ofData at read
  split at read
  · cases read
  · simp only at read
    split at read <;> rename_i kind <;> rw [kind]
    · split at read <;> cases read
      rfl
    · split at read <;> cases read
      rfl
    · cases read
      rfl
    · split at read <;> cases read
      rfl
    · cases read

theorem Pci.data_of_single {data bytes} (read : ofData data = .ok (.single bytes)) :
    bytes ≠ [] ∧ bytes.length ≤ singleMax ∧
      ∃ filler, data = UInt8.ofNat bytes.length :: (bytes ++ filler) := by
  have kind : FrameKind.ofData data = .single := kind_eq_of_ofData read
  cases data with
  | nil => cases read
  | cons b rest =>
      have high : 0 = b.toNat / 16 := by
        rw [← FrameKind.nibble_ofData b rest, kind]
        rfl
      simp only [ofData, kind] at read
      split at read
      · cases read
      · rename_i fits
        cases read
        have length : (rest.take (b.toNat % 16)).length = b.toNat := by
          rw [List.length_take]
          omega
        have byte : UInt8.ofNat b.toNat = b := UInt8.ofNat_toNat
        refine ⟨?_, by omega, rest.drop (b.toNat % 16), ?_⟩
        · intro empty
          rw [empty] at length
          simp only [List.length_nil] at length
          omega
        · rw [length, byte, List.take_append_drop]

theorem Pci.data_of_first {data total bytes} (read : ofData data = .ok (.first total bytes)) :
    total ≤ maxMessage ∧ data = lengthBytes total ++ bytes := by
  have kind : FrameKind.ofData data = .first := kind_eq_of_ofData read
  cases data with
  | nil => cases read
  | cons b rest =>
      have high : 1 = b.toNat / 16 := by
        rw [← FrameKind.nibble_ofData b rest, kind]
        rfl
      simp only [ofData, kind] at read
      cases rest with
      | nil => cases read
      | cons length bytes =>
          cases read
          have small := length.toNat_lt
          have upper : 0x10 + (256 * (b.toNat % 16) + length.toNat) / 256 = b.toNat := by omega
          have lower : (256 * (b.toNat % 16) + length.toNat) % 256 = length.toNat := by omega
          refine ⟨by simp only [maxMessage]; omega, ?_⟩
          simp only [lengthBytes, upper, lower, UInt8.ofNat_toNat, List.cons_append,
            List.nil_append]

theorem Pci.data_of_consecutive {data i bytes}
    (read : ofData data = .ok (.consecutive (UInt8.ofNat (i % 16)) bytes)) :
    data = sequenceByte i :: bytes := by
  have kind : FrameKind.ofData data = .consecutive := kind_eq_of_ofData read
  cases data with
  | nil => cases read
  | cons b rest =>
      have high : 2 = b.toNat / 16 := by
        rw [← FrameKind.nibble_ofData b rest, kind]
        rfl
      simp only [ofData, kind, Except.ok.injEq, Pci.consecutive.injEq] at read
      obtain ⟨number, rfl⟩ := read
      have low : b.toNat % 16 = i % 16 := by
        have same := congrArg UInt8.toNat number
        rwa [toNat_ofNat_byte (by omega), toNat_ofNat_byte (by omega)] at same
      have byte : b = sequenceByte i := by
        apply UInt8.toNat_inj.mp
        rw [toNat_sequenceByte]
        omega
      rw [byte]

theorem FlowControl.exists_ofData {data} (kind : FrameKind.ofData data = .flowControl)
    (complete : 3 ≤ data.length) : ∃ fc, ofData data = .ok fc := by
  match data, complete with
  | b :: blockSize :: separation :: rest, _ =>
      simp only [ofData, Pci.ofData, kind]
      exact ⟨_, rfl⟩

theorem FlowControl.ofData_of_length_lt {data} (kind : FrameKind.ofData data = .flowControl)
    (short : data.length < 3) : ofData data = .error (.invalidFrame .truncatedFlowControl) := by
  match data, short with
  | [], _ => cases kind
  | [b], _ | [b, blockSize], _ => simp only [ofData, Pci.ofData, kind]

/-! ## Building -/

theorem Pci.singleFrame_eq_ok_iff {id data padding frame} :
    singleFrame id data padding = .ok frame ↔
      data ≠ [] ∧ data.length ≤ singleMax ∧ frame.id = id ∧
        frame.data = Frame.fill (UInt8.ofNat data.length :: data) padding := by
  unfold singleFrame
  split
  · rename_i bad
    refine ⟨fun built => (nomatch built), fun ⟨nonempty, small, _⟩ => ?_⟩
    have positive := List.length_pos_iff.mpr nonempty
    omega
  · rename_i fits
    rw [not_or, List.length_eq_zero_iff] at fits
    rw [Frame.padded_eq_ok_iff]
    exact ⟨fun h => ⟨fits.1, by omega, h⟩, fun h => h.2.2⟩

theorem Pci.firstFrame_eq_ok_iff {id total data frame} :
    firstFrame id total data = .ok frame ↔
      total ≤ maxMessage ∧ singleMax < total ∧ firstData ≤ data.length ∧ frame.id = id ∧
        frame.data = lengthBytes total ++ data.take firstData := by
  unfold firstFrame
  split
  · exact ⟨fun built => (nomatch built), fun h => absurd h.1 (by omega)⟩
  · split
    · exact ⟨fun built => (nomatch built), fun h => absurd h.2 (by omega)⟩
    · rw [Frame.ofData_eq_ok_iff]
      exact ⟨fun h => ⟨by omega, by omega, by omega, h⟩, fun h => h.2.2.2⟩

theorem Pci.exists_firstFrame {id total data} (idLe : id ≤ Bus.maxIdentifier)
    (small : total ≤ maxMessage) (large : singleMax < total) (enough : firstData ≤ data.length) :
    ∃ frame, firstFrame id total data = .ok frame := by
  have lengthLe : (lengthBytes total ++ data.take firstData).length ≤ Bus.maxData := by
    simp only [lengthBytes, List.length_append, List.length_cons, List.length_nil,
      List.length_take, firstData, Bus.maxData]
    omega
  exact ⟨⟨id, _, idLe, lengthLe⟩,
    firstFrame_eq_ok_iff.mpr ⟨small, large, enough, rfl, rfl⟩⟩

theorem Pci.consecutiveFrame_eq_ok_iff {id i data padding frame} :
    consecutiveFrame id (UInt8.ofNat (i % 16)) data padding = .ok frame ↔
      data ≠ [] ∧ data.length ≤ consecutiveMax ∧ frame.id = id ∧
        frame.data = Frame.fill (sequenceByte i :: data) padding := by
  have byte : UInt8.ofNat (0x20 + (UInt8.ofNat (i % 16)).toNat % 16) = sequenceByte i := by
    rw [toNat_ofNat_byte (by omega), Nat.mod_mod, sequenceByte]
  unfold consecutiveFrame
  rw [byte]
  split
  · rename_i bad
    refine ⟨fun built => (nomatch built), fun ⟨nonempty, small, _⟩ => ?_⟩
    have positive := List.length_pos_iff.mpr nonempty
    omega
  · rename_i fits
    rw [not_or, List.length_eq_zero_iff] at fits
    rw [Frame.padded_eq_ok_iff]
    exact ⟨fun h => ⟨fits.1, by omega, h⟩, fun h => h.2.2⟩

/-! ## Flow control -/

theorem FlowStatus.toNat_toNibble_lt (status : FlowStatus) : status.toNibble.toNat < 16 := by
  cases status with
  | continueToSend | wait | overflow => decide
  | reserved value =>
      rw [toNibble, toNat_ofNat_byte (by omega)]
      omega

/-- A status that some nibble stands for. The others are not told apart on the bus. -/
def FlowStatus.Canonical (status : FlowStatus) : Prop := ∃ b, ofNibble b = status

theorem FlowStatus.ofNibble_low {b c : UInt8} (same : b.toNat % 16 = c.toNat % 16) :
    ofNibble b = ofNibble c := by
  simp only [ofNibble, same]

theorem FlowStatus.ofNibble_toNibble {status : FlowStatus} (canonical : status.Canonical) :
    ofNibble status.toNibble = status := by
  obtain ⟨b, rfl⟩ := canonical
  apply ofNibble_low
  have low : b.toNat % 16 < 16 := by omega
  simp only [ofNibble]
  split <;> rename_i found
  · rw [found]; rfl
  · rw [found]; rfl
  · rw [found]; rfl
  · rw [toNibble, toNat_ofNat_byte (by omega), toNat_ofNat_byte (by omega)]
    omega

theorem FrameKind.ofData_flowControl (fc : FlowControl) (rest : List UInt8) :
    ofData (fc.toBytes ++ rest) = .flowControl := by
  have small := fc.status.toNat_toNibble_lt
  have high : (UInt8.ofNat (0x30 + fc.status.toNibble.toNat)).toNat / 16 = 3 := by
    rw [toNat_ofNat_byte (by omega)]
    omega
  simp only [FlowControl.toBytes, List.cons_append, ofData, high]

theorem FlowControl.ofData_toBytes {fc : FlowControl} (canonical : fc.status.Canonical)
    (rest : List UInt8) : FlowControl.ofData (fc.toBytes ++ rest) = .ok fc := by
  have small := fc.status.toNat_toNibble_lt
  have status :
      FlowStatus.ofNibble (UInt8.ofNat (0x30 + fc.status.toNibble.toNat)) = fc.status := by
    rw [← FlowStatus.ofNibble_toNibble canonical]
    apply FlowStatus.ofNibble_low
    rw [FlowStatus.ofNibble_toNibble canonical, toNat_ofNat_byte (by omega)]
    omega
  have kind := FrameKind.ofData_flowControl fc rest
  simp only [FlowControl.toBytes, List.cons_append, List.nil_append] at kind ⊢
  simp only [FlowControl.ofData, Pci.ofData, kind, status]

theorem FlowControl.toFrame_eq_ok_iff {fc : FlowControl} {id padding frame} :
    fc.toFrame id padding = .ok frame ↔
      frame.id = id ∧ frame.data = Frame.fill fc.toBytes padding :=
  Frame.padded_eq_ok_iff

theorem FlowControl.exists_toFrame (fc : FlowControl) {id} (padding : UInt8)
    (idLe : id ≤ Bus.maxIdentifier) : ∃ frame, fc.toFrame id padding = .ok frame :=
  Frame.exists_padded padding idLe (by simp [toBytes, Bus.maxData])

end IsoTp

/-! ## Full frames -/

/-- A frame with this identifier and with as many data bytes as a frame can have. -/
structure Bus.Frame.Full (frame : Bus.Frame) (id : UInt16) : Prop where
  id : frame.id = id
  length : frame.data.length = Bus.maxData

namespace IsoTp

open Bus (Frame)

variable {id : UInt16} {padding : UInt8} {frame : Frame}

theorem full_of_padded {data} (built : Frame.padded id data padding = .ok frame) :
    frame.Full id := by
  obtain ⟨same, field⟩ := Frame.padded_eq_ok_iff.mp built
  have fits : data.length ≤ Bus.maxData := by
    have := frame.length_le
    rw [field, Frame.fill, List.length_append] at this
    omega
  exact ⟨same, field ▸ Frame.length_fill padding fits⟩

theorem Pci.full_of_singleFrame {data} (built : singleFrame id data padding = .ok frame) :
    frame.Full id := by
  unfold singleFrame at built
  split at built
  · cases built
  · exact full_of_padded built

theorem Pci.full_of_firstFrame {total data} (built : firstFrame id total data = .ok frame) :
    frame.Full id := by
  obtain ⟨_, _, enough, same, field⟩ := firstFrame_eq_ok_iff.mp built
  refine ⟨same, ?_⟩
  rw [field, List.length_append, List.length_take_of_le enough]
  rfl

theorem Pci.full_of_consecutiveFrame {sequence data}
    (built : consecutiveFrame id sequence data padding = .ok frame) : frame.Full id := by
  unfold consecutiveFrame at built
  split at built
  · cases built
  · exact full_of_padded built

theorem FlowControl.full_of_toFrame {fc : FlowControl} (built : fc.toFrame id padding = .ok frame) :
    frame.Full id :=
  full_of_padded built

end IsoTp

end DiagnosticGateway
