/-! # Big-endian numbers

Two-byte and four-byte numbers with the most significant byte first.
-/

namespace DiagnosticGateway.Doip.BigEndian

def bytes16 (v : UInt16) : List UInt8 :=
  [UInt8.ofNat (v.toNat / 256), UInt8.ofNat (v.toNat % 256)]

def read16 (hi lo : UInt8) : UInt16 := UInt16.ofNat (256 * hi.toNat + lo.toNat)

def bytes32 (v : UInt32) : List UInt8 :=
  [UInt8.ofNat (v.toNat / 16777216), UInt8.ofNat (v.toNat / 65536 % 256),
    UInt8.ofNat (v.toNat / 256 % 256), UInt8.ofNat (v.toNat % 256)]

def read32 (a b c d : UInt8) : UInt32 :=
  UInt32.ofNat (16777216 * a.toNat + 65536 * b.toNat + 256 * c.toNat + d.toNat)

theorem length_bytes16 (v : UInt16) : (bytes16 v).length = 2 := rfl

theorem read16_bytes16 (v : UInt16) :
    read16 (UInt8.ofNat (v.toNat / 256)) (UInt8.ofNat (v.toNat % 256)) = v := by
  apply UInt16.toNat_inj.1
  have := v.toNat_lt
  simp only [read16, UInt8.toNat_ofNat', UInt16.toNat_ofNat']
  omega

theorem bytes16_read16 (hi lo : UInt8) : bytes16 (read16 hi lo) = [hi, lo] := by
  have h := hi.toNat_lt
  have l := lo.toNat_lt
  have e : (read16 hi lo).toNat = 256 * hi.toNat + lo.toNat := by
    simp only [read16, UInt16.toNat_ofNat']
    omega
  simp only [bytes16, e, List.cons.injEq, and_true]
  constructor
  · apply UInt8.toNat_inj.1
    simp only [UInt8.toNat_ofNat']
    omega
  · apply UInt8.toNat_inj.1
    simp only [UInt8.toNat_ofNat']
    omega

theorem read32_bytes32 (v : UInt32) :
    read32 (UInt8.ofNat (v.toNat / 16777216)) (UInt8.ofNat (v.toNat / 65536 % 256))
      (UInt8.ofNat (v.toNat / 256 % 256)) (UInt8.ofNat (v.toNat % 256)) = v := by
  apply UInt32.toNat_inj.1
  have := v.toNat_lt
  simp only [read32, UInt8.toNat_ofNat', UInt32.toNat_ofNat']
  omega

theorem bytes32_read32 (a b c d : UInt8) : bytes32 (read32 a b c d) = [a, b, c, d] := by
  have ha := a.toNat_lt
  have hb := b.toNat_lt
  have hc := c.toNat_lt
  have hd := d.toNat_lt
  have e : (read32 a b c d).toNat =
      16777216 * a.toNat + 65536 * b.toNat + 256 * c.toNat + d.toNat := by
    simp only [read32, UInt32.toNat_ofNat']
    omega
  simp only [bytes32, e, List.cons.injEq, and_true]
  refine ⟨?_, ?_, ?_, ?_⟩
  all_goals
    apply UInt8.toNat_inj.1
    simp only [UInt8.toNat_ofNat']
    omega

end DiagnosticGateway.Doip.BigEndian
