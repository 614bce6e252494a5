import Mathlib.Data.List.Induction
import Mathlib.Data.Nat.ModEq
import DiagnosticGateway.Bench.ScriptedBus
import DiagnosticGateway.Proofs.IsoTp.Gathering

/-! # A receiver on its bus

A receiver that is fed a first frame and then consecutive frames with the numbers 1, 2, ..., 15, 0,
1, ... keeps the message in progress until the declared bytes have arrived, however few of them each
frame brings, and writes flow control after the first frame and after every full block. Every other
frame makes it drop the message without a word on the bus.
-/

namespace DiagnosticGateway

open Bus (Frame)
open IsoTp

namespace IsoTp

/-- A first frame that declares a message too long for a single frame and brings six bytes of it. -/
structure Opens (frame : Frame) (total : Nat) (head : List UInt8) : Prop where
  large : singleMax < total
  small : total ≤ maxMessage
  full : head.length = firstData
  field : frame.data = lengthBytes total ++ head

/-- The count of frames in a block after `n` frames. Without blocks there is nothing to count. -/
def CountsTo (blockSize inBlock : UInt8) (n : Nat) : Prop :=
  blockSize ≠ 0 → inBlock.toNat = n % blockSize.toNat

theorem CountsTo.succ {blockSize inBlock : UInt8} {n : Nat} (counts : CountsTo blockSize inBlock n)
    (limited : blockSize ≠ 0) :
    (blockSize ≤ inBlock + 1 ↔ blockSize.toNat ∣ n + 1) ∧
      (¬ blockSize.toNat ∣ n + 1 → CountsTo blockSize (inBlock + 1) (n + 1)) := by
  have counted := counts limited
  have positive : 0 < blockSize.toNat := by
    have := mt UInt8.toNat_inj.mp limited
    simp only [UInt8.toNat_zero] at this
    omega
  have below := Nat.mod_lt n positive
  have bounded := blockSize.toNat_lt
  have next : (inBlock + 1).toNat = n % blockSize.toNat + 1 := by
    rw [UInt8.toNat_add, UInt8.toNat_one, counted]
    omega
  have remainder : (n + 1) % blockSize.toNat = (n % blockSize.toNat + 1) % blockSize.toNat :=
    (Nat.mod_add_mod n blockSize.toNat 1).symm
  rw [Nat.dvd_iff_mod_eq_zero, remainder, UInt8.le_iff_toNat_le, next]
  rcases Nat.lt_or_ge (n % blockSize.toNat + 1) blockSize.toNat with less | full
  · rw [Nat.mod_eq_of_lt less]
    refine ⟨by omega, fun _ _ => ?_⟩
    rw [remainder, Nat.mod_eq_of_lt less, next]
  · have filled : n % blockSize.toNat + 1 = blockSize.toNat := by omega
    rw [filled, Nat.mod_self]
    exact ⟨by omega, fun unfilled => absurd rfl unfilled⟩

namespace Receiver

variable {receiver : Receiver} {state : Reassembly} {frame : Frame}

theorem opens_of_start {receipt : Receipt} (started : receiver.start frame = .ok receipt)
    (goesOn : receipt.reception = .partly state) :
    receiver.id ≤ Bus.maxIdentifier ∧ ∃ total head, Opens frame total head := by
  obtain ⟨data, -, rfl⟩ | ⟨state, head, -, field, gathers, -⟩ := start_cases started
  · cases goesOn
  · have opens : Opens frame state.total head :=
      ⟨gathers.large, gathers.small, gathers.full, field⟩
    refine ⟨?_, _, _, opens⟩
    rw [start_first opens.full opens.large opens.small field, paced] at started
    cases built : receiver.flowControl.toFrame receiver.id receiver.padding with
    | ok reply =>
        obtain ⟨id, -⟩ := FlowControl.toFrame_eq_ok_iff.mp built
        exact id ▸ reply.id_le
    | error fault =>
        rw [built] at started
        cases started

theorem exists_extend_error {head chunks} (gathers : state.Gathers head chunks)
    (other : ∀ chunk, frame.data ≠ sequenceByte (chunks.length + 1) :: chunk) :
    ∃ fault, receiver.extend state frame = .error fault := by
  cases extended : receiver.extend state frame with
  | error fault => exact ⟨fault, rfl⟩
  | ok receipt =>
      obtain ⟨chunk, _, field, _⟩ := extend_cases gathers extended
      exact absurd field (other chunk)

end Receiver

end IsoTp

namespace Bench.ReceiverRig

/-- The frames of one message, of which the first starts it. -/
def message (first : Frame) (frames : List Frame) : List Feed :=
  .start first :: frames.map .extend

/-- Refuses a frame: the message in progress is dropped, and nothing is written. -/
def Refuses (rig : ReceiverRig) (feed : Feed) : Prop :=
  ∃ fault, rig.feed feed = (.outcome (.error fault), { rig with pending := none })

variable {rig : ReceiverRig}

/-- A rig whose receiver has a message in progress, made of these bytes and chunks, and has written
flow control for the first frame and for every block since. -/
structure Gathers (start rig : ReceiverRig) (reply : Frame) (total : Nat) (head : List UInt8)
    (chunks : List (List UInt8)) : Prop where
  receiver : rig.receiver = start.receiver
  reliable : rig.bus.failing = []
  written : rig.bus.written = start.bus.written ++
    List.replicate (1 + chunks.length / start.receiver.flowControl.blockSize.toNat) reply
  pending : ∃ state, rig.pending = some state ∧ state.total = total ∧ state.Gathers head chunks ∧
    CountsTo start.receiver.flowControl.blockSize state.inBlock chunks.length

theorem feed_extend {state} (pending : rig.pending = some state) (frame : Frame) :
    rig.feed (.extend frame) = rig.settle (rig.receiver.extend state frame) := by
  rw [feed]
  simp only [pending]

namespace Gathers

variable {start : ReceiverRig} {reply frame : Frame} {total : Nat} {head chunk : List UInt8}
variable {chunks : List (List UInt8)}

theorem refuses (gathers : start.Gathers rig reply total head chunks)
    (other : ∀ chunk, frame.data ≠ sequenceByte (chunks.length + 1) :: chunk) :
    rig.Refuses (.extend frame) := by
  obtain ⟨_, _, _, state, pending, _, gathered, _⟩ := gathers
  obtain ⟨fault, refused⟩ := Receiver.exists_extend_error gathered other
  exact ⟨fault, by rw [feed_extend pending, refused]; rfl⟩

end Gathers

end Bench.ReceiverRig

end DiagnosticGateway
