import DiagnosticGateway.Proofs.IsoTp.RoundTrip

/-! # The blocks of a message

Flow control gives clearance for a number of consecutive frames, or for all that are left. Which
frames these are only depends on what is left of the message, so it can be told before any of them
is sent.
-/

namespace DiagnosticGateway.IsoTp

open Bus (Frame)

/-- A frame takes bytes off what is left. -/
theorem Progress.length_next_lt {p : Progress} (more : p.rest ≠ []) :
    p.next.rest.length < p.rest.length := by
  have positive := List.length_pos_iff.mpr more
  simp only [next, consecutiveMax, List.length_drop]
  omega

namespace Sender

/-- The consecutive frames that are left, up to the first that cannot be built. -/
def remaining (sender : Sender) (p : Progress) : List Frame :=
  if _ : p.rest = [] then []
  else
    match sender.nextFrame p with
    | .error _ => []
    | .ok frame => frame :: sender.remaining p.next
termination_by p.rest.length
decreasing_by exact Progress.length_next_lt ‹_›

/-- The consecutive frames of a segmented message. -/
def consecutives (sender : Sender) (data : List UInt8) : List Frame :=
  sender.remaining ⟨data.drop firstData, 1⟩

/-- The frames for which flow control gives clearance. -/
def clearance (sender : Sender) (p : Progress) (fc : FlowControl) : List Frame :=
  if fc.blockSize = 0 then sender.remaining p
  else (sender.remaining p).take fc.blockSize.toNat

/-- The frames that are sent from this phase on before the next wait. A sender in a block always
sends one more frame, so it makes no difference whether there is room for one or for none. -/
def block (sender : Sender) : Phase → List Frame
  | .sending p none => sender.remaining p
  | .sending p (some room) => (sender.remaining p).take (max room 1)
  | .awaiting _ | .finished _ => []

variable {sender : Sender} {p : Progress} {frame : Frame}

theorem remaining_cons (more : p.rest ≠ []) (built : sender.nextFrame p = .ok frame) :
    sender.remaining p = frame :: sender.remaining p.next := by
  rw [remaining, dif_neg more]
  simp only [built]

theorem remaining_nil (empty : p.rest = []) : sender.remaining p = [] := by
  rw [remaining, dif_pos empty]

theorem block_wrote (more : p.rest ≠ []) (built : sender.nextFrame p = .ok frame)
    (room : Option Nat) :
    sender.block (.sending p room) = frame :: sender.block (.wrote p room) := by
  have remaining := remaining_cons more built
  by_cases last : p.next.rest = []
  · rw [remaining_nil last] at remaining
    rw [Phase.wrote_last last]
    cases room with
    | none => exact remaining
    | some room => rw [block, remaining, List.take_of_length_le (Nat.le_max_right room 1), block]
  · rw [Phase.wrote_more last]
    cases room with
    | none => exact remaining
    | some room =>
        rw [block, remaining, Phase.counted]
        split
        · rename_i small
          rw [Nat.max_eq_right small]
          rfl
        · rename_i large
          have fewer : max room 1 = max (room - 1) 1 + 1 := by omega
          rw [fewer, List.take_succ_cons]
          rfl

theorem block_cleared {fc : FlowControl} (go : fc.status = .continueToSend) :
    sender.block (.cleared p fc) = sender.clearance p fc := by
  simp only [Phase.cleared, go, clearance]
  split
  · rfl
  · rename_i limited
    have positive : 1 ≤ fc.blockSize.toNat := by
      have := mt UInt8.toNat_inj.mp limited
      simp only [UInt8.toNat_zero] at this
      omega
    simp only [block, Nat.max_eq_left positive]

end Sender

end DiagnosticGateway.IsoTp
