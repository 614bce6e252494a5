import DiagnosticGateway.IsoTp.Pci

/-! # Sending messages

A message of up to seven bytes goes out as a single frame. A longer one starts with a first frame;
then the receiver clears the way for one block of consecutive frames after another.

The sender is a machine of three phases: it awaits clearance, it sends a block, or it has
finished. `Phase.cleared` and `Phase.wrote` say how one phase leads to the next, and `Sender.run`
drives the machine over a `Link`, which stands for the bus and the relay. Everything that happens
elsewhere in the meantime is in the state of the link.
-/

namespace DiagnosticGateway.IsoTp

/-- The bus that a sender writes to and the relay from which it takes flow control. -/
structure Link (σ : Type) where
  write : Bus.Frame → σ → Except Fault Unit × σ
  /-- Takes the oldest flow control from the relay, waiting for it at most the given time. -/
  wait : Span → σ → Except Fault FlowControl × σ
  /-- Drops the flow control that is in the relay. -/
  clear : σ → σ
  /-- A bound on the flow control that can be taken before the next write. -/
  supply : σ → Nat
  /-- Taking flow control uses up some of the supply. -/
  supply_lt : ∀ timeout s fc, (wait timeout s).1 = .ok fc →
    supply (wait timeout s).2 < supply s

/-- What is left of a segmented message. -/
structure Progress where
  rest : List UInt8
  /-- The sequence number of the next frame. -/
  sequence : UInt8
deriving Repr, DecidableEq

/-- What is left after one more frame. -/
def Progress.next (p : Progress) : Progress :=
  ⟨p.rest.drop consecutiveMax, (p.sequence + 1) % 16⟩

/-- Where the sender of a segmented message stands. -/
inductive Phase where
  /-- It needs clearance for the next block. -/
  | awaiting (p : Progress)
  /-- It may send this many more frames, or any number. -/
  | sending (p : Progress) (room : Option Nat)
  | finished (outcome : Except Fault Unit)

namespace Phase

/-- The phase after the first frame. -/
def opened (data : List UInt8) : Phase := .awaiting ⟨data.drop firstData, 1⟩

/-- The phase after flow control was taken. -/
def cleared (p : Progress) (fc : FlowControl) : Phase :=
  match fc.status with
  | .continueToSend =>
    .sending p (if fc.blockSize = 0 then none else some fc.blockSize.toNat)
  | .wait => .awaiting p
  | status => .finished (.error (.flowControlAborted status))

/-- The phase after a consecutive frame was written. -/
def wrote (p : Progress) (room : Option Nat) : Phase :=
  if p.next.rest = [] then .finished (.ok ())
  else
    match room with
    | none => .sending p.next none
    | some n => if n ≤ 1 then .awaiting p.next else .sending p.next (some (n - 1))

def bytesLeft : Phase → Nat
  | .awaiting p => p.rest.length
  | .sending p _ => p.rest.length
  | .finished _ => 0

/-- How far a phase is from the next write. -/
def distance : Phase → Nat
  | .awaiting _ => 2
  | .sending _ _ => 1
  | .finished _ => 0

theorem bytesLeft_cleared_le (p : Progress) (fc : FlowControl) :
    (cleared p fc).bytesLeft ≤ p.rest.length := by
  unfold cleared
  split <;> simp [bytesLeft]

theorem distance_cleared_le (p : Progress) (fc : FlowControl) : (cleared p fc).distance ≤ 2 := by
  unfold cleared
  split <;> simp [distance]

theorem bytesLeft_wrote_lt (p : Progress) (room : Option Nat) (h : p.rest ≠ []) :
    (wrote p room).bytesLeft < p.rest.length := by
  have pos := List.length_pos_iff.2 h
  have drop : p.next.rest.length < p.rest.length := by
    simp only [Progress.next, consecutiveMax, List.length_drop]
    omega
  unfold wrote
  split
  · simpa [bytesLeft] using pos
  · split
    · exact drop
    · split <;> exact drop

end Phase

/-- The sending side of one session. -/
structure Sender where
  id : UInt16
  padding : UInt8
  timeout : Span
deriving Repr, DecidableEq

namespace Sender

variable {σ : Type}

/-- Builds a frame and writes it. -/
def put (link : Link σ) (frame : Except Fault Bus.Frame) (s : σ) : Except Fault Unit × σ :=
  match frame with
  | .ok frame => link.write frame s
  | .error fault => (.error fault, s)

/-- Drives the sender of a segmented message from a phase to its end. -/
def run (sender : Sender) (link : Link σ) (phase : Phase) (s : σ) : Except Fault Unit × σ :=
  match phase with
  | .finished outcome => (outcome, s)
  | .awaiting p =>
    match h : link.wait sender.timeout s with
    | (.error fault, s) => (.error fault, s)
    | (.ok fc, s') =>
      have := link.supply_lt sender.timeout s fc (by rw [h])
      sender.run link (.cleared p fc) s'
  | .sending p room =>
    if hp : p.rest = [] then (.ok (), s)
    else
      match put link (Pci.consecutiveFrame sender.id p.sequence (p.rest.take consecutiveMax)
          sender.padding) s with
      | (.error fault, s) => (.error fault, s)
      | (.ok (), s) => sender.run link (.wrote p room) s
termination_by (phase.bytesLeft, phase.distance, link.supply s)
decreasing_by
  · have bytes := Phase.bytesLeft_cleared_le p fc
    have distance := Phase.distance_cleared_le p fc
    simp only [h] at this
    simp only [Prod.lex_def, Phase.bytesLeft, Phase.distance] at *
    omega
  · have bytes := Phase.bytesLeft_wrote_lt p room hp
    exact Prod.Lex.left _ _ bytes

/-- Sends a message of one byte or more, and of at most `maxMessage` bytes. Flow control left over
from earlier messages is dropped before a first frame goes out. -/
def send (sender : Sender) (link : Link σ) (data : List UInt8) (s : σ) : Except Fault Unit × σ :=
  if data.length = 0 then (.error .emptyPayload, s)
  else if maxMessage < data.length then (.error (.payloadTooLarge data.length maxMessage), s)
  else if data.length ≤ singleMax then
    put link (Pci.singleFrame sender.id data sender.padding) s
  else
    match put link (Pci.firstFrame sender.id data.length data) (link.clear s) with
    | (.error fault, s) => (.error fault, s)
    | (.ok (), s) => sender.run link (.opened data) s

end Sender

end DiagnosticGateway.IsoTp
