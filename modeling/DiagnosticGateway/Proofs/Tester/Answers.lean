import Mathlib.Data.List.Forall2
import Mathlib.Data.List.ReduceOption
import DiagnosticGateway.Proofs.Doip.RoundTrip
import DiagnosticGateway.Tester

/-! # What a tester is told

A tester that waits for a diagnostic message takes messages off its stream up to the first that
tells it something: a diagnostic message, a refusal, or one that cannot be read. What comes behind
that message is left for the next call, so calls one after the other report all of them in order.
-/

namespace DiagnosticGateway

open Doip (Diagnostic Message NackCode PayloadType Source Wire addressBytes)

/-! ## One message -/

namespace Doip.NackCode

end Doip.NackCode

namespace Tester

/-- Why a message with this payload was refused, and how that is worded: by the name of the code
behind the addresses, by the code itself if it has no name, or by saying that there is none. -/
inductive Reason (payload : List UInt8) : PayloadDefect → String → Prop where
  | named (code : NackCode) :
    payload[addressBytes]? = some code.toByte → Reason payload (.rejectedAs code.name) code.name
  | unnamed {b} :
    payload[addressBytes]? = some b → (∀ code : NackCode, code.toByte ≠ b) →
    Reason payload (.rejectedWith b) ("code 0x" ++ Hex.upperByte b)
  | missing : payload.length ≤ addressBytes → Reason payload .rejectedWithoutCode "no code"

/-- What a message on the wire tells a tester that waits for a diagnostic message, if it tells
anything. -/
inductive Tells (w : Wire) : Option (Except Fault Diagnostic) → Prop where
  | unreadable {fault} : w.outcome maxPayload = .error fault → Tells w (some (.error fault))
  | diagnostic {d : Diagnostic} :
    w.outcome maxPayload = .ok w.message → w.type = 0x8001 → d.toPayload = w.payload →
    Tells w (some (.ok d))
  | short :
    w.outcome maxPayload = .ok w.message → w.type = 0x8001 → w.payload.length < addressBytes →
    Tells w (some (.error (.messageTooShort addressBytes w.payload.length)))
  | refused {defect reason} :
    w.outcome maxPayload = .ok w.message → w.type = 0x8003 → Reason w.payload defect reason →
    defect.text = "diagnostic message rejected: " ++ reason →
    Tells w (some (.error (.invalidPayload defect)))
  | nothing :
    w.outcome maxPayload = .ok w.message → w.type ≠ 0x8001 → w.type ≠ 0x8003 → Tells w none

/-- What the outcome of a read tells a tester that waits, if it tells anything. -/
def verdict? : Except Fault Message → Option (Except Fault Diagnostic)
  | .error fault => some (.error fault)
  | .ok m => answer? m

section

variable {w : Wire} {told : Option (Except Fault Diagnostic)}

end

/-! ## One call -/

variable {source left : Source} {outcome : Except Fault Message}

theorem receiveDiagnostic_of_verdict {verdict} (received : receive source = (outcome, left))
    (told : verdict? outcome = some verdict) : receiveDiagnostic source = (verdict, left) := by
  rw [receiveDiagnostic]
  split <;> rename_i again <;> rw [received] at again <;> cases again
  · cases told
    rfl
  · rw [verdict?] at told
    simp only [told]

section

variable {front behind rest : Source} {messages before after : List Wire} {w : Wire}
variable {part : List UInt8}

end

end Tester

end DiagnosticGateway
