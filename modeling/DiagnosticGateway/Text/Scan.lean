/-! # Scanning text

A reader takes something off the front of a text and leaves the rest, or refuses. Readers are
plain functions, joined in `Option`.
-/

namespace DiagnosticGateway

/-- Takes something off the front of a text and leaves the rest. -/
abbrev Reader (α : Type) := List Char → Option (α × List Char)

namespace Scan

def char? (c : Char) : List Char → Option (List Char)
  | [] => none
  | d :: rest => if d = c then some rest else none

/-- Takes given characters. -/
def word? : List Char → List Char → Option (List Char)
  | [], cs => some cs
  | c :: word, cs => char? c cs >>= word? word

/-- The part of a text in front of its ending `rest`. -/
def before (cs rest : List Char) : String := String.ofList (cs.take (cs.length - rest.length))

/-- Takes exactly `n` characters of a class. -/
def count? (n : Nat) (isMember : Char → Bool) : Reader (List Char) := fun cs =>
  let taken := cs.take n
  if taken.length = n ∧ taken.all isMember then some (taken, cs.drop n) else none

theorem length_dropWhile_le {α : Type} (p : α → Bool) (cs : List α) :
    (cs.dropWhile p).length ≤ cs.length := by
  induction cs with
  | nil => simp
  | cons c rest ih =>
    rw [List.dropWhile_cons]
    split
    · exact Nat.le_succ_of_le ih
    · exact Nat.le_refl _

end Scan

end DiagnosticGateway
