import DiagnosticGateway.Text.Hex

/-! # Numerals with a radix and a bound

An unsigned numeral is one or more digits of the radix, perhaps after a plus sign. A reading that
exceeds the bound is refused, however many leading zeros it has.
-/

namespace DiagnosticGateway.Numeral

/-- The value of a digit below `radix`, for a radix of at most sixteen. -/
def digit? (radix : Nat) (c : Char) : Option Nat :=
  (Hex.digit? c).filter (· < radix)

/-- The value of a string of digits read after `acc`; `none` at the first other character. -/
def digits? (radix : Nat) : Nat → List Char → Option Nat
  | acc, [] => some acc
  | acc, c :: rest => do
    let d ← digit? radix c
    digits? radix (acc * radix + d) rest

/-- Reads one or more digits without a sign. -/
def plain? (radix : Nat) : List Char → Option Nat
  | [] => none
  | cs => digits? radix 0 cs

/-- Reads digits that may follow a plus sign. -/
def unsigned? (radix : Nat) : List Char → Option Nat
  | '+' :: rest => plain? radix rest
  | cs => plain? radix cs

/-- Reads digits that may follow a plus or a minus sign. -/
def signed? (radix : Nat) : List Char → Option Int
  | '-' :: rest => (plain? radix rest).map fun n => -(n : Int)
  | cs => (unsigned? radix cs).map Int.ofNat

/-- Reads an unsigned numeral of at most `bound`. -/
def atMost? (radix bound : Nat) (cs : List Char) : Option Nat :=
  (unsigned? radix cs).filter (· ≤ bound)

example : atMost? 16 0xffff ['+', '7', 'e', '1'] = some 0x7e1 := by decide

example : atMost? 16 0xffff ['1', '0', '0', '0', '0'] = none := by decide

end DiagnosticGateway.Numeral
