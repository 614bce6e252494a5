/-! # Hexadecimal text

Numerals of at least a given width in upper case, and the plain two-digits-a-byte form that
carries byte strings. Reading takes digits of either case.
-/

namespace DiagnosticGateway.Hex

/-- The upper-case digits of `n` in base sixteen, most significant first. -/
def upperDigits (n : Nat) : List Char := (Nat.toDigits 16 n).map Char.toUpper

/-- The upper-case numeral of `n`, filled with zeros on the left up to `width` digits. -/
def numeral (width n : Nat) : String := String.ofList ((upperDigits n).leftpad width '0')

def upperByte (b : UInt8) : String := numeral 2 b.toNat

/-- The value of a hexadecimal digit of either case. -/
def digit? (c : Char) : Option Nat :=
  if '0' ≤ c ∧ c ≤ '9' then some (c.toNat - '0'.toNat)
  else if 'a' ≤ c ∧ c ≤ 'f' then some (c.toNat - 'a'.toNat + 10)
  else if 'A' ≤ c ∧ c ≤ 'F' then some (c.toNat - 'A'.toNat + 10)
  else none

def encode : List UInt8 → List Char
  | [] => []
  | b :: rest => Nat.digitChar (b.toNat / 16) :: Nat.digitChar (b.toNat % 16) :: encode rest

/-- Reads two digits for each byte; a lone digit at the end is refused. -/
def decode? : List Char → Option (List UInt8)
  | [] => some []
  | [_] => none
  | hi :: lo :: rest => do
    let h ← digit? hi
    let l ← digit? lo
    return UInt8.ofNat (16 * h + l) :: (← decode? rest)

example : encode [0x02, 0xfd] = ['0', '2', 'f', 'd'] := by decide

example : decode? ['0', '2', 'F', 'd'] = some [0x02, 0xfd] := by decide

end DiagnosticGateway.Hex
