import DiagnosticGateway.Text.Numeral
import DiagnosticGateway.Toml.Blank
import DiagnosticGateway.Toml.Value

/-! # Numbers

An integer is decimal, perhaps with a sign, or follows `0x`, `0o` or `0b`; it fits into 64 bits
with a sign. A number with a fraction or an exponent may be as small as it likes, but a positive
one that is too large for a double is refused. Single underscores may stand between digits.
-/

namespace DiagnosticGateway.Toml

/-- Whether a character is a digit of the radix. -/
def isDigit (radix : Nat) (c : Char) : Bool := (Numeral.digit? radix c).isSome

/-- Takes further digits. An underscore counts only if a digit follows. -/
def moreDigits (radix : Nat) : List Char → List Char × List Char
  | '_' :: c :: rest =>
    if isDigit radix c then
      let (digits, left) := moreDigits radix rest
      (c :: digits, left)
    else ([], '_' :: c :: rest)
  | c :: rest =>
    if isDigit radix c then
      let (digits, left) := moreDigits radix rest
      (c :: digits, left)
    else ([], c :: rest)
  | [] => ([], [])

def digits? (radix : Nat) : List Char → Option (List Char × List Char)
  | [] => none
  | c :: rest =>
    if isDigit radix c then
      let (digits, left) := moreDigits radix rest
      some (c :: digits, left)
    else none

/-- Takes a sign, if there is one. The answer is whether it is a minus. -/
def sign : List Char → Bool × List Char
  | '-' :: rest => (true, rest)
  | '+' :: rest => (false, rest)
  | cs => (false, cs)

/-- Takes the digits of a decimal integer: a lone zero, or digits that start with none. -/
def whole? : List Char → Option (List Char × List Char)
  | '0' :: rest => some (['0'], rest)
  | cs => digits? 10 cs

/-- The number with this sign and size. -/
def signed (negative : Bool) (n : Nat) : Int := if negative then -n else n

/-- The integer, if it fits into 64 bits with a sign. -/
def integer? (n : Int) : Option Value :=
  if -0x8000000000000000 ≤ n ∧ n < 0x8000000000000000 then some (.integer n) else none

/-- Takes an integer without a sign after its radix mark. -/
def radixInteger? (radix : Nat) : Reader Value := fun cs => do
  let (digits, rest) ← digits? radix cs
  return (← integer? (← Numeral.plain? radix digits), rest)

def decimalInteger? : Reader Value := fun cs => do
  let (negative, cs) := sign cs
  let (digits, rest) ← whole? cs
  return (← integer? (signed negative (← Numeral.plain? 10 digits)), rest)

def readInteger? : Reader Value
  | '0' :: 'x' :: rest => radixInteger? 16 rest
  | '0' :: 'o' :: rest => radixInteger? 8 rest
  | '0' :: 'b' :: rest => radixInteger? 2 rest
  | cs => decimalInteger? cs

/-- Takes a fraction: a point and digits. -/
def fraction? : List Char → Option (List Char × List Char)
  | '.' :: rest => digits? 10 rest
  | _ => none

/-- Takes an exponent: a letter, perhaps a sign, and digits. -/
def exponent? : Reader Int
  | c :: rest =>
    if c = 'e' ∨ c = 'E' then do
      let (negative, cs) := sign rest
      let (digits, left) ← digits? 10 cs
      return (signed negative (← Numeral.plain? 10 digits), left)
    else none
  | [] => none

/-- The least number that counts as infinite when rounded to a double. -/
def doubleLimit : Nat := Nat.pow 2 1024 - Nat.pow 2 970

/-- Whether `m * 10 ^ e` is below the range of doubles' upper end. Numbers whose count of digits
decides are not multiplied out. -/
def isFinite (m : Nat) (e : Int) : Bool :=
  let places := (Nat.toDigits 10 m).length + e
  if m = 0 ∨ places < 300 then true
  else if 310 < places then false
  else m * Nat.pow 10 e.toNat < doubleLimit * Nat.pow 10 (-e).toNat

/-- Takes a number with a fraction, an exponent, or both. -/
def finiteFloat? : Reader Value := fun cs => do
  let (negative, cs₁) := sign cs
  let (digits, cs₂) ← whole? cs₁
  let (decimals, cs₃) := (fraction? cs₂).getD ([], cs₂)
  let (exponent, rest) ←
    match exponent? cs₃ with
    | some read => some read
    | none => if decimals = [] then none else some (0, cs₃)
  let m ← Numeral.plain? 10 (digits ++ decimals)
  guard (negative || isFinite m (exponent - decimals.length))
  return (.float (Scan.before cs rest), rest)

/-- Takes an infinity or the lack of a number. -/
def specialFloat? : Reader Value := fun cs =>
  match (sign cs).2 with
  | 'i' :: 'n' :: 'f' :: rest => some (.float (Scan.before cs rest), rest)
  | 'n' :: 'a' :: 'n' :: rest => some (.float (Scan.before cs rest), rest)
  | _ => none

/-- Takes a number. A fraction or an exponent that is begun has to be complete. -/
def number? : Reader Value := fun cs =>
  ((finiteFloat? cs).orElse fun () => specialFloat? cs).orElse fun () => readInteger? cs

end DiagnosticGateway.Toml
