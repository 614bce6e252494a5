import DiagnosticGateway.Text.Numeral
import DiagnosticGateway.Toml.Blank
import DiagnosticGateway.Toml.Value

/-! # Points in time

A date, a time of day, or a date with a time and perhaps an offset. A date has to exist; a minute
may have a leap second.
-/

namespace DiagnosticGateway.Toml

/-- Takes a number of exactly `n` decimal digits that lies between `low` and `high`. -/
def field? (n low high : Nat) : Reader Nat := fun cs => do
  let (digits, rest) ← Scan.count? n Char.isDigit cs
  let value ← Numeral.plain? 10 digits
  guard (low ≤ value ∧ value ≤ high)
  return (value, rest)

/-- Whether a year has a 29th of February. -/
def isLeap (year : Nat) : Bool := year % 4 == 0 && (year % 100 != 0 || year % 400 == 0)

def daysIn (year month : Nat) : Nat :=
  if month = 2 then (if isLeap year then 29 else 28)
  else if month ∈ [4, 6, 9, 11] then 30
  else 31

def date? (cs : List Char) : Option (List Char) := do
  let (year, cs) ← field? 4 0 9999 cs
  let (month, cs) ← field? 2 1 12 (← Scan.char? '-' cs)
  let (_, cs) ← field? 2 1 (daysIn year month) (← Scan.char? '-' cs)
  return cs

/-- Drops the decimals of a second, if there are any. -/
def skipDecimals : List Char → List Char
  | '.' :: c :: rest => if c.isDigit then rest.dropWhile Char.isDigit else '.' :: c :: rest
  | cs => cs

def hourMinute? (cs : List Char) : Option (List Char) := do
  let (_, cs) ← field? 2 0 23 cs
  let (_, cs) ← field? 2 0 59 (← Scan.char? ':' cs)
  return cs

def time? (cs : List Char) : Option (List Char) := do
  let cs ← hourMinute? cs
  let (_, cs) ← field? 2 0 60 (← Scan.char? ':' cs)
  return skipDecimals cs

/-- Drops an offset, if there is one. -/
def skipOffset (cs : List Char) : List Char :=
  match cs with
  | 'Z' :: rest | 'z' :: rest => rest
  | '+' :: rest | '-' :: rest => (hourMinute? rest).getD cs
  | _ => cs

/-- Drops a time with its offset after a date, if there is one. -/
def skipTime (cs : List Char) : List Char :=
  match cs with
  | 'T' :: rest | 't' :: rest | ' ' :: rest => ((time? rest).map skipOffset).getD cs
  | _ => cs

def moment? : Reader Value := fun cs => do
  let rest ← ((date? cs).map skipTime).orElse fun () => time? cs
  return (.moment (Scan.before cs rest), rest)

/-- Whether digits with a hyphen or a colon after them come next, as no number has them. -/
def startsMoment (cs : List Char) : Bool :=
  (cs.head?.any Char.isDigit) &&
    match cs.dropWhile Char.isDigit with
    | '-' :: _ | ':' :: _ => true
    | _ => false

end DiagnosticGateway.Toml
