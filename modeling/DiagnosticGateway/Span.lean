/-! # Spans of time

A span is a whole number of nanoseconds. Its text uses the largest of the units `s`, `ms`, `µs`
and `ns` in which the value is at least one, with as many decimals as the value needs.
-/

namespace DiagnosticGateway

structure Span where
  /-- The length in nanoseconds. -/
  nanoseconds : Nat
deriving Repr, DecidableEq

namespace Span

def ofMillis (n : Nat) : Span := ⟨n * 1000000⟩

def ofMicros (n : Nat) : Span := ⟨n * 1000⟩

/-- A span given as whole seconds and a number of nanoseconds. -/
def ofParts (seconds nanoseconds : Nat) : Span := ⟨seconds * 1000000000 + nanoseconds⟩

def toMillis (s : Span) : Nat := s.nanoseconds / 1000000

def toMicros (s : Span) : Nat := s.nanoseconds / 1000

/-- The decimals of `part / 10 ^ places`, without zeros at the end. -/
def decimals (places part : Nat) : List Char :=
  (((Nat.toDigits 10 part).leftpad places '0').reverse.dropWhile (· == '0')).reverse

/-- The text of `n / 10 ^ places` followed by `symbol`. -/
def inUnit (n places : Nat) (symbol : String) : String :=
  let whole := toString (n / Nat.pow 10 places)
  match decimals places (n % Nat.pow 10 places) with
  | [] => whole ++ symbol
  | fraction => whole ++ "." ++ String.ofList fraction ++ symbol

/-- The text of a span in its largest fitting unit. -/
def text (s : Span) : String :=
  if 1000000000 ≤ s.nanoseconds then inUnit s.nanoseconds 9 "s"
  else if 1000000 ≤ s.nanoseconds then inUnit s.nanoseconds 6 "ms"
  else if 1000 ≤ s.nanoseconds then inUnit s.nanoseconds 3 "µs"
  else inUnit s.nanoseconds 0 "ns"

example : (ofParts 1 500000000).text = "1.5s" := by rfl

example : (ofParts 0 123456).text = "123.456µs" := by rfl

end Span

end DiagnosticGateway
