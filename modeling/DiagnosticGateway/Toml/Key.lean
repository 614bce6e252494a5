import DiagnosticGateway.Toml.Quoted
import DiagnosticGateway.Toml.Value

/-! # Keys

A key is a list of names with dots between them, and perhaps blanks around each. A name is bare or
quoted.
-/

namespace DiagnosticGateway.Toml

/-- Whether a character may stand in a bare name. -/
def isBare (c : Char) : Bool := c.isAlphanum || c == '_' || c == '-'

/-- The most names that a key may have. -/
def maxNames : Nat := 79

/-- Takes a bare or quoted name. -/
def name? : Reader (List Char) := fun cs =>
  match cs.takeWhile isBare with
  | [] => quoted? cs
  | name => some (name, cs.dropWhile isBare)

/-- Takes names with dots between them, at most `count` of them. -/
def names? : Nat → Reader (List String)
  | 0, _ => none
  | count + 1, cs =>
    match name? (skipBlanks cs) with
    | none => none
    | some (name, left) =>
      match skipBlanks left with
      | '.' :: rest => do
        let (names, rest) ← names? count rest
        return (String.ofList name :: names, rest)
      | left => some ([String.ofList name], left)

/-- The key with these names, if there are any. -/
def Key.ofNames? (names : List String) : Option Key :=
  names.getLast?.map fun name => ⟨names.dropLast, name⟩

/-- Takes a key, with the blanks around it. -/
def key? : Reader Key := fun cs => do
  let (names, rest) ← names? maxNames cs
  return (← Key.ofNames? names, rest)

end DiagnosticGateway.Toml
