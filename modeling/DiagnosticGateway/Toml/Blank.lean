import DiagnosticGateway.Text.Scan

/-! # Blanks, comments and line ends

Blanks are spaces and tabs. A line ends with a line feed, which a carriage return may precede, or
with the document. A comment runs from a number sign to the end of its line.
-/

namespace DiagnosticGateway.Toml

/-- Whether a character separates words on a line. -/
def isBlank (c : Char) : Bool := c == ' ' || c == '\t'

/-- Whether a character may stand in a comment or in quoted text: a tab or no control character. -/
def isPlain (c : Char) : Bool :=
  c == '\t' || (0x20 ≤ c.toNat && c.toNat ≠ 0x7F)

def skipBlanks (cs : List Char) : List Char := cs.dropWhile isBlank

/-- Takes the end of a line. -/
def newline? : List Char → Option (List Char)
  | '\n' :: rest => some rest
  | '\r' :: '\n' :: rest => some rest
  | _ => none

/-- Drops a comment, up to the end of its line. -/
def skipComment : List Char → List Char
  | '#' :: rest => rest.dropWhile isPlain
  | cs => cs

/-- Takes the rest of a line that holds nothing but blanks and perhaps a comment. -/
def lineEnd? (cs : List Char) : Option (List Char) :=
  match skipComment (skipBlanks cs) with
  | [] => some []
  | cs => newline? cs

theorem length_newline?_lt {cs rest : List Char} (h : newline? cs = some rest) :
    rest.length < cs.length := by
  unfold newline? at h
  split at h
  · cases h
    exact Nat.lt_succ_self _
  · cases h
    exact Nat.lt_succ_of_lt (Nat.lt_succ_self _)
  · cases h

theorem length_skipBlanks_le (cs : List Char) : (skipBlanks cs).length ≤ cs.length :=
  Scan.length_dropWhile_le isBlank cs

theorem length_skipComment_le (cs : List Char) : (skipComment cs).length ≤ cs.length := by
  unfold skipComment
  split
  · rename_i rest
    have := Scan.length_dropWhile_le isPlain rest
    simp only [List.length_cons]
    omega
  · exact Nat.le_refl _

/-- Drops blanks, comments and line ends, as they may stand between the items of an array. -/
def skipFiller (cs : List Char) : List Char :=
  match _h : newline? (skipComment (skipBlanks cs)) with
  | some rest => skipFiller rest
  | none => skipComment (skipBlanks cs)
termination_by cs.length
decreasing_by
  have := length_newline?_lt _h
  have := length_skipComment_le (skipBlanks cs)
  have := length_skipBlanks_le cs
  omega

/-- Drops blanks and line ends, as a line that ends with a backslash swallows them. -/
def skipLines (cs : List Char) : List Char :=
  match _h : newline? (skipBlanks cs) with
  | some rest => skipLines rest
  | none => skipBlanks cs
termination_by cs.length
decreasing_by
  have := length_newline?_lt _h
  have := length_skipBlanks_le cs
  omega

end DiagnosticGateway.Toml
