import DiagnosticGateway.Text.Numeral
import DiagnosticGateway.Toml.Blank

/-! # Quoted text

Text stands between quotation marks, where a backslash starts an escape, or between apostrophes,
where every character stands for itself. Either mark may be tripled; the text may then span
lines, a line end right after the opening mark does not count, and one or two marks may stand in
the text, also right before the closing mark.
-/

namespace DiagnosticGateway.Toml

/-- The character that a letter stands for after a backslash. -/
def escaped? : Char → Option Char
  | 'b' => some '\x08'
  | 't' => some '\t'
  | 'n' => some '\n'
  | 'f' => some '\x0c'
  | 'r' => some '\r'
  | '"' => some '"'
  | '\\' => some '\\'
  | _ => none

/-- The character with this code, unless the code is a surrogate or too large. -/
def char? (code : Nat) : Option Char :=
  if h : code.isValidChar then some (Char.ofNatAux code h) else none

/-- Takes the code of a character in exactly `n` hexadecimal digits. -/
def code? (n : Nat) : Reader Char := fun cs => do
  let (digits, rest) ← Scan.count? n (fun c => (Hex.digit? c).isSome) cs
  return (← char? (← Numeral.plain? 16 digits), rest)

/-- Takes what follows the backslash of an escape. -/
def escape? : Reader Char
  | [] => none
  | 'u' :: rest => code? 4 rest
  | 'U' :: rest => code? 8 rest
  | c :: rest => (escaped? c).map (·, rest)

def onto (c : Char) (read : List Char × List Char) : List Char × List Char :=
  (c :: read.1, read.2)

theorem length_code?_le {n : Nat} {cs rest : List Char} {c : Char}
    (h : code? n cs = some (c, rest)) : rest.length ≤ cs.length := by
  simp only [code?, Scan.count?, Option.bind_eq_bind, Option.bind_eq_some_iff] at h
  obtain ⟨⟨digits, left⟩, htake, code, _, c', _, hpure⟩ := h
  simp only [Option.pure_def, Option.some.injEq, Prod.mk.injEq] at hpure
  split at htake
  · simp only [Option.some.injEq, Prod.mk.injEq] at htake
    rw [← hpure.2, ← htake.2, List.length_drop]
    omega
  · cases htake

theorem length_escape?_lt {cs rest : List Char} {c : Char} (h : escape? cs = some (c, rest)) :
    rest.length < cs.length := by
  unfold escape? at h
  split at h
  · cases h
  · exact Nat.lt_succ_of_le (length_code?_le h)
  · exact Nat.lt_succ_of_le (length_code?_le h)
  · simp only [Option.map_eq_some_iff, Prod.mk.injEq] at h
    obtain ⟨_, _, _, rfl⟩ := h
    exact Nat.lt_succ_self _

/-- Takes text with escapes up to a quotation mark on the same line. -/
def basic? (cs : List Char) : Option (List Char × List Char) :=
  match cs with
  | [] => none
  | '"' :: rest => some ([], rest)
  | '\\' :: rest =>
    match _h : escape? rest with
    | some (c, left) => (basic? left).map (onto c)
    | none => none
  | c :: rest => if isPlain c then (basic? rest).map (onto c) else none
termination_by cs.length
decreasing_by
  · have := length_escape?_lt _h
    simp only [List.length_cons]
    omega
  · simp

/-- Takes text without escapes up to an apostrophe on the same line. -/
def literal? : List Char → Option (List Char × List Char)
  | [] => none
  | '\x27' :: rest => some ([], rest)
  | c :: rest => if isPlain c then (literal? rest).map (onto c) else none

/-- Takes three marks, and counts up to two further marks before them as text. -/
def close? (mark : Char) (cs : List Char) : Option (List Char × List Char) :=
  let marks := ((cs.take 5).takeWhile (· == mark)).length
  if marks < 3 then none else some (List.replicate (marks - 3) mark, cs.drop marks)

/-- Drops a line end right after an opening mark. -/
def skipFirstLine (cs : List Char) : List Char := (newline? cs).getD cs

/-- Drops blanks, a line end, and the blanks and line ends after it. -/
def swallow? (cs : List Char) : Option (List Char) := (newline? (skipBlanks cs)).map skipLines

theorem length_skipLines_le (cs : List Char) : (skipLines cs).length ≤ cs.length := by
  fun_induction skipLines cs with
  | case1 cs rest h ih =>
    have := length_newline?_lt h
    have := length_skipBlanks_le cs
    omega
  | case2 cs h => exact length_skipBlanks_le cs

theorem length_swallow?_lt {cs rest : List Char} (h : swallow? cs = some rest) :
    rest.length < cs.length := by
  simp only [swallow?, Option.map_eq_some_iff] at h
  obtain ⟨left, hleft, rfl⟩ := h
  have := length_newline?_lt hleft
  have := length_skipBlanks_le cs
  have := length_skipLines_le left
  omega

/-- Takes text with escapes, over several lines, up to three quotation marks. -/
def multiBasic? (cs : List Char) : Option (List Char × List Char) :=
  match cs with
  | [] => none
  | '"' :: rest =>
    match close? '"' ('"' :: rest) with
    | some closed => some closed
    | none => (multiBasic? rest).map (onto '"')
  | '\\' :: rest =>
    match _hs : swallow? rest with
    | some left => multiBasic? left
    | none =>
      match _he : escape? rest with
      | some (c, left) => (multiBasic? left).map (onto c)
      | none => none
  | c :: rest =>
    match _hn : newline? (c :: rest) with
    | some left => (multiBasic? left).map (onto '\n')
    | none => if isPlain c then (multiBasic? rest).map (onto c) else none
termination_by cs.length
decreasing_by
  · simp
  · have := length_swallow?_lt _hs
    simp only [List.length_cons]
    omega
  · have := length_escape?_lt _he
    simp only [List.length_cons]
    omega
  · exact length_newline?_lt _hn
  · simp

/-- Takes text without escapes, over several lines, up to three apostrophes. -/
def multiLiteral? (cs : List Char) : Option (List Char × List Char) :=
  match cs with
  | [] => none
  | '\x27' :: rest =>
    match close? '\x27' ('\x27' :: rest) with
    | some closed => some closed
    | none => (multiLiteral? rest).map (onto '\x27')
  | c :: rest =>
    match _hn : newline? (c :: rest) with
    | some left => (multiLiteral? left).map (onto '\n')
    | none => if isPlain c then (multiLiteral? rest).map (onto c) else none
termination_by cs.length
decreasing_by
  · simp
  · exact length_newline?_lt _hn
  · simp

/-- Takes quoted text on one line, as it may also stand in a key. -/
def quoted? : List Char → Option (List Char × List Char)
  | '"' :: rest => basic? rest
  | '\x27' :: rest => literal? rest
  | _ => none

/-- Takes quoted text of any form. -/
def string? : List Char → Option (List Char × List Char)
  | '"' :: '"' :: '"' :: rest => multiBasic? (skipFirstLine rest)
  | '\x27' :: '\x27' :: '\x27' :: rest => multiLiteral? (skipFirstLine rest)
  | cs => quoted? cs

end DiagnosticGateway.Toml
