import DiagnosticGateway.Text.Hex
import DiagnosticGateway.Toml.Blank
import DiagnosticGateway.Toml.Key

/-! # Writing documents

Text takes the plainest form that can hold it: in quotation marks without escapes, in apostrophes,
in tripled marks of either kind, and only then with escapes. An array of two or more items has
each on a line of its own. A blank line stands before each section but one at the very start.
-/

namespace DiagnosticGateway.Toml

/-! ### Text -/

/-- The length of the longest run of a character. -/
def longestRun (c : Char) : List Char → Nat
  | [] => 0
  | d :: rest => max ((d :: rest).takeWhile (· == c)).length (longestRun c rest)

/-- Whether a character can only be written as an escape. -/
def needsEscape (c : Char) : Bool := !isPlain c && c ≠ '\n'

/-- A control character as an escape, and any other character as it is. -/
def escape (c : Char) : List Char :=
  match c with
  | '\x08' => ['\\', 'b']
  | '\t' => ['\\', 't']
  | '\n' => ['\\', 'n']
  | '\x0c' => ['\\', 'f']
  | '\r' => ['\\', 'r']
  | '\\' => ['\\', '\\']
  | c => if isPlain c then [c] else '\\' :: 'u' :: (Hex.numeral 4 c.toNat).toList

/-- The inside of text in quotation marks, where `run` marks have just been written. Within lines
every mark is escaped, and in text over several lines every third of a run. -/
def escapeAll (multiline : Bool) : Nat → List Char → List Char
  | _, [] => []
  | run, '"' :: rest =>
    if !multiline || 2 ≤ run then '\\' :: '"' :: escapeAll multiline 0 rest
    else '"' :: escapeAll multiline (run + 1) rest
  | _, c :: rest =>
    (if multiline && c == '\n' then [c] else escape c) ++ escapeAll multiline 0 rest

/-- How text is quoted. -/
inductive Quoting where
  | basic
  | literal
  | multiBasic
  | multiLiteral
deriving Repr, DecidableEq

/-- The form in which text is written. -/
def Quoting.ofText (cs : List Char) : Quoting :=
  let isPlainLine := !cs.any needsEscape && !cs.contains '\n'
  let isPlain := !cs.any needsEscape
  if isPlainLine && !cs.contains '\\' && !cs.contains '"' then .basic
  else if isPlainLine && !cs.contains '\x27' then .literal
  else if isPlain && !cs.contains '\\' && longestRun '"' cs ≤ 2 then .multiBasic
  else if isPlain && longestRun '\x27' cs ≤ 2 then .multiLiteral
  else if cs.contains '\n' then .multiBasic
  else .basic

def quote (cs : List Char) : List Char :=
  let opening := if cs.contains '\n' then ['\n'] else []
  match Quoting.ofText cs with
  | .basic => ['"'] ++ escapeAll false 0 cs ++ ['"']
  | .literal => ['\x27'] ++ cs ++ ['\x27']
  | .multiBasic => ['"', '"', '"'] ++ opening ++ escapeAll true 0 cs ++ ['"', '"', '"']
  | .multiLiteral => ['\x27', '\x27', '\x27'] ++ opening ++ cs ++ ['\x27', '\x27', '\x27']

/-! ### Keys and values -/

/-- A name, bare if it can be. -/
def nameText (name : String) : List Char :=
  if name ≠ "" ∧ name.toList.all isBare then name.toList else quote name.toList

def Key.text (key : Key) : List Char :=
  ['.'].intercalate ((key.parents ++ [key.name]).map nameText)

def integerText (n : Int) : List Char :=
  if n < 0 then '-' :: Nat.toDigits 10 n.natAbs else Nat.toDigits 10 n.natAbs

mutual

def Value.text : Value → List Char
  | .string text => quote text.toList
  | .integer n => integerText n
  | .float text => text.toList
  | .boolean true => ['t', 'r', 'u', 'e']
  | .boolean false => ['f', 'a', 'l', 's', 'e']
  | .moment text => text.toList
  | .array [] => ['[', ']']
  | .array [item] => ['['] ++ item.text ++ [']']
  | .array items => ['[', '\n'] ++ itemLines items ++ [']']
  | .table [] => ['\x7b', '\x7d']
  | .table entries => ['\x7b', ' '] ++ fieldList entries ++ [' ', '\x7d']

/-- Items of an array, each on a line of its own. -/
def itemLines : List Value → List Char
  | [] => []
  | item :: rest => [' ', ' ', ' ', ' '] ++ item.text ++ [',', '\n'] ++ itemLines rest

/-- Entries of a table between braces, with commas between them. -/
def fieldList : List (String × Value) → List Char
  | [] => []
  | [(name, v)] => nameText name ++ [' ', '=', ' '] ++ v.text
  | (name, v) :: rest => nameText name ++ [' ', '=', ' '] ++ v.text ++ [',', ' '] ++ fieldList rest

end

/-! ### Documents -/

/-- A line that assigns a value. -/
def Assignment.text (a : Assignment) : List Char :=
  a.key.text ++ [' ', '=', ' '] ++ a.value.text ++ ['\n']

/-- A header on a line of its own. -/
def Header.text : Header → List Char
  | .table key => ['['] ++ key.text ++ [']', '\n']
  | .item key => ['[', '['] ++ key.text ++ [']', ']', '\n']

/-- A header and the assignments under it. -/
def Section.text (s : Section) : List Char := s.header.text ++ s.assignments.flatMap Assignment.text

def Document.text (d : Document) : List Char :=
  let root := if d.root.isEmpty then [] else [d.root.flatMap Assignment.text]
  ['\n'].intercalate (root ++ d.sections.map Section.text)

end DiagnosticGateway.Toml
