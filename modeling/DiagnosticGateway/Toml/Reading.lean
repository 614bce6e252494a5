import DiagnosticGateway.Toml.Key
import DiagnosticGateway.Toml.Moment
import DiagnosticGateway.Toml.Number
import DiagnosticGateway.Toml.Tree

/-! # Reading documents

A document is read line by line into assignments and sections. What they amount to is another
matter: see `Document.entries?`. Only tables between braces are built while reading, and values
may nest up to a limit.
-/

namespace DiagnosticGateway.Toml

/-! ### Values -/

/-- Takes the items of an array and its closing bracket. A comma may follow the last item. -/
def items? (read : Reader Value) (cs : List Char) : Option (List Value × List Char) :=
  match skipFiller cs with
  | ']' :: rest => some ([], rest)
  | front =>
    match read front with
    | none => none
    | some (v, left) =>
      match skipFiller left with
      | ']' :: rest => some ([v], rest)
      | ',' :: rest =>
        if _ : rest.length < cs.length then
          (items? read rest).map fun (items, rest) => (v :: items, rest)
        else none
      | _ => none
termination_by cs.length

/-- Takes a key, an equals sign and a value. -/
def assignment? (read : Reader Value) : Reader Assignment := fun cs => do
  let (key, left) ← key? cs
  let (value, rest) ← read (skipBlanks (← Scan.char? '=' left))
  return (⟨key, value⟩, rest)

/-- Takes one or more assignments with commas between them, and the closing brace. -/
def fields? (read : Reader Value) (cs : List Char) : Option (List Assignment × List Char) :=
  match assignment? read cs with
  | none => none
  | some (a, left) =>
    match skipBlanks left with
    | '\x7d' :: rest => some ([a], rest)
    | ',' :: rest =>
      if _ : rest.length < cs.length then
        (fields? read rest).map fun (fields, rest) => (a :: fields, rest)
      else none
    | _ => none
termination_by cs.length

/-- Takes the inside of a table between braces, and the closing brace. -/
def braces? (read : Reader Value) : Reader Value := fun cs =>
  match skipBlanks cs with
  | '\x7d' :: rest => some (.table [], rest)
  | cs => do
    let (fields, rest) ← fields? read cs
    return (← tableOf? fields, rest)

/-- Takes a value that has no parts. -/
def scalar? : Reader Value := fun cs =>
  match cs with
  | '"' :: _ | '\x27' :: _ =>
    (string? cs).map fun (text, rest) => (.string (String.ofList text), rest)
  | 't' :: 'r' :: 'u' :: 'e' :: rest => some (.boolean true, rest)
  | 'f' :: 'a' :: 'l' :: 's' :: 'e' :: rest => some (.boolean false, rest)
  | _ => if startsMoment cs then moment? cs else number? cs

/-- Takes a value with at most `depth` brackets and braces around any part of it. -/
def value? : Nat → Reader Value
  | depth, '[' :: rest =>
    match depth with
    | 0 => none
    | depth + 1 => (items? (value? depth) rest).map fun (items, rest) => (.array items, rest)
  | depth, '\x7b' :: rest =>
    match depth with
    | 0 => none
    | depth + 1 => braces? (value? depth) rest
  | _, cs => scalar? cs

def maxDepth : Nat := 79

/-! ### Lines -/

/-- What a line says. -/
inductive Line where
  | blank
  | assignment (a : Assignment)
  | header (h : Header)

/-- Takes the inside of a header up to its closing brackets. -/
def header? : Reader Header
  | '[' :: rest => do
    let (key, left) ← key? rest
    return (.item key, ← Scan.word? [']', ']'] left)
  | cs => do
    let (key, left) ← key? cs
    return (.table key, ← Scan.char? ']' left)

/-- Takes what a line says, without its end. -/
def content? (cs : List Char) : Option (Line × List Char) :=
  match cs with
  | [] | '\n' :: _ | '\r' :: _ | '#' :: _ => some (.blank, cs)
  | '[' :: rest => (header? rest).map fun (h, rest) => (.header h, rest)
  | cs => (assignment? (value? maxDepth) cs).map fun (a, rest) => (.assignment a, rest)

def line? : Reader Line := fun cs => do
  let (line, left) ← content? (skipBlanks cs)
  return (line, ← lineEnd? left)

def lines? (cs : List Char) : Option (List Line) :=
  if cs = [] then some []
  else
    match line? cs with
    | none => none
    | some (line, rest) =>
      if _ : rest.length < cs.length then (lines? rest).map (line :: ·) else none
termination_by cs.length

/-- The document that lines make up: assignments belong to the header before them. -/
def Document.ofLines : List Line → Document
  | [] => ⟨[], []⟩
  | line :: rest =>
    let d := ofLines rest
    match line with
    | .blank => d
    | .assignment a => { d with root := a :: d.root }
    | .header header => ⟨[], ⟨header, d.root⟩ :: d.sections⟩

/-- Drops the mark that may stand at the start of a text. -/
def skipMark : List Char → List Char
  | '\ufeff' :: rest => rest
  | cs => cs

def Document.ofText? (text : List Char) : Option Document := do
  return .ofLines (← lines? (skipMark text))

end DiagnosticGateway.Toml
