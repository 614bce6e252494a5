/-! # Arguments

A command line is a list of options and operands. An option has a long name and perhaps a short
one, and it either takes a value or stands alone. A value follows its option directly, after an
equals sign, or as the next argument, which then may not look like an option. After two hyphens
everything is an operand.
-/

namespace DiagnosticGateway.CommandLine

structure OptionSpec where
  name : String
  short : Option Char := none
  takesValue : Bool := true
deriving Repr, DecidableEq

/-- One thing on a command line. -/
inductive Item where
  | option (name value : String)
  | flag (name : String)
  | operand (text : String)
  /-- An argument that the program does not take. -/
  | invalid
deriving Repr, DecidableEq

def looksLikeOption (arg : String) : Bool :=
  match arg.toList with
  | '-' :: _ :: _ => true
  | _ => false

/-- The items in an argument of short names, and the option that still needs a value. -/
def shortItems (options : List OptionSpec) : List Char → List Item × Option String
  | [] => ([], none)
  | c :: rest =>
    match options.find? (·.short == some c) with
    | none => ([.invalid], none)
    | some o =>
      if o.takesValue then
        match rest with
        | [] => ([], some o.name)
        | '=' :: value => ([.option o.name (String.ofList value)], none)
        | value => ([.option o.name (String.ofList value)], none)
      else
        let (items, pending) := shortItems options rest
        (.flag o.name :: items, pending)

/-- The items in an argument with a long name, and the option that still needs a value. -/
def longItems (options : List OptionSpec) (text : List Char) : List Item × Option String :=
  let name := String.ofList (text.takeWhile (· != '='))
  let value := text.dropWhile (· != '=')
  match options.find? (·.name == name), value with
  | none, _ => ([.invalid], none)
  | some o, [] => if o.takesValue then ([], some name) else ([.flag name], none)
  | some o, _ :: value =>
    if o.takesValue then ([.option name (String.ofList value)], none) else ([.invalid], none)

/-- The items in one argument, and the option that still needs a value. -/
def argumentItems (options : List OptionSpec) (arg : String) : List Item × Option String :=
  match arg.toList with
  | '-' :: '-' :: text => longItems options text
  | '-' :: c :: text => shortItems options (c :: text)
  | _ => ([.operand arg], none)

/-- The items on a command line; `pending` is an option that still needs a value. -/
def itemsAfter (options : List OptionSpec) (pending : Option String) : List String → List Item
  | [] => if pending.isSome then [.invalid] else []
  | arg :: rest =>
    match pending with
    | some name =>
      if looksLikeOption arg then [.invalid]
      else .option name arg :: itemsAfter options none rest
    | none =>
      if arg = "--" then rest.map .operand
      else
        let (items, pending) := argumentItems options arg
        items ++ itemsAfter options pending rest

def items (options : List OptionSpec) (args : List String) : List Item :=
  itemsAfter options none args

/-- Why a program does not start with its arguments. -/
inductive Refusal where
  | help
  /-- It does not take its arguments. -/
  | misuse
deriving Repr, DecidableEq

/-- Sets a value that may be set only once. -/
def setOnce {α : Type} (current : Option α) (new : Option α) : Except Refusal (Option α) :=
  match current, new with
  | none, some value => .ok (some value)
  | _, _ => .error .misuse

end DiagnosticGateway.CommandLine
