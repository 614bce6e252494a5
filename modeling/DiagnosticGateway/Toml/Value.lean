/-! # Values

What a key of a configuration document can hold. Numbers with a fraction and points in time are
kept as they are written: nothing here computes with them.
-/

namespace DiagnosticGateway.Toml

inductive Value where
  | string (text : String)
  | integer (n : Int)
  /-- A number with a fraction or an exponent, an infinity, or the lack of a number. -/
  | float (text : String)
  | boolean (b : Bool)
  /-- A date, a time, or both. -/
  | moment (text : String)
  | array (items : List Value)
  /-- Keys and their values, in the order of their first mention. -/
  | table (entries : List (String × Value))
deriving Inhabited

/-- A key with the names of the tables that lead to it. -/
structure Key where
  parents : List String
  name : String
deriving Repr, DecidableEq

/-- A key with the value it is given. -/
structure Assignment where
  key : Key
  value : Value

/-- What a header opens. -/
inductive Header where
  | table (key : Key)
  /-- A further item of an array of tables. -/
  | item (key : Key)
deriving Repr, DecidableEq

/-- A header with the assignments under it. -/
structure Section where
  header : Header
  assignments : List Assignment

/-- A document: assignments, and then sections. -/
structure Document where
  root : List Assignment
  sections : List Section

end DiagnosticGateway.Toml
