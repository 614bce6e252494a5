import DiagnosticGateway.Toml.Value

/-! # Building tables

Assignments and headers build up a tree of tables. Each name may be given a value once and each
table may be opened once: a header opens a table that is new or was only implied by a longer
header, and a dotted key extends only tables that dotted keys have made. In an array of tables,
names lead into its latest item.
-/

namespace DiagnosticGateway.Toml

/-- How a table came to be. -/
inductive Origin where
  /-- A header opened it. -/
  | header
  /-- A header named a table inside it. -/
  | implied
  /-- A dotted key named something inside it. -/
  | dotted
deriving Repr, DecidableEq

/-- What a name stands for while tables are built. -/
inductive Node where
  | value (v : Value)
  | table (origin : Origin) (entries : List (String × Node))
  /-- An array of tables: the latest item, and those before it. -/
  | tables (earlier : List (List (String × Node))) (latest : List (String × Node))

/-- The names of a table, in the order of their first mention. -/
abbrev Entries := List (String × Node)

namespace Entries

def add (entries : Entries) (name : String) (node : Node) : Entries := entries ++ [(name, node)]

def set (entries : Entries) (name : String) (node : Node) : Entries :=
  entries.map fun entry => if entry.1 = name then (name, node) else entry

/-- Assigns a value, going down through the tables named by `parents`. A table takes the value if
it is the one under the header or was made by a dotted key. -/
def assign (name : String) (v : Value) : List String → Bool → Entries → Option Entries
  | [], extensible, entries =>
    if extensible ∧ (entries.lookup name).isNone then some (entries.add name (.value v)) else none
  | parent :: parents, _, entries =>
    match entries.lookup parent with
    | none => do return entries.add parent (.table .dotted (← assign name v parents true []))
    | some (.value _) | some (.table .header _) => none
    | some (.table origin inner) => do
      let inner ← assign name v parents (origin == .dotted) inner
      return entries.set parent (.table origin inner)
    | some (.tables earlier latest) => do
      return entries.set parent (.tables earlier (← assign name v parents false latest))

/-- Carries out assignments under one header. -/
def assignAll (assignments : List Assignment) (entries : Entries) : Option Entries :=
  assignments.foldlM (fun entries a => entries.assign a.key.name a.value a.key.parents true) entries

/-- Changes the table that a header's `parents` lead to. Tables on the way are made if need be. -/
def within (change : Entries → Option Entries) : List String → Entries → Option Entries
  | [], entries => change entries
  | parent :: parents, entries =>
    match entries.lookup parent with
    | none => do return entries.add parent (.table .implied (← within change parents []))
    | some (.value _) => none
    | some (.table origin inner) => do
      return entries.set parent (.table origin (← within change parents inner))
    | some (.tables earlier latest) => do
      return entries.set parent (.tables earlier (← within change parents latest))

/-- Opens a table and carries out the assignments in it. -/
def openTable (name : String) (assignments : List Assignment) (entries : Entries) :
    Option Entries :=
  match entries.lookup name with
  | none => do return entries.add name (.table .header (← assignAll assignments []))
  | some (.table .implied inner) => do
    return entries.set name (.table .header (← assignAll assignments inner))
  | some _ => none

/-- Opens a further item of an array of tables and carries out the assignments in it. -/
def openItem (name : String) (assignments : List Assignment) (entries : Entries) :
    Option Entries :=
  match entries.lookup name with
  | none => do return entries.add name (.tables [] (← assignAll assignments []))
  | some (.tables earlier latest) => do
    return entries.set name (.tables (earlier ++ [latest]) (← assignAll assignments []))
  | some _ => none

def addSection (entries : Entries) (s : Section) : Option Entries :=
  match s.header with
  | .table key => entries.within (openTable key.name s.assignments) key.parents
  | .item key => entries.within (openItem key.name s.assignments) key.parents

end Entries

mutual

/-- The value that a node has come to. -/
def Node.toValue : Node → Value
  | .value v => v
  | .table _ entries => .table (toValues entries)
  | .tables earlier latest => .array (itemsToValues earlier ++ [.table (toValues latest)])

/-- The values of a table's names. -/
def toValues : List (String × Node) → List (String × Value)
  | [] => []
  | (name, node) :: rest => (name, node.toValue) :: toValues rest

/-- The values of tables in an array. -/
def itemsToValues : List (List (String × Node)) → List Value
  | [] => []
  | entries :: rest => .table (toValues entries) :: itemsToValues rest

end

/-- The table that assignments alone make, as between braces. -/
def tableOf? (assignments : List Assignment) : Option Value := do
  return .table (toValues (← Entries.assignAll assignments []))

/-- The names that a document gives a meaning, with their values. -/
def Document.entries? (d : Document) : Option (List (String × Value)) := do
  return toValues (← d.sections.foldlM Entries.addSection (← Entries.assignAll d.root []))

end DiagnosticGateway.Toml
