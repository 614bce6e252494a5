import DiagnosticGateway.Fault

/-! # A directory of files

Files with their texts, all in one directory that paths start from. A path is walked part by part,
and the first part that cannot be entered says what is wrong with the path.
-/

namespace DiagnosticGateway.Bench

/-- Files by name, with their texts. -/
structure Directory where
  files : List (String × String)
deriving Repr, DecidableEq

/-- Where a walk along a path stands. -/
inductive Place where
  /-- At a file with this text. -/
  | file (text : String)
  /-- In the directory that holds the files. -/
  | inside
  /-- In a directory above that one. What else is in it is not known. -/
  | above
  /-- In the directory above all others, which is also above itself. -/
  | root
  /-- In the directory of devices, which every system has. -/
  | devices
deriving Repr, DecidableEq

def Place.parent? : Place → Option Place
  | .file _ => none
  | .inside | .above => some .above
  | .root | .devices => some .root

namespace Directory

def maxNameSize : Nat := 255

def maxPathSize : Nat := 4095

/-- What a place holds under a name. The null device is a file without text. -/
def entry? (directory : Directory) (place : Place) (name : String) : Option Place :=
  match place with
  | .inside => (directory.files.lookup name).map Place.file
  | .root => if name = "dev" then some .devices else none
  | .devices => if name = "null" then some (.file "") else none
  | .above | .file _ => none

/--
Goes one part of a path further. Only a directory can be gone through, also by a part that stays in
it, and a name is looked up only if it is not too long.
-/
def enter (directory : Directory) (place : Place) (part : String) : Except PathDefect Place :=
  match place.parent? with
  | none => .error .notADirectory
  | some parent =>
    if part = "" ∨ part = "." then .ok place
    else if part = ".." then .ok parent
    else if maxNameSize < part.utf8ByteSize then .error .tooLong
    else
      match directory.entry? place part with
      | some next => .ok next
      | none => .error .notFound

/-- Walks a path from the directory, or from the root if the path starts with a slash. -/
def walk (directory : Directory) (path : String) : Except PathDefect Place :=
  if path = "" then .error .notFound
  else if maxPathSize < path.utf8ByteSize then .error .tooLong
  else
    (path.splitOn "/").foldlM directory.enter (if path.startsWith "/" then .root else .inside)

def read (directory : Directory) (path : String) : Except IoError String :=
  match directory.walk path with
  | .ok (.file text) => .ok text
  | .ok _ => .error PathDefect.isADirectory.ioError
  | .error defect => .error defect.ioError

end Directory

end DiagnosticGateway.Bench
