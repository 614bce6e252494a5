import DiagnosticGateway.CommandLine.Arguments
import DiagnosticGateway.Fault

/-! # Reports

What a finished program leaves behind. A failure is reported with its causes, the outermost
first; more than one cause are numbered.
-/

namespace DiagnosticGateway.CommandLine

/-- What a program leaves behind. -/
structure Report where
  exit : Nat
  out : String := ""
  err : String := ""
deriving Repr, DecidableEq

/-- The lines of a cause, the first after `mark` and the others after `indent`. -/
def indented (mark indent cause : String) : String :=
  mark ++ ("\n" ++ indent).intercalate (cause.splitOn "\n") ++ "\n"

/-- The causes with numbers from `n` on. -/
def numbered (n : Nat) : List String → String
  | [] => ""
  | cause :: rest => indented s!"    {n}: " "       " cause ++ numbered (n + 1) rest

def failureText (failure : String) (causes : List String) : String :=
  "Error: " ++ failure ++ "\n" ++
    match causes with
    | [] => ""
    | [cause] => "\nCaused by:\n" ++ indented "    " "    " cause
    | causes => "\nCaused by:\n" ++ numbered 0 causes

/-- The wordings of a fault and its cause. -/
def wordings (fault : Fault) : List String :=
  match fault with
  | .io error => [fault.message, error.text]
  | _ => [fault.message]

/-- The report of a failure in some context, after `out` was printed. -/
def Report.failedIn (out context : String) (causes : List String) : Report :=
  ⟨1, out, failureText context causes⟩

/-- The report of a fault, after `out` was printed. -/
def Report.failed (out : String) (fault : Fault) : Report :=
  match wordings fault with
  | [] => ⟨1, out, ""⟩
  | failure :: causes => .failedIn out failure causes

/-- The report of a program that did not start. Its help is printed on demand, and is an error
otherwise. -/
def Refusal.report (help : String) : Refusal → Report
  | .help => ⟨0, help, ""⟩
  | .misuse => ⟨2, "", help⟩

end DiagnosticGateway.CommandLine
