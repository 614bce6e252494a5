import DiagnosticGateway.CommandLine.GatewayCommand

/-! # The gateway's program

Prints the configuration that the arguments ask for. Serving testers takes a bus, which this build
does not have.
-/

namespace DiagnosticGateway

/-- A failed attempt to read a file, as a fault words it. -/
def ioErrorOf (error : IO.Error) : IoError :=
  match error with
  | .noFileOrDirectory .. => PathDefect.notFound.ioError
  | .inappropriateType _ 21 _ => PathDefect.isADirectory.ioError
  | .inappropriateType .. => PathDefect.notADirectory.ioError
  | .invalidArgument .. => PathDefect.tooLong.ioError
  | .permissionDenied .. => ⟨.permissionDenied, "Permission denied (os error 13)"⟩
  | error => ⟨.other, toString error⟩

def readNamed (args : List String) : IO (Except IoError String) := do
  match CommandLine.GatewayArguments.ofArgs args with
  | .ok { file := some path, .. } =>
    try
      match String.fromUTF8? (← IO.FS.readBinFile path) with
      | some text => return .ok text
      | none => return .error ⟨.invalidData, "stream did not contain valid UTF-8"⟩
    catch error =>
      return .error (ioErrorOf error)
  | _ => return .ok ""

end DiagnosticGateway

/-- Runs the command line. -/
def main (args : List String) : IO UInt32 := do
  let file ← DiagnosticGateway.readNamed args
  let report := DiagnosticGateway.CommandLine.runGateway (fun _ => file) args
  (← IO.getStdout).putStr report.out
  (← IO.getStderr).putStr report.err
  return .ofNat report.exit
