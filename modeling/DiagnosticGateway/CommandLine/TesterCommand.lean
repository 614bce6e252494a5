import DiagnosticGateway.CommandLine.Arguments
import DiagnosticGateway.CommandLine.HexRequest
import DiagnosticGateway.CommandLine.Report
import DiagnosticGateway.Net.Route
import DiagnosticGateway.Net.SocketAddress
import DiagnosticGateway.Tester

/-! # The tester's command line

A tester connects to a gateway, asks it to route diagnostic messages, sends one request and prints
every answer until none comes in time or the connection ends.
-/

namespace DiagnosticGateway.CommandLine

open Doip (Address Diagnostic Message Source)

def testerOptions : List OptionSpec :=
  [⟨"gateway", some 'g', true⟩, ⟨"tester", none, true⟩, ⟨"ecu", none, true⟩,
    ⟨"wait", none, true⟩, ⟨"help", some 'h', false⟩]

def testerHelp : String :=
  "Send one UDS request through a DoIP gateway\n\n"
  ++ "Usage: doip_client [OPTIONS] <REQUEST>\n\n"
  ++ "Arguments:\n"
  ++ "  <REQUEST>  UDS request as hex (e.g. 22F190)\n\n"
  ++ "Options:\n"
  ++ "  -g, --gateway <GATEWAY>  Gateway address [default: 127.0.0.1:13400]\n"
  ++ "      --tester <TESTER>    Tester logical address [default: 3584]\n"
  ++ "      --ecu <ECU>          ECU logical address [default: 4096]\n"
  ++ "      --wait <WAIT>        Seconds to wait for further responses [default: 2]\n"
  ++ "  -h, --help               Print help\n"

/-- What the tester was started with. -/
structure TesterArguments where
  gateway : Option Net.SocketAddress := none
  tester : Option UInt16 := none
  ecu : Option UInt16 := none
  /-- Seconds to wait for an answer. -/
  wait : Option UInt64 := none
  request : Option String := none
deriving DecidableEq

namespace TesterArguments

/-- Reads a logical address in decimal, perhaps with a sign. -/
def address? (text : String) : Option UInt16 := do
  let n ← Numeral.signed? 10 text.toList
  guard (0 ≤ n ∧ n ≤ 0xFFFF)
  return .ofNat n.toNat

def take (a : TesterArguments) : Item → Except Refusal TesterArguments
  | .option "gateway" text => do
    return { a with gateway := ← setOnce a.gateway (Net.SocketAddress.ofText? text.toList) }
  | .option "tester" text => do return { a with tester := ← setOnce a.tester (address? text) }
  | .option "ecu" text => do return { a with ecu := ← setOnce a.ecu (address? text) }
  | .option "wait" text => do
    let seconds := (Numeral.atMost? 10 (UInt64.size - 1) text.toList).map UInt64.ofNat
    return { a with wait := ← setOnce a.wait seconds }
  | .operand text => do return { a with request := ← setOnce a.request (some text) }
  | .flag "help" => .error .help
  | _ => .error .misuse

/-- Reads a command line, which has to hold a request. -/
def ofArgs (args : List String) : Except Refusal (TesterArguments × String) := do
  let a ← (items testerOptions args).foldlM take {}
  match a.request with
  | some request => return (a, request)
  | none => throw .misuse

end TesterArguments

/-- What a tester's run leaves behind. -/
structure TesterRun where
  report : Report
  sent : List Message := []
deriving DecidableEq

def bytesText (bytes : List UInt8) : String :=
  "[" ++ ", ".intercalate (bytes.map Hex.upperByte) ++ "]"

def answerLine (d : Diagnostic) : String :=
  "Response: " ++ bytesText d.userData ++ " (" ++ d.source.text ++ " -> " ++ d.target.text ++ ")\n"

/-- Whether a fault only says that no answer came in time. -/
def isQuiet : Fault → Bool
  | .io error => error.kind = .wouldBlock ∨ error.kind = .timedOut
  | _ => false

/-- The lines for all answers, and the fault that ended them. At most `count` are read. -/
def answers : Nat → Source → String × Option Fault
  | 0, _ => ("", none)
  | count + 1, source =>
    match Tester.receiveDiagnostic source with
    | (.error fault, _) => ("", if isQuiet fault then none else some fault)
    | (.ok d, left) =>
      let (lines, fault) := answers count left
      (answerLine d ++ lines, fault)

/-- The exchange with the gateway over an open connection. -/
def converse (a : TesterArguments) (request : List UInt8) (source : Source) : TesterRun :=
  let tester : Tester := ⟨⟨a.tester.getD 0x0E00⟩⟩
  if a.wait.getD 2 = 0 then
    ⟨.failed "" (.io ⟨.invalidInput, "cannot set a 0 duration timeout"⟩), []⟩
  else
    let activation := tester.activationRequest 0
    match Tester.awaitActivation source with
    | (.error fault, _) => ⟨.failed "" fault, [activation]⟩
    | (.ok code, left) =>
      let activated := "Routing activation: " ++ code.name ++ "\n"
      if code.isSuccess then
        let (lines, fault) := answers (left.size + 1) left
        let out := activated ++ "Request:  " ++ bytesText request ++ "\n" ++ lines
        let sent := [activation, tester.diagnostic ⟨a.ecu.getD 0x1000⟩ request]
        match fault with
        | none => ⟨⟨0, out, ""⟩, sent⟩
        | some fault => ⟨.failed out fault, sent⟩
      else ⟨.failedIn activated "routing activation denied" [], [activation]⟩

/-- The report of a request that cannot be read. A pair that ends inside a character stops the
program at once. -/
def RequestDefect.report : RequestDefect → Report
  | .odd => .failedIn "" "hex request needs an even number of digits" []
  | .badPair pair =>
    .failedIn "" ("bad hex '" ++ String.ofList pair ++ "'") ["invalid digit found in string"]
  | .splitCharacter => ⟨101, "", ""⟩

/-- Runs the tester's command line. `source` is what the gateway sends. -/
def runTester (route : Net.Route) (source : Source) (args : List String) : TesterRun :=
  match TesterArguments.ofArgs args with
  | .error refusal => ⟨refusal.report testerHelp, []⟩
  | .ok (a, text) =>
    match readRequest text with
    | .error defect => ⟨defect.report, []⟩
    | .ok request =>
      match route.connect with
      | .error error =>
        let gateway := a.gateway.getD (.v4 ⟨127, 0, 0, 1⟩ 13400)
        ⟨.failedIn "" ("failed to connect to " ++ String.ofList gateway.text)
          (wordings (.io error)), []⟩
      | .ok () => converse a request source

end DiagnosticGateway.CommandLine
