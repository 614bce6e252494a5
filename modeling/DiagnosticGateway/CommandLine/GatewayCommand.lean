import DiagnosticGateway.CommandLine.Arguments
import DiagnosticGateway.CommandLine.Report
import DiagnosticGateway.Config.Printer
import DiagnosticGateway.Config.Reading

/-! # The gateway's command line

The configuration comes from a file, or is the default one; options then override single settings.
The file has to be free of defects by itself, and so does the outcome.
-/

namespace DiagnosticGateway.CommandLine

def gatewayOptions : List OptionSpec :=
  [⟨"config", some 'c', true⟩, ⟨"interface", some 'i', true⟩, ⟨"listen", some 'l', true⟩,
    ⟨"request-id", none, true⟩, ⟨"response-id", none, true⟩, ⟨"print-config", none, false⟩,
    ⟨"help", some 'h', false⟩]

def gatewayHelp : String :=
  "DoIP to ISO-TP/CAN diagnostic gateway\n\n"
  ++ "Usage: doip-gateway [OPTIONS]\n\n"
  ++ "Options:\n"
  ++ "  -c, --config <CONFIG>            Configuration file path (TOML format)\n"
  ++ "  -i, --interface <INTERFACE>      CAN interface name\n"
  ++ "  -l, --listen <LISTEN>            TCP listen address\n"
  ++ "      --request-id <REQUEST_ID>    CAN identifier for requests to the ECU (e.g. 0x7E0)\n"
  ++ "      --response-id <RESPONSE_ID>  CAN identifier of ECU responses (e.g. 0x7E8)\n"
  ++ "      --print-config               Print the effective configuration as TOML and exit\n"
  ++ "  -h, --help                       Print help\n"

/-- What the gateway was started with. -/
structure GatewayArguments where
  file : Option String := none
  interface : Option String := none
  listen : Option Net.SocketAddress := none
  requestId : Option UInt16 := none
  responseId : Option UInt16 := none
  printConfig : Option Unit := none
deriving DecidableEq

namespace GatewayArguments

/-- Reads a bus identifier: hexadecimal digits, perhaps after `0x`. -/
def identifier? (text : String) : Option UInt16 :=
  let digits :=
    match text.toList with
    | '0' :: 'x' :: rest => rest
    | '0' :: 'X' :: rest => rest
    | cs => cs
  (Numeral.atMost? 16 0xFFFF digits).map UInt16.ofNat

def take (a : GatewayArguments) : Item → Except Refusal GatewayArguments
  | .option "config" path => do
    return { a with file := ← setOnce a.file (if path = "" then none else some path) }
  | .option "interface" name => do
    return { a with interface := ← setOnce a.interface (some name) }
  | .option "listen" text => do
    return { a with listen := ← setOnce a.listen (Net.SocketAddress.ofText? text.toList) }
  | .option "request-id" text => do
    return { a with requestId := ← setOnce a.requestId (identifier? text) }
  | .option "response-id" text => do
    return { a with responseId := ← setOnce a.responseId (identifier? text) }
  | .flag "print-config" => do
    return { a with printConfig := ← setOnce a.printConfig (some ()) }
  | .flag "help" => .error .help
  | _ => .error .misuse

def ofArgs (args : List String) : Except Refusal GatewayArguments :=
  (items gatewayOptions args).foldlM take {}

/-- The configuration with the settings that were given. -/
def override (a : GatewayArguments) (c : Config) : Config :=
  { c with
    listen := a.listen.getD c.listen
    can := { c.can with
      interface := a.interface.getD c.can.interface
      requestId := a.requestId.getD c.can.requestId
      responseId := a.responseId.getD c.can.responseId } }

end GatewayArguments

/-- The texts of files by their paths, or why a file cannot be read. -/
abbrev Files := String → Except IoError String

def loadFile (files : Files) (path : String) : Except ConfigDefect Config :=
  match files path with
  | .error error => .error (.other (path ++ ": " ++ error.text))
  | .ok text => Config.load text.toList

/-- The configuration that the arguments ask for, or the report of why there is none. -/
def GatewayArguments.configure (a : GatewayArguments) (files : Files) : Except Report Config := do
  let base ←
    match a.file with
    | none => pure {}
    | some path =>
      match loadFile files path with
      | .ok c => pure c
      | .error defect =>
        throw (.failedIn "" ("failed to load config from " ++ path) (wordings (.config defect)))
  let c := a.override base
  match c.validate with
  | .ok () => return c
  | .error fault => throw (.failedIn "" "invalid configuration" (wordings fault))

def printConfig (c : Config) : Report :=
  match c.toText? with
  | some text => ⟨0, String.ofList text, ""⟩
  | none => .failed "" (.config (.other "out-of-range value for u64 type"))

/-- Runs the gateway's command line as far as it goes without a bus. -/
def runGateway (files : Files) (args : List String) : Report :=
  match GatewayArguments.ofArgs args with
  | .error refusal => refusal.report gatewayHelp
  | .ok a =>
    match a.configure files with
    | .error report => report
    | .ok c =>
      match a.printConfig with
      | some () => printConfig c
      | none => .failedIn "" "no CAN backend" []

end DiagnosticGateway.CommandLine
