import DiagnosticGateway.Doip.Source
import DiagnosticGateway.IsoTp.Pci

/-! # Testers

The tester's side of a connection: asking a gateway to route diagnostic messages, sending service
bytes to an ECU, and waiting for the answer. While it waits for a diagnostic message it skips
everything but a refusal.
-/

namespace DiagnosticGateway

open Doip (ActivationCode ActivationRequest Address Diagnostic Message NackCode Source)

/-- A tester, by its logical address. -/
structure Tester where
  address : Address
deriving Repr, DecidableEq

namespace Tester

/-- The largest payload that a tester takes: two addresses and the longest transport message. -/
def maxPayload : Nat := Doip.addressBytes + IsoTp.maxMessage

/-- The next message, of any type. -/
def receive (source : Source) : Except Fault Message × Source := source.readMessage maxPayload

/-- A message that was received is taken off the stream. -/
theorem size_receive_lt (source : Source) {m : Message} (h : (receive source).1 = .ok m) :
    (receive source).2.size < source.size :=
  Source.size_readMessage_lt maxPayload source fun fault hf => by
    rw [receive] at h
    rw [h] at hf
    cases hf

/-- The code in an answer to a request to route diagnostic messages. -/
def activationCode (m : Message) : Except Fault ActivationCode :=
  if m.header.type ≠ .routingActivationResponse then
    .error (.invalidPayload (.notActivationResponse m.header.type.toWire))
  else
    match m.payload[4]? with
    | none => .error (.messageTooShort 5 m.payload.length)
    | some b =>
      match ActivationCode.ofByte? b with
      | some code => .ok code
      | none => .error (.invalidPayload (.unknownActivationCode b))

def activationRequest (tester : Tester) (activationType : UInt8) : Message :=
  .activationRequest ⟨tester.address, activationType⟩

/-- Waits for the answer to a request to route diagnostic messages. -/
def awaitActivation (source : Source) : Except Fault ActivationCode × Source :=
  let (message, left) := receive source
  (message >>= activationCode, left)

def diagnostic (tester : Tester) (target : Address) (userData : List UInt8) : Message :=
  .diagnostic tester.address target userData

/-- Why a refused message was refused. -/
def refusal (payload : List UInt8) : PayloadDefect :=
  match payload[Doip.addressBytes]? with
  | none => .rejectedWithoutCode
  | some b =>
    match NackCode.ofByte? b with
    | some code => .rejectedAs code.name
    | none => .rejectedWith b

/-- What a message says to a tester that waits for a diagnostic message; `none` if it is to be
skipped. -/
def answer? (m : Message) : Option (Except Fault Diagnostic) :=
  match m.header.type with
  | .diagnosticMessage => some (Diagnostic.ofPayload m.payload)
  | .diagnosticMessageNack => some (.error (.invalidPayload (refusal m.payload)))
  | _ => none

/-- Waits for the next diagnostic message or refusal. -/
def receiveDiagnostic (source : Source) : Except Fault Diagnostic × Source :=
  match h : receive source with
  | (.error fault, left) => (.error fault, left)
  | (.ok m, left) =>
    have shorter := @size_receive_lt source m (by rw [h])
    match answer? m with
    | some answer => (answer, left)
    | none => receiveDiagnostic left
termination_by source.size
decreasing_by simpa [h] using shorter

/-- One thing that a tester does. -/
inductive Action where
  /-- Asks to route diagnostic messages and waits for the answer. -/
  | activate (activationType : UInt8)
  /-- Sends service bytes to an ECU. -/
  | sendDiagnostic (target : Address) (userData : List UInt8)
  | send (m : Message)
  | receive
  | receiveDiagnostic
deriving DecidableEq

/-- What an action gives. -/
inductive Result where
  | activated (code : ActivationCode)
  | sent
  | received (m : Message)
  | answered (d : Diagnostic)
deriving DecidableEq

/-- The message that an action sends, if it sends one. -/
def Action.message? (tester : Tester) : Action → Option Message
  | .activate activationType => some (tester.activationRequest activationType)
  | .sendDiagnostic target userData => some (tester.diagnostic target userData)
  | .send m => some m
  | .receive | .receiveDiagnostic => none

/-- What an action gives on a connection whose writes succeed. -/
def Action.result (source : Source) : Action → Except Fault Result × Source
  | .activate _ =>
    let (outcome, left) := awaitActivation source
    (outcome.map .activated, left)
  | .sendDiagnostic _ _ | .send _ => (.ok .sent, source)
  | .receive =>
    let (outcome, left) := Tester.receive source
    (outcome.map .received, left)
  | .receiveDiagnostic =>
    let (outcome, left) := Tester.receiveDiagnostic source
    (outcome.map .answered, left)

/-- What the actions give one after the other. -/
def results (source : Source) : List Action → List (Except Fault Result)
  | [] => []
  | action :: rest =>
    let (outcome, left) := action.result source
    outcome :: results left rest

end Tester

end DiagnosticGateway
