import DiagnosticGateway.Config.Basic
import DiagnosticGateway.Doip.Source
import DiagnosticGateway.IsoTp.Sender

/-! # Sessions

A session serves one tester. It reads messages off the connection, answers requests to route
diagnostic messages, and sends the service bytes of diagnostic messages to the ECU: first it
accepts the message, then it sends, and if that fails it may refuse the message after all.
Messages of other types, and those that are too short to send, are ignored.

Only the connection can end a session: the peer closes it, a read or a reply fails, or the
forwarder has failed and cleared the active flag.
-/

namespace DiagnosticGateway

open Doip (ActivationCode Diagnostic Message NackCode Source)
open IsoTp (Link Sender)

/-- How far a session has come. -/
inductive SessionState where
  /-- Connected, without routing. -/
  | connected
  /-- Routing is active. -/
  | activated
  /-- A request has been sent to the ECU. -/
  | active
  /-- At its end. -/
  | closed
deriving Repr, DecidableEq

def SessionState.text : SessionState → String
  | .connected => "connected"
  | .activated => "activated"
  | .active => "active"
  | .closed => "closed"

namespace Session

/-- What a session works on besides its incoming bytes, with a state of type `σ`. -/
structure Wiring (σ : Type) extends Link σ where
  reply : Message → σ → Except Fault Unit × σ
  /-- Looks at the active flag, which the forwarder clears when it fails. -/
  isActive : σ → Bool × σ

variable {σ : Type}

/-- The sender that a configuration calls for. -/
def sender (c : Config) : Sender := ⟨c.can.requestId, c.isotp.padding, c.isotp.fcTimeout⟩

/-- Writes a message of the configured protocol version to the tester. -/
def answer (c : Config) (wiring : Wiring σ) (m : Message) (s : σ) : Except Fault Unit × σ :=
  wiring.reply (m.withVersion c.protocolVersion) s

/-- Answers a request to route diagnostic messages, whatever its payload. -/
def activateRouting (c : Config) (wiring : Wiring σ) (state : SessionState) (s : σ) :
    Except Fault SessionState × σ :=
  match answer c wiring (.activationResponse c.addressing.tester c.addressing.ecu .success) s with
  | (.error fault, s) => (.error fault, s)
  | (.ok (), s) => (.ok (if state = .connected then .activated else state), s)

/-- Sends service bytes to the ECU and refuses the message if that fails, where the configuration
asks for it and the session is not ending. -/
def sendRequest (c : Config) (wiring : Wiring σ) (userData : List UInt8) (state : SessionState)
    (s : σ) : Except Fault SessionState × σ :=
  match (sender c).send wiring.toLink userData s with
  | (.ok (), s) => (.ok .active, s)
  | (.error .relayClosed, s) => (.ok state, s)
  | (.error _, s) =>
    if c.session.nackOnSendFailure then
      let (outcome, s) := answer c wiring
        (.nack c.addressing.ecu c.addressing.tester .transportProtocolError) s
      (outcome.map fun () => state, s)
    else (.ok state, s)

/-- Accepts a diagnostic message with service bytes, and sends them. -/
def forwardRequest (c : Config) (wiring : Wiring σ) (payload : List UInt8) (state : SessionState)
    (s : σ) : Except Fault SessionState × σ :=
  match Diagnostic.ofPayload payload with
  | .error _ => (.ok state, s)
  | .ok request =>
    if request.userData = [] then (.ok state, s)
    else
      match answer c wiring (.ack c.addressing.ecu c.addressing.tester) s with
      | (.error fault, s) => (.error fault, s)
      | (.ok (), s) => sendRequest c wiring request.userData state s

/-- Handles one message of the tester. -/
def handle (c : Config) (wiring : Wiring σ) (m : Message) (state : SessionState) (s : σ) :
    Except Fault SessionState × σ :=
  match m.header.type with
  | .routingActivationRequest => activateRouting c wiring state s
  | .diagnosticMessage => forwardRequest c wiring m.payload state s
  | _ => (.ok state, s)

/-- Serves messages until the session ends. -/
def serve (c : Config) (wiring : Wiring σ) (source : Source) (state : SessionState) (s : σ) :
    Except Fault SessionState × σ :=
  match wiring.isActive s with
  | (false, s) => (.ok state, s)
  | (true, s) =>
    match h : source.readMessage c.session.maxPayload.toNat with
    | (.ok m, left) =>
      have shorter := Source.size_readMessage_lt c.session.maxPayload.toNat source (by simp [h])
      match handle c wiring m state s with
      | (.error fault, s) => (.error fault, s)
      | (.ok state, s) => serve c wiring left state s
    | (.error fault, left) =>
      if fault.isDisconnect then (.ok state, s)
      else if hf : fault.isFraming then
        have shorter := Source.size_readMessage_lt c.session.maxPayload.toNat source
          (by simpa [h] using hf)
        serve c wiring left state s
      else
        match wiring.isActive s with
        | (false, s) => (.ok state, s)
        | (true, s) => (.error fault, s)
termination_by source.size
decreasing_by all_goals simpa [h] using shorter

end Session

end DiagnosticGateway
