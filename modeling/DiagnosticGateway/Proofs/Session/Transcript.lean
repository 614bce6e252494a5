import DiagnosticGateway.Bench.ScriptedBus
import DiagnosticGateway.Session
import DiagnosticGateway.Proofs.Doip.Encoding
import DiagnosticGateway.Proofs.IsoTp.SenderCalls

/-! # What a session puts out

A session's output is decided message by message. `contribution` says what one message of the
tester brings about: the bytes of the replies to the tester and the frames on the bus, in order.
As long as replies can be written and the session stays active, a session puts out the
contributions of its messages, one after the other, whatever happens on the bus.
-/

namespace DiagnosticGateway

open Bus (Frame)
open Doip (Address Diagnostic Message PayloadType Source Wire)
open Doip.BigEndian (bytes16 bytes32)
open IsoTp (Call Link Sender)

namespace Session

/-- Something that a session puts out: the bytes of a reply, or a frame. -/
inductive Output where
  | reply (bytes : List UInt8)
  | frame (frame : Frame)

/-- What a call of the sender puts out. -/
def Output.ofCall (call : Call) : List Output := call.written?.toList.map Output.frame

variable {σ : Type}

/-- The same wiring, which also records what is put out. -/
def Wiring.recording (wiring : Wiring σ) : Wiring (List Output × σ) where
  toLink := wiring.toLink.noting Output.ofCall
  reply m s :=
    match wiring.reply m s.2 with
    | (.ok (), after) => (.ok (), s.1 ++ [.reply m.toBytes], after)
    | (.error fault, after) => (.error fault, s.1, after)
  isActive s := ((wiring.isActive s.2).1, s.1, (wiring.isActive s.2).2)

/-! ## Replies -/

/-- The answer to a request to route diagnostic messages. -/
def activation (c : Config) : Message :=
  (Message.activationResponse c.addressing.tester c.addressing.ecu .success).withVersion
    c.protocolVersion

/-- The acceptance of a diagnostic message. -/
def acceptance (c : Config) : Message :=
  (Message.ack c.addressing.ecu c.addressing.tester).withVersion c.protocolVersion

/-- The refusal of a diagnostic message that could not be sent. -/
def refusal (c : Config) : Message :=
  (Message.nack c.addressing.ecu c.addressing.tester .transportProtocolError).withVersion
    c.protocolVersion

/-- A reply on the wire: the configured version and its complement, the type, the number of bytes
that follow, two addresses, and the rest. -/
def replyBytes (c : Config) (type : UInt16) (first second : Address) (rest : List UInt8) :
    List UInt8 :=
  [c.protocolVersion, ~~~c.protocolVersion] ++ bytes16 type ++
    bytes32 (UInt32.ofNat (4 + rest.length)) ++ bytes16 first.value ++ bytes16 second.value ++ rest

/-- The activation response that tells the tester of success, with four reserved bytes. -/
def activationBytes (c : Config) : List UInt8 :=
  replyBytes c 0x0006 c.addressing.tester c.addressing.ecu [0x10, 0, 0, 0, 0]

/-- The positive acknowledgement, which goes from the ECU to the tester. -/
def acceptanceBytes (c : Config) : List UInt8 :=
  replyBytes c 0x8002 c.addressing.ecu c.addressing.tester [0x00]

/-- The negative acknowledgement that reports a failure on the vehicle's side. -/
def refusalBytes (c : Config) : List UInt8 :=
  replyBytes c 0x8003 c.addressing.ecu c.addressing.tester [0x08]

theorem toBytes_activation (c : Config) : (activation c).toBytes = activationBytes c := rfl

theorem toBytes_acceptance (c : Config) : (acceptance c).toBytes = acceptanceBytes c := rfl

theorem toBytes_refusal (c : Config) : (refusal c).toBytes = refusalBytes c := rfl

/-! ## Contributions -/

def refuses (c : Config) : Except Fault Unit → Bool
  | .ok () => false
  | .error .relayClosed => false
  | .error _ => c.session.nackOnSendFailure

/-- What service bytes contribute when they are sent: the frames that carry them, as far as they
can be sent, then perhaps a refusal. -/
def sendOutput (c : Config) (wiring : Wiring σ) (userData : List UInt8) (s : σ) :
    List Output × σ :=
  let sent := (sender c).send wiring.toLink userData s
  let frames := (sender c).written wiring.toLink userData s
  if refuses c sent.1 then
    (frames.map .frame ++ [.reply (refusalBytes c)], (wiring.reply (refusal c) sent.2).2)
  else (frames.map .frame, sent.2)

/-- What a diagnostic message with these service bytes contributes: its acceptance comes before
anything is sent. -/
def requestOutput (c : Config) (wiring : Wiring σ) (userData : List UInt8) (s : σ) :
    List Output × σ :=
  let sent := sendOutput c wiring userData (wiring.reply (acceptance c) s).2
  (.reply (acceptanceBytes c) :: sent.1, sent.2)

/-- What a message of this wire type contributes, with the state that it leaves. Only a request to
route and a diagnostic message with service bytes contribute anything. -/
def messageOutput (c : Config) (wiring : Wiring σ) (type : UInt16) (payload : List UInt8) (s : σ) :
    List Output × σ :=
  if type = 0x0005 then ([.reply (activationBytes c)], (wiring.reply (activation c) s).2)
  else if type = 0x8001 ∧ 5 ≤ payload.length then requestOutput c wiring (payload.drop 4) s
  else ([], s)

/-- What a message on the wire contributes. One that is refused as a whole contributes nothing. -/
def contribution (c : Config) (wiring : Wiring σ) (w : Wire) (s : σ) : List Output × σ :=
  if c.session.maxPayload.toNat < w.payload.length then ([], s)
  else if w.inverse = ~~~w.version then messageOutput c wiring w.type w.payload s
  else ([], s)

/-- What messages on the wire contribute, one after the other. The session looks at the active
flag before each of them and before it finds the stream at its end. -/
def transcript (c : Config) (wiring : Wiring σ) : List Wire → σ → List Output × σ
  | [], s => ([], (wiring.isActive s).2)
  | w :: rest, s =>
    let first := contribution c wiring w (wiring.isActive s).2
    let others := transcript c wiring rest first.2
    (first.1 ++ others.1, others.2)

/-! ## Handling one message -/

variable {c : Config} {wiring : Wiring σ} {state : SessionState} {s : σ} {log : List Output}

theorem flatMap_ofCall (calls : List Call) :
    calls.flatMap Output.ofCall = (calls.filterMap Call.written?).map Output.frame := by
  induction calls with
  | nil => rfl
  | cons call calls ih =>
      rw [List.flatMap_cons, ih, List.filterMap_cons, Output.ofCall]
      cases call.written? <;> rfl

theorem send_recording (sender : Sender) (data : List UInt8) :
    sender.send wiring.recording.toLink data (log, s) =
      ((sender.send wiring.toLink data s).1,
        log ++ (sender.written wiring.toLink data s).map Output.frame,
        (sender.send wiring.toLink data s).2) := by
  rw [Wiring.recording, Sender.send_noting, flatMap_ofCall]
  rfl

theorem ofPayload_of_long {payload : List UInt8} (long : 4 ≤ payload.length) :
    ∃ request, Diagnostic.ofPayload payload = .ok request ∧ request.userData = payload.drop 4 := by
  obtain ⟨request, parsed, rfl⟩ := Diagnostic.exists_ofPayload long
  exact ⟨request, parsed, rfl⟩

theorem forwardRequest_short (wiring : Wiring σ) {payload : List UInt8} (short : payload.length < 5)
    (s : σ) : forwardRequest c wiring payload state s = (.ok state, s) := by
  by_cases addressed : payload.length < 4
  · rw [forwardRequest, Diagnostic.ofPayload_of_length_lt addressed]
  · obtain ⟨request, parsed, bytes⟩ := ofPayload_of_long (Nat.le_of_not_lt addressed)
    have empty : request.userData = [] := by
      rw [bytes, List.drop_eq_nil_iff]
      omega
    simp only [forwardRequest, parsed, if_pos empty]

def afterSend (state : SessionState) : Except Fault Unit → SessionState
  | .ok () => .active
  | .error _ => state

theorem sendRequest_eq (c : Config) (wiring : Wiring σ) (userData : List UInt8)
    (state : SessionState) (s : σ) :
    sendRequest c wiring userData state s =
      let sent := (sender c).send wiring.toLink userData s
      if refuses c sent.1 then
        ((wiring.reply (refusal c) sent.2).1.map fun () => afterSend state sent.1,
          (wiring.reply (refusal c) sent.2).2)
      else (.ok (afterSend state sent.1), sent.2) := by
  unfold sendRequest
  cases (sender c).send wiring.toLink userData s with
  | mk outcome after =>
      cases outcome with
      | ok => rfl
      | error fault => cases fault <;> rfl

variable (replies : ∀ m s, (wiring.reply m s).1 = .ok ())

include replies

theorem reply_eq (m : Message) (s : σ) : wiring.reply m s = (.ok (), (wiring.reply m s).2) :=
  Prod.ext (replies m s) rfl

theorem reply_recording (m : Message) :
    wiring.recording.reply m (log, s) = (.ok (), log ++ [.reply m.toBytes], (wiring.reply m s).2) := by
  simp only [Wiring.recording]
  rw [reply_eq replies]

theorem exists_activateRouting :
    ∃ final, activateRouting c wiring state s = (.ok final, (wiring.reply (activation c) s).2) ∧
      activateRouting c wiring.recording state (log, s) =
        (.ok final, log ++ [.reply (activationBytes c)], (wiring.reply (activation c) s).2) := by
  refine ⟨if state = .connected then .activated else state, ?_, ?_⟩
  · rw [activateRouting, answer, ← activation, reply_eq replies]
  · rw [activateRouting, answer, ← activation, reply_recording replies, toBytes_activation]

/-- A send that succeeds makes the session active; one that fails leaves its state. -/
theorem exists_sendRequest (c : Config) (userData : List UInt8) (state : SessionState) (s : σ)
    (log : List Output) :
    ∃ final, sendRequest c wiring userData state s =
        (.ok final, (sendOutput c wiring userData s).2) ∧
      sendRequest c wiring.recording userData state (log, s) =
        (.ok final, log ++ (sendOutput c wiring userData s).1,
          (sendOutput c wiring userData s).2) := by
  simp only [sendRequest_eq, send_recording, sendOutput]
  refine ⟨afterSend state ((sender c).send wiring.toLink userData s).1, ?_⟩
  split
  · rw [reply_recording replies, reply_eq replies, List.append_assoc, toBytes_refusal]
    exact ⟨rfl, rfl⟩
  · exact ⟨rfl, rfl⟩

theorem exists_forwardRequest {payload : List UInt8} (long : 5 ≤ payload.length) :
    ∃ final, forwardRequest c wiring payload state s =
        (.ok final, (requestOutput c wiring (payload.drop 4) s).2) ∧
      forwardRequest c wiring.recording payload state (log, s) =
        (.ok final, log ++ (requestOutput c wiring (payload.drop 4) s).1,
          (requestOutput c wiring (payload.drop 4) s).2) := by
  have enough : 4 ≤ payload.length := by omega
  obtain ⟨request, parsed, bytes⟩ := ofPayload_of_long enough
  have nonempty : payload.drop 4 ≠ [] := by
    rw [ne_eq, List.drop_eq_nil_iff]
    omega
  obtain ⟨final, bare, recorded⟩ := exists_sendRequest replies c (payload.drop 4) state
    (wiring.reply (acceptance c) s).2 (log ++ [.reply (acceptanceBytes c)])
  refine ⟨final, ?_, ?_⟩
  · simp only [forwardRequest, parsed, bytes, if_neg nonempty, answer]
    rw [← acceptance, reply_eq replies]
    exact bare
  · simp only [forwardRequest, parsed, bytes, if_neg nonempty, answer]
    rw [← acceptance, reply_recording replies, toBytes_acceptance]
    refine recorded.trans ?_
    rw [List.append_assoc]
    rfl

theorem exists_handle (c : Config) (w : Wire) (state : SessionState) (s : σ) (log : List Output) :
    ∃ final, handle c wiring w.message state s =
        (.ok final, (messageOutput c wiring w.type w.payload s).2) ∧
      handle c wiring.recording w.message state (log, s) =
        (.ok final, log ++ (messageOutput c wiring w.type w.payload s).1,
          (messageOutput c wiring w.type w.payload s).2) := by
  have routes : w.message.header.type = .routingActivationRequest ↔ w.type = 0x0005 :=
    PayloadType.ofWire_eq_iff (by decide)
  have requests : w.message.header.type = .diagnosticMessage ↔ w.type = 0x8001 :=
    PayloadType.ofWire_eq_iff (by decide)
  unfold handle messageOutput
  cases type : w.message.header.type with
  | routingActivationRequest =>
      rw [if_pos (routes.mp type)]
      exact exists_activateRouting replies
  | diagnosticMessage =>
      have isRequest := requests.mp type
      have notRouting : w.type ≠ 0x0005 := by
        rw [isRequest]
        decide
      by_cases long : 5 ≤ w.payload.length
      · rw [if_neg notRouting, if_pos ⟨isRequest, long⟩]
        exact exists_forwardRequest replies long
      · have short := Nat.lt_of_not_le long
        rw [if_neg notRouting, if_neg fun both => long both.2]
        refine ⟨state, forwardRequest_short wiring short s, ?_⟩
        rw [List.append_nil]
        exact forwardRequest_short wiring.recording short (log, s)
  | _ =>
      have notRouting : w.type ≠ 0x0005 := fun routing => by
        rw [routes.mpr routing] at type
        cases type
      have notRequest : w.type ≠ 0x8001 := fun request => by
        rw [requests.mpr request] at type
        cases type
      rw [if_neg notRouting, if_neg fun both => notRequest both.1]
      exact ⟨state, rfl, by rw [List.append_nil]⟩

omit replies

/-! ## Serving -/

section Serve

variable {source left : Source} {s' : σ} (looked : wiring.isActive s = (true, s'))

include looked

theorem serve_eq {result}
    (read : source.readMessage c.session.maxPayload.toNat = (result, left)) :
    serve c wiring source state s =
      match result with
      | .ok m =>
        match handle c wiring m state s' with
        | (.error fault, s) => (.error fault, s)
        | (.ok state, s) => serve c wiring left state s
      | .error fault =>
        if fault.isDisconnect then (.ok state, s')
        else if fault.isFraming then serve c wiring left state s'
        else
          match wiring.isActive s' with
          | (false, s) => (.ok state, s)
          | (true, s) => (.error fault, s) := by
  rw [serve, looked]
  simp only
  split
  · rename_i found
    rw [read] at found
    cases found
    rfl
  · rename_i found
    rw [read] at found
    cases found
    split
    · rename_i gone
      simp only [gone, if_true]
    · rename_i present
      split
      · rename_i framing
        simp only [present, framing, if_true, Bool.false_eq_true, if_false]
      · rename_i broken
        cases wiring.isActive s' with
        | mk active next =>
            cases active <;> simp only [present, broken, Bool.false_eq_true, if_false]

theorem serve_handled {m final after}
    (read : source.readMessage c.session.maxPayload.toNat = (.ok m, left))
    (handled : handle c wiring m state s' = (.ok final, after)) :
    serve c wiring source state s = serve c wiring left final after := by
  rw [serve_eq looked read]
  simp only [handled]

theorem serve_dropped {fault} (framing : fault.isFraming = true)
    (present : fault.isDisconnect = false)
    (read : source.readMessage c.session.maxPayload.toNat = (.error fault, left)) :
    serve c wiring source state s = serve c wiring left state s' := by
  rw [serve_eq looked read]
  simp only [present, framing, Bool.false_eq_true, if_false, if_true]

theorem serve_closed {fault} (gone : fault.isDisconnect = true)
    (read : source.readMessage c.session.maxPayload.toNat = (.error fault, left)) :
    serve c wiring source state s = (.ok state, s') := by
  rw [serve_eq looked read]
  simp only [gone, if_true]

end Serve

theorem isActive_eq (active : ∀ s, (wiring.isActive s).1 = true) (s : σ) :
    wiring.isActive s = (true, (wiring.isActive s).2) :=
  Prod.ext (active s) rfl

theorem isActive_recording (active : ∀ s, (wiring.isActive s).1 = true) (log : List Output)
    (s : σ) : wiring.recording.isActive (log, s) = (true, log, (wiring.isActive s).2) :=
  Prod.ext (active s) rfl

/-- The first message on the wire is taken off the stream and contributes what it is to contribute,
and the session goes on with the next one. -/
theorem exists_serve_wire (c : Config) {source : Source} {w : Wire} {rest : List UInt8}
    (replies : ∀ m s, (wiring.reply m s).1 = .ok ()) (active : ∀ s, (wiring.isActive s).1 = true)
    (steady : source.Steady) (content : source.content = w.bytes ++ rest) (state : SessionState)
    (s : σ) (log : List Output) :
    ∃ (left : Source) (next : SessionState), left.Steady ∧ left.content = rest ∧
      serve c wiring source state s =
        serve c wiring left next (contribution c wiring w (wiring.isActive s).2).2 ∧
      serve c wiring.recording source state (log, s) =
        serve c wiring.recording left next
          (log ++ (contribution c wiring w (wiring.isActive s).2).1,
            (contribution c wiring w (wiring.isActive s).2).2) := by
  obtain ⟨left, read, leftSteady, leftContent⟩ :=
    Source.exists_readMessage c.session.maxPayload.toNat steady content
  have looked := isActive_eq active s
  have lookedToo := isActive_recording active log s
  unfold Wire.outcome at read
  unfold contribution
  split at read
  · rename_i large
    refine ⟨left, state, leftSteady, leftContent, ?_, ?_⟩
    · rw [if_pos large]
      exact serve_dropped looked rfl rfl read
    · rw [if_pos large, List.append_nil]
      exact serve_dropped lookedToo rfl rfl read
  · rename_i small
    split at read
    · rename_i valid
      obtain ⟨next, bare, recorded⟩ :=
        exists_handle replies c w state (wiring.isActive s).2 log
      refine ⟨left, next, leftSteady, leftContent, ?_, ?_⟩
      · rw [if_neg small, if_pos valid]
        exact serve_handled looked read bare
      · rw [if_neg small, if_pos valid]
        exact serve_handled lookedToo read recorded
    · rename_i invalid
      refine ⟨left, state, leftSteady, leftContent, ?_, ?_⟩
      · rw [if_neg small, if_neg invalid]
        exact serve_dropped looked rfl rfl read
      · rw [if_neg small, if_neg invalid, List.append_nil]
        exact serve_dropped lookedToo rfl rfl read

theorem exists_serve (replies : ∀ m s, (wiring.reply m s).1 = .ok ())
    (active : ∀ s, (wiring.isActive s).1 = true) (messages : List Wire) :
    ∀ {source : Source} {state s log}, source.Steady →
      source.content = messages.flatMap Wire.bytes →
      ∃ final, serve c wiring source state s = (.ok final, (transcript c wiring messages s).2) ∧
        serve c wiring.recording source state (log, s) =
          (.ok final, log ++ (transcript c wiring messages s).1,
            (transcript c wiring messages s).2) := by
  induction messages with
  | nil =>
      intro source state s log steady content
      obtain ⟨left, read⟩ :=
        Source.exists_readMessage_end c.session.maxPayload.toNat steady content
      refine ⟨state, serve_closed (isActive_eq active s) rfl read, ?_⟩
      rw [transcript, List.append_nil]
      exact serve_closed (isActive_recording active log s) rfl read
  | cons w messages ih =>
      intro source state s log steady content
      obtain ⟨left, next, leftSteady, leftContent, bare, recorded⟩ :=
        exists_serve_wire c replies active steady content state s log
      obtain ⟨final, bareRest, recordedRest⟩ := ih leftSteady leftContent
      refine ⟨final, bare.trans bareRest, recorded.trans (recordedRest.trans ?_)⟩
      rw [List.append_assoc]
      rfl

/-- A session serves its messages to the end, and what it puts out is what each of them contributes,
one after the other. -/
theorem serve_puts_out_transcript (c : Config) {source : Source} {messages : List Wire}
    (replies : ∀ m s, (wiring.reply m s).1 = .ok ()) (active : ∀ s, (wiring.isActive s).1 = true)
    (steady : source.Steady) (content : source.content = messages.flatMap Wire.bytes)
    (state : SessionState) (s : σ) :
    ∃ final, serve c wiring source state s = (.ok final, (transcript c wiring messages s).2) ∧
      serve c wiring.recording source state ([], s) = (.ok final, transcript c wiring messages s) :=
  exists_serve replies active messages steady content

/-- A session with a tester that takes every reply. -/
def Wiring.ofLink (link : Link σ) : Wiring σ where
  toLink := link
  reply _ s := (.ok (), s)
  isActive s := (true, s)

/-- A request to route, a diagnostic message with a broken header, one with a single byte, and one
with eight bytes. -/
def sampleMessages : List Wire :=
  [⟨2, 0xFD, 0x0005, [], by decide⟩, ⟨2, 0xFF, 0x8001, [0x0E, 0x80, 0x10, 0x00, 0x3E], by decide⟩,
    ⟨2, 0xFD, 0x8001, [0x0E, 0x80, 0x10, 0x00, 0x3E], by decide⟩,
    ⟨2, 0xFD, 0x8001, [0x0E, 0x80, 0x10, 0x00, 1, 2, 3, 4, 5, 6, 7, 8], by decide⟩]

open Bench in
/-- The sample, interrupted within the first header, on a bus that fails with the second write: the
broken message leaves no trace, and the long one is refused after all. -/
theorem sample_output :
    let bytes := sampleMessages.flatMap Wire.bytes
    let source : Source :=
      [.data (bytes.take 3), .failure ⟨.interrupted, ""⟩, .data (bytes.drop 3)]
    let rig : SenderRig := ⟨⟨[1], 0, []⟩, .ofCapacity 1, []⟩
    (serve {} (Wiring.ofLink SenderRig.link).recording source .connected ([], rig)).2.1 =
      [.reply [0x02, 0xFD, 0x00, 0x06, 0, 0, 0, 9, 0x0E, 0x00, 0x10, 0x00, 0x10, 0, 0, 0, 0],
        .reply [0x02, 0xFD, 0x80, 0x02, 0, 0, 0, 5, 0x10, 0x00, 0x0E, 0x00, 0x00],
        .frame ⟨0x7E0, [0x01, 0x3E, 0, 0, 0, 0, 0, 0], by decide, by decide⟩,
        .reply [0x02, 0xFD, 0x80, 0x02, 0, 0, 0, 5, 0x10, 0x00, 0x0E, 0x00, 0x00],
        .reply [0x02, 0xFD, 0x80, 0x03, 0, 0, 0, 5, 0x10, 0x00, 0x0E, 0x00, 0x08]] := by
  intro bytes source rig
  have steady : source.Steady := by
    intro arrival this
    simp only [source, List.mem_cons, List.not_mem_nil, or_false] at this
    rcases this with rfl | rfl | rfl
    · exact List.cons_ne_nil _ _
    · rfl
    · exact List.cons_ne_nil _ _
  have content : source.content = sampleMessages.flatMap Wire.bytes := rfl
  have replies : ∀ m s, ((Wiring.ofLink SenderRig.link).reply m s).1 = .ok () := fun _ _ => rfl
  have active : ∀ s, ((Wiring.ofLink SenderRig.link).isActive s).1 = true := fun _ => rfl
  obtain ⟨final, _, recorded⟩ :=
    serve_puts_out_transcript {} replies active steady content .connected rig
  rw [recorded]
  rfl

end Session

end DiagnosticGateway
