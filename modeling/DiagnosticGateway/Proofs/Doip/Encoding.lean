import DiagnosticGateway.Doip.Sink
import DiagnosticGateway.Proofs.Doip.Framing

/-! # Messages and their bytes

A message whose header fits its payload is a message on the wire, so what is known of reading from
streams holds of it. Writing that succeeds puts out exactly the bytes of a message.
-/

namespace DiagnosticGateway.Doip

theorem Diagnostic.ofPayload_toPayload (d : Diagnostic) : ofPayload d.toPayload = .ok d := by
  simp only [toPayload, Address.toBytes, BigEndian.bytes16, List.cons_append, List.nil_append,
    ofPayload, BigEndian.read16_bytes16]

theorem Diagnostic.length_toPayload (d : Diagnostic) :
    d.toPayload.length = addressBytes + d.userData.length := by
  simp only [toPayload, Address.toBytes, List.length_append, BigEndian.length_bytes16, addressBytes]

theorem Diagnostic.exists_ofPayload {payload : List UInt8} (long : addressBytes ≤ payload.length) :
    ∃ d, ofPayload payload = .ok d ∧ d.toPayload = payload := by
  match payload, long with
  | s₁ :: s₀ :: t₁ :: t₀ :: userData, _ =>
      refine ⟨_, rfl, ?_⟩
      simp only [toPayload, Address.toBytes, BigEndian.bytes16_read16, List.cons_append,
        List.nil_append]

theorem Diagnostic.ofPayload_of_length_lt {payload : List UInt8}
    (short : payload.length < addressBytes) :
    ofPayload payload = .error (.messageTooShort addressBytes payload.length) := by
  unfold ofPayload
  split
  · simp only [List.length_cons, addressBytes] at short
    omega
  · rfl

/-! ## Writing -/

namespace Sink

variable {σ : Type} (sink : Sink σ)

theorem writeAll_of_ok (bytes : List UInt8) (s : σ)
    (written : (sink.writeAll bytes s).2.1 = .ok ()) : (sink.writeAll bytes s).1 = bytes := by
  fun_induction writeAll sink bytes s with
  | case1 s => rfl
  | case2 s b rest after accepted => cases written
  | case3 s b rest n after accepted out outcome final more ih =>
      rw [more] at ih
      have tail : out = rest.drop n := ih written
      simp only [tail, List.cons_append, List.take_append_drop]
  | case4 s b rest error after accepted interrupted progress ih => exact ih written
  | case5 s b rest error after accepted broken => cases written

theorem writeMessage_of_ok (m : Message) (s : σ)
    (written : (sink.writeMessage m s).2.1 = .ok ()) : (sink.writeMessage m s).1 = m.toBytes := by
  have header := sink.writeAll_of_ok m.header.toBytes s
  rcases put : sink.writeAll m.header.toBytes s with ⟨out, outcome, after⟩
  rw [put] at header
  simp only [writeMessage, put] at written ⊢
  cases outcome with
  | error fault => cases written
  | ok =>
      have payload := sink.writeAll_of_ok m.payload after written
      simp only
      rw [payload, Message.toBytes, ← header rfl]

/-- Every call takes something. -/
def Unfailing : Prop := ∀ b bytes s, ∃ n, (sink.accept (b :: bytes) s).1 = .ok (n + 1)

variable {sink}

theorem Unfailing.writeAll (unfailing : sink.Unfailing) (bytes : List UInt8) (s : σ) :
    (sink.writeAll bytes s).2.1 = .ok () := by
  fun_induction Sink.writeAll sink bytes s with
  | case1 s => rfl
  | case2 s b rest after accepted =>
      obtain ⟨n, taken⟩ := unfailing b rest s
      rw [accepted] at taken
      cases taken
  | case3 s b rest n after accepted out outcome final more ih =>
      rw [more] at ih
      exact ih
  | case4 s b rest error after accepted | case5 s b rest error after accepted =>
      obtain ⟨n, taken⟩ := unfailing b rest s
      rw [accepted] at taken
      cases taken

theorem Unfailing.writeMessage (unfailing : sink.Unfailing) (m : Message) (s : σ) :
    (sink.writeMessage m s).2.1 = .ok () := by
  have header := unfailing.writeAll m.header.toBytes s
  rcases put : sink.writeAll m.header.toBytes s with ⟨out, outcome, after⟩
  rw [put] at header
  simp only at header
  simp only [Sink.writeMessage, put, header]
  exact unfailing.writeAll m.payload after

end Sink

/-! ## Reading what was written -/

namespace Message

/-- The header says what there is: the length of the payload, and a type in its one form. -/
structure Consistent (m : Message) : Prop where
  length_lt : m.payload.length < UInt32.size
  length : m.header.length = UInt32.ofNat m.payload.length
  type : m.header.type.Canonical

variable {m : Message}

/-- A consistent message as it is on the wire. -/
def wire (m : Message) (consistent : m.Consistent) : Wire :=
  ⟨m.header.version, m.header.inverse, m.header.type.toWire, m.payload, consistent.length_lt⟩

theorem bytes_wire (consistent : m.Consistent) : (m.wire consistent).bytes = m.toBytes := by
  simp only [Wire.bytes, Wire.headerBytes, wire, toBytes, Header.toBytes, consistent.length]

theorem message_wire (consistent : m.Consistent) : (m.wire consistent).message = m := by
  simp only [Wire.message, Wire.header, wire, PayloadType.ofWire_toWire consistent.type,
    ← consistent.length]

theorem consistent_ofType {type : PayloadType} {payload : List UInt8}
    (lengthLt : payload.length < UInt32.size) (canonical : type.Canonical) :
    (ofType type payload).Consistent :=
  ⟨lengthLt, rfl, canonical⟩

theorem Consistent.toNat_length (consistent : m.Consistent) :
    m.header.length.toNat = m.payload.length := by
  rw [consistent.length, UInt32.toNat_ofNat']
  exact Nat.mod_eq_of_lt consistent.length_lt

theorem Consistent.withVersion (consistent : m.Consistent) (version : UInt8) :
    (m.withVersion version).Consistent :=
  ⟨consistent.length_lt, consistent.length, consistent.type⟩

end Message

/-- A consistent message comes back from a stream that goes on with its bytes, unless it is too
large. Either way the stream then goes on with what comes after it. -/
theorem Source.exists_readMessage_toBytes {m : Message} {source : Source} {rest : List UInt8}
    (limit : Nat) (consistent : m.Consistent) (valid : m.header.isValid) (steady : source.Steady)
    (content : source.content = m.toBytes ++ rest) :
    ∃ left : Source, source.readMessage limit =
        (if limit < m.payload.length then .error (.payloadTooLarge m.payload.length limit)
          else .ok m, left) ∧
      left.Steady ∧ left.content = rest := by
  rw [← m.bytes_wire consistent] at content
  obtain ⟨left, read, leftSteady, leftContent⟩ := exists_readMessage limit steady content
  have inverse : (m.wire consistent).inverse = ~~~(m.wire consistent).version :=
    eq_of_beq valid
  rw [Wire.outcome, if_pos inverse, m.message_wire consistent] at read
  exact ⟨left, read, leftSteady, leftContent⟩

/-- Reading again and again gives these messages, and then finds the stream at its end. -/
inductive Source.Gives (limit : Nat) : Source → List Message → Prop where
  | ended {source left} :
    source.readMessage limit = (.error .connectionClosed, left) → Gives limit source []
  | message {source left m messages} :
    source.readMessage limit = (.ok m, left) → Gives limit left messages →
    Gives limit source (m :: messages)

/-- Consistent messages, none of them too large, come back from a stream of their bytes. -/
theorem Source.gives_of_content {limit : Nat} (messages : List Message) :
    ∀ {source : Source}, source.Steady → source.content = messages.flatMap Message.toBytes →
      (∀ m ∈ messages, m.Consistent ∧ m.header.isValid ∧ m.payload.length ≤ limit) →
      source.Gives limit messages := by
  induction messages with
  | nil =>
      intro source steady content _
      obtain ⟨left, read⟩ := exists_readMessage_end limit steady content
      exact .ended read
  | cons m messages ih =>
      intro source steady content sound
      obtain ⟨⟨consistent, valid, small⟩, sound⟩ := List.forall_mem_cons.mp sound
      rw [List.flatMap_cons] at content
      obtain ⟨left, read, leftSteady, leftContent⟩ :=
        exists_readMessage_toBytes limit consistent valid steady content
      rw [if_neg (Nat.not_lt_of_le small)] at read
      exact .message read (ih leftSteady leftContent sound)

end DiagnosticGateway.Doip
