import DiagnosticGateway.Proofs.Doip.Encoding

/-! # Two encoders and two decoders

A message can be taken from bytes in hand or read from a stream, and it can be spelled as a whole or
written part by part. Both decoders accept the bytes of the same messages, and both encoders put out
the bytes that are decoded.
-/

namespace DiagnosticGateway.Doip

/-! ## Headers -/

theorem Header.ofBytes_eq_ok_iff {data : List UInt8} {header : Header} :
    ofBytes data = .ok header ↔
      header.type.Canonical ∧ ∃ rest, data = header.toBytes ++ rest := by
  constructor
  · intro spelled
    unfold ofBytes at spelled
    split at spelled
    · rename_i rest
      cases spelled
      refine ⟨PayloadType.canonical_ofWire _, rest, ?_⟩
      simp only [toBytes, PayloadType.toWire_ofWire, BigEndian.bytes16_read16,
        BigEndian.bytes32_read32, List.cons_append, List.nil_append]
    · cases spelled
  · rintro ⟨canonical, rest, rfl⟩
    simp only [toBytes, BigEndian.bytes16, BigEndian.bytes32, List.cons_append, List.nil_append,
      ofBytes, BigEndian.read16_bytes16, BigEndian.read32_bytes32,
      PayloadType.ofWire_toWire canonical]

theorem Header.validate_eq_ok_iff {header : Header} :
    header.validate = .ok () ↔ header.isValid = true := by
  unfold validate
  split
  · rename_i valid
    exact iff_of_true rfl valid
  · rename_i invalid
    exact iff_of_false nofun invalid

/-! ## Messages in hand -/

namespace Message

variable {data : List UInt8} {m : Message}

/-- The messages that are taken from bytes are the consistent ones whose bytes come first. -/
theorem ofBytes_eq_ok_iff :
    ofBytes data = .ok m ↔ m.Consistent ∧ ∃ rest, data = m.toBytes ++ rest := by
  constructor
  · intro taken
    cases spelled : Header.ofBytes data with
    | error fault =>
        rw [ofBytes, spelled] at taken
        cases taken
    | ok header =>
        obtain ⟨canonical, rest, rfl⟩ := Header.ofBytes_eq_ok_iff.mp spelled
        simp only [ofBytes, spelled, bind, Except.bind] at taken
        split at taken
        · cases taken
        · rename_i enough
          cases taken
          have long : header.length.toNat ≤ rest.length := by
            rw [List.length_append, Header.length_toBytes] at enough
            omega
          have payload : ((header.toBytes ++ rest).drop headerSize).take header.length.toNat =
              rest.take header.length.toNat :=
            congrArg _ (List.drop_left' (Header.length_toBytes header))
          have length : (rest.take header.length.toNat).length = header.length.toNat :=
            List.length_take_of_le long
          rw [payload]
          refine ⟨⟨?_, ?_, canonical⟩, rest.drop header.length.toNat, ?_⟩
          · rw [length]
            exact UInt32.toNat_lt _
          · rw [length, UInt32.ofNat_toNat]
          · rw [toBytes, List.append_assoc, List.take_append_drop]
  · rintro ⟨consistent, rest, rfl⟩
    have spelled : Header.ofBytes (m.toBytes ++ rest) = .ok m.header :=
      Header.ofBytes_eq_ok_iff.mpr ⟨consistent.type, m.payload ++ rest, List.append_assoc _ _ _⟩
    have length := consistent.toNat_length
    have enough : ¬ (m.toBytes ++ rest).length < headerSize + m.payload.length := by
      rw [List.length_append, length_toBytes, size]
      omega
    have payload : (m.toBytes ++ rest).drop headerSize = m.payload ++ rest := by
      rw [toBytes, List.append_assoc]
      exact List.drop_left' (Header.length_toBytes m.header)
    simp only [ofBytes, spelled, bind, Except.bind, length, if_neg enough, payload, List.take_left]
    rfl

end Message

/-! ## Messages from a stream -/

namespace Source

variable {source left : Source} {m : Message} {limit : Nat}

theorem content_of_fill_full {n bytes} (steady : source.Steady)
    (filled : source.fill n = (.full bytes, left)) :
    source.content = bytes ++ left.content ∧ bytes.length = n ∧ left.Steady := by
  obtain ⟨result, leftSteady, leftContent⟩ := fill_of_steady n source steady
  rw [filled] at result leftSteady leftContent
  simp only at result leftContent
  split at result
  · rename_i long
    obtain rfl := Fill.full.inj result
    rw [leftContent, List.take_append_drop]
    exact ⟨rfl, List.length_take_of_le long, leftSteady⟩
  · cases result

theorem content_of_readHeader {header} (steady : source.Steady)
    (read : source.readHeader = (.ok header, left)) :
    source.content = header.toBytes ++ left.content ∧ header.type.Canonical ∧ left.Steady := by
  unfold readHeader at read
  split at read
  case h_1 bytes next filled =>
    obtain ⟨content, eight, leftSteady⟩ := content_of_fill_full steady filled
    obtain ⟨spelled, rfl⟩ := Prod.mk.inj read
    obtain ⟨canonical, rest, rfl⟩ := Header.ofBytes_eq_ok_iff.mp spelled
    have nothing : rest = [] := by
      rw [List.length_append, Header.length_toBytes] at eight
      exact List.length_eq_zero_iff.mp (by omega)
    rw [nothing, List.append_nil] at content
    exact ⟨content, canonical, leftSteady⟩
  all_goals cases read

theorem content_of_readMessage (steady : source.Steady)
    (read : source.readMessage limit = (.ok m, left)) :
    source.content = m.toBytes ++ left.content ∧ m.Consistent ∧ m.header.isValid = true ∧
      m.payload.length ≤ limit := by
  unfold readMessage at read
  split at read
  · cases read
  · rename_i header next begun
    obtain ⟨content, canonical, nextSteady⟩ := content_of_readHeader steady begun
    simp only at read
    split at read
    · split at read <;> cases read
    · rename_i small
      split at read
      · cases read
      · rename_i payload rest taken
        unfold readPayload at taken
        split at taken
        case h_1 filled =>
          cases taken
          obtain ⟨more, length, _⟩ := content_of_fill_full nextSteady filled
          cases valid : header.validate with
          | error fault =>
              rw [valid] at read
              cases read
          | ok =>
              rw [valid] at read
              cases read
              refine ⟨?_, ⟨?_, ?_, canonical⟩, Header.validate_eq_ok_iff.mp valid, ?_⟩
              · rw [content, more, Message.toBytes, List.append_assoc]
              · rw [length]
                exact UInt32.toNat_lt _
              · rw [length, UInt32.ofNat_toNat]
              · rw [length]
                exact Nat.le_of_not_lt small
        all_goals cases taken

/-- A stream gives the message that its bytes in hand would give, if the message is valid and not
too large. -/
theorem readMessage_eq_ok_iff (steady : source.Steady) :
    (source.readMessage limit).1 = .ok m ↔
      Message.ofBytes source.content = .ok m ∧ m.header.isValid = true ∧
        m.header.length.toNat ≤ limit := by
  constructor
  · intro read
    obtain ⟨content, consistent, valid, small⟩ :=
      content_of_readMessage steady (Prod.ext read rfl)
    rw [← consistent.toNat_length] at small
    exact ⟨Message.ofBytes_eq_ok_iff.mpr ⟨consistent, _, content⟩, valid, small⟩
  · rintro ⟨taken, valid, small⟩
    obtain ⟨consistent, rest, content⟩ := Message.ofBytes_eq_ok_iff.mp taken
    obtain ⟨left, read, _⟩ := exists_readMessage_toBytes limit consistent valid steady content
    rw [consistent.toNat_length] at small
    rw [read, if_neg (Nat.not_lt_of_le small)]

end Source

/-! ## Payloads -/

theorem ActivationRequest.ofPayload_toPayload (r : ActivationRequest) (rest : List UInt8) :
    ofPayload (r.toPayload ++ rest) = .ok r := by
  simp only [toPayload, Address.toBytes, BigEndian.bytes16, List.cons_append, List.nil_append,
    ofPayload, BigEndian.read16_bytes16]

/-- What either encoder spells, either decoder gives back, and nothing else is decoded. -/
theorem coding_round_trips :
    (∀ m : Message, m.Consistent →
      (∀ rest, Message.ofBytes (m.toBytes ++ rest) = .ok m) ∧
      ∀ {σ : Type} (sink : Sink σ) (s : σ), sink.Unfailing →
        (sink.writeMessage m s).1 = m.toBytes ∧ (sink.writeMessage m s).2.1 = .ok ()) ∧
    (∀ (data : List UInt8) (limit : Nat) (source : Source), source.Steady →
      source.content = data → ∀ m, (source.readMessage limit).1 = .ok m ↔
        Message.ofBytes data = .ok m ∧ m.header.isValid = true ∧ m.header.length.toNat ≤ limit) ∧
    (∀ data m, Message.ofBytes data = .ok m →
      m.size ≤ data.length ∧ m.toBytes = data.take m.size) ∧
    (∀ d : Diagnostic, Diagnostic.ofPayload d.toPayload = .ok d) ∧
    (∀ payload, addressBytes ≤ payload.length →
      ∃ d, Diagnostic.ofPayload payload = .ok d ∧ d.toPayload = payload) ∧
    (∀ payload, (∃ fault, Diagnostic.ofPayload payload = .error fault) ↔
      payload.length < addressBytes) ∧
    ∀ (r : ActivationRequest) (rest : List UInt8),
      ActivationRequest.ofPayload (r.toPayload ++ rest) = .ok r := by
  refine ⟨fun m consistent => ⟨?_, ?_⟩, ?_, ?_, Diagnostic.ofPayload_toPayload,
    fun _ => Diagnostic.exists_ofPayload, fun payload => ⟨?_, ?_⟩,
    ActivationRequest.ofPayload_toPayload⟩
  · intro rest
    exact Message.ofBytes_eq_ok_iff.mpr ⟨consistent, rest, rfl⟩
  · intro σ sink s unfailing
    have written := unfailing.writeMessage m s
    exact ⟨sink.writeMessage_of_ok m s written, written⟩
  · rintro data limit source steady rfl m
    exact Source.readMessage_eq_ok_iff steady
  · intro data m taken
    obtain ⟨_, rest, rfl⟩ := Message.ofBytes_eq_ok_iff.mp taken
    rw [List.length_append, Message.length_toBytes]
    exact ⟨Nat.le_add_right _ _, (List.take_left' (Message.length_toBytes m)).symm⟩
  · rintro ⟨fault, refused⟩
    refine Nat.lt_of_not_le fun long => ?_
    obtain ⟨d, taken, _⟩ := Diagnostic.exists_ofPayload long
    rw [taken] at refused
    cases refused
  · intro short
    exact ⟨_, Diagnostic.ofPayload_of_length_lt short⟩

/-- A diagnostic message and one of an unknown type come back from bytes in hand, and from a stream
that is cut within the header, whatever follows them. -/
theorem known_and_unknown_types_come_back :
    let known : Message :=
      ⟨⟨0x02, 0xFD, .diagnosticMessage, 7⟩, [0x0E, 0x00, 0x10, 0x00, 0x22, 0xF1, 0x90]⟩
    let unknown : Message := ⟨⟨0x03, 0xFC, .unknown 0x1234, 2⟩, [0xAA, 0xBB]⟩
    let source : Source := [.data [0x03, 0xFC, 0x12], .failure ⟨.interrupted, ""⟩,
      .data [0x34, 0, 0, 0, 2, 0xAA, 0xBB, 0xCC]]
    known.Consistent ∧ unknown.Consistent ∧
      known.toBytes =
        [0x02, 0xFD, 0x80, 0x01, 0, 0, 0, 7, 0x0E, 0x00, 0x10, 0x00, 0x22, 0xF1, 0x90] ∧
      Message.ofBytes (known.toBytes ++ [0xCC]) = .ok known ∧
      Message.ofBytes (unknown.toBytes ++ [0xCC]) = .ok unknown ∧
      (source.readMessage 2).1 = .ok unknown := by
  intro known unknown source
  have knownConsistent : known.Consistent := ⟨by decide, rfl, by decide⟩
  have unknownConsistent : unknown.Consistent := ⟨by decide, rfl, by decide⟩
  have steady : source.Steady := by
    intro arrival this
    simp only [source, List.mem_cons, List.not_mem_nil, or_false] at this
    rcases this with rfl | rfl | rfl
    · exact List.cons_ne_nil _ _
    · rfl
    · exact List.cons_ne_nil _ _
  have content : source.content = unknown.toBytes ++ [0xCC] := by decide
  obtain ⟨encoded, streamed, _⟩ := coding_round_trips
  have inHand := (encoded unknown unknownConsistent).1 [0xCC]
  refine ⟨knownConsistent, unknownConsistent, by decide, (encoded known knownConsistent).1 [0xCC],
    inHand, ?_⟩
  exact (streamed _ 2 source steady content unknown).mpr ⟨inHand, by decide, by decide⟩

end DiagnosticGateway.Doip
