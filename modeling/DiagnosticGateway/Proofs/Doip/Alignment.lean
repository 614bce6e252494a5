import DiagnosticGateway.Proofs.Doip.Framing

/-! # One message a call

Reading again and again gives one outcome for each message on the wire, and each call stops where
the next message starts. How the bytes come, in which pieces and with how many interruptions, shows
neither in the outcomes nor in where the calls stop.
-/

namespace DiagnosticGateway.Doip

/-- Any eight bytes are the header of a message on the wire, with any payload as long as they
declare. -/
theorem Wire.exists_bytes_eq {first payload : List UInt8} {header : Header}
    (eight : first.length = headerSize) (read : Header.ofBytes first = .ok header)
    (declared : header.length.toNat = payload.length) :
    ∃ w : Wire, w.bytes = first ++ payload ∧ w.message = ⟨header, payload⟩ := by
  match first, eight with
  | [v, i, t₁, t₀, l₃, l₂, l₁, l₀], _ =>
      cases read
      have length : UInt32.ofNat payload.length = BigEndian.read32 l₃ l₂ l₁ l₀ := by
        rw [← declared, UInt32.ofNat_toNat]
      refine ⟨⟨v, i, BigEndian.read16 t₁ t₀, payload, ?_⟩, ?_, ?_⟩
      · rw [← declared]
        exact UInt32.toNat_lt _
      · simp only [bytes, headerBytes, length, BigEndian.bytes16_read16, BigEndian.bytes32_read32,
          List.cons_append, List.nil_append]
      · simp only [message, Wire.header, length]

namespace Source

/-- What is left of a stream after a number of calls. -/
def afterCalls (limit : Nat) : Nat → Source → Source
  | 0, source => source
  | count + 1, source => afterCalls limit count (source.readMessage limit).2

/-! ## How the bytes come -/

/-- Streams of the same bytes, each cut and interrupted in its own way. -/
structure Alike (a b : Source) : Prop where
  left : a.Steady
  right : b.Steady
  content : a.content = b.content

/-- The same outcome, and what is left is alike. -/
def Agree {α : Type} (x y : α × Source) : Prop :=
  ∃ outcome a b, x = (outcome, a) ∧ y = (outcome, b) ∧ Alike a b

namespace Alike

variable {a b : Source}

theorem fill (alike : Alike a b) (n : Nat) : Agree (a.fill n) (b.fill n) := by
  obtain ⟨result, steady, content⟩ := fill_of_steady n a alike.left
  obtain ⟨otherResult, otherSteady, otherContent⟩ := fill_of_steady n b alike.right
  rw [← alike.content] at otherResult otherContent
  exact ⟨_, _, _, Prod.ext result rfl, Prod.ext otherResult rfl, steady, otherSteady,
    content.trans otherContent.symm⟩

theorem readHeader (alike : Alike a b) : Agree a.readHeader b.readHeader := by
  obtain ⟨outcome, _, _, filled, otherFilled, left⟩ := alike.fill headerSize
  rw [Source.readHeader, Source.readHeader, filled, otherFilled]
  cases outcome with
  | full | failed => exact ⟨_, _, _, rfl, rfl, left⟩
  | short bytes => cases bytes <;> exact ⟨_, _, _, rfl, rfl, left⟩

theorem skip (alike : Alike a b) (n : Nat) : Agree (a.skip n) (b.skip n) := by
  obtain ⟨outcome, _, _, filled, otherFilled, left⟩ := alike.fill n
  rw [Source.skip, Source.skip, filled, otherFilled]
  cases outcome with
  | full | short | failed => exact ⟨_, _, _, rfl, rfl, left⟩

theorem readPayload (alike : Alike a b) (n : Nat) : Agree (a.readPayload n) (b.readPayload n) := by
  obtain ⟨outcome, _, _, filled, otherFilled, left⟩ := alike.fill n
  rw [Source.readPayload, Source.readPayload, filled, otherFilled]
  cases outcome with
  | full | short | failed => exact ⟨_, _, _, rfl, rfl, left⟩

theorem readMessage (alike : Alike a b) (limit : Nat) :
    Agree (a.readMessage limit) (b.readMessage limit) := by
  obtain ⟨outcome, _, _, read, otherRead, left⟩ := alike.readHeader
  rw [Source.readMessage, Source.readMessage, read, otherRead]
  cases outcome with
  | error fault => exact ⟨_, _, _, rfl, rfl, left⟩
  | ok header =>
      simp only
      split
      · obtain ⟨outcome, _, _, skipped, otherSkipped, left⟩ := left.skip header.length.toNat
        rw [skipped, otherSkipped]
        cases outcome with
        | error | ok => exact ⟨_, _, _, rfl, rfl, left⟩
      · obtain ⟨outcome, _, _, taken, otherTaken, left⟩ := left.readPayload header.length.toNat
        rw [taken, otherTaken]
        cases outcome with
        | error | ok => exact ⟨_, _, _, rfl, rfl, left⟩

theorem afterCalls (limit count : Nat) :
    ∀ {a b}, Alike a b → Alike (a.afterCalls limit count) (b.afterCalls limit count) := by
  induction count with
  | zero => exact id
  | succ count ih =>
      intro a b alike
      obtain ⟨_, _, _, read, otherRead, left⟩ := alike.readMessage limit
      rw [Source.afterCalls, Source.afterCalls, read, otherRead]
      exact ih left

end Alike

/-! ## Calls -/

variable {source : Source} {messages : List Wire} {tail : List UInt8}

theorem afterCalls_of_content (limit count : Nat) :
    ∀ {source : Source} {messages : List Wire}, source.Steady →
      source.content = messages.flatMap Wire.bytes ++ tail → count ≤ messages.length →
      (source.afterCalls limit count).Steady ∧ (source.afterCalls limit count).content =
        (messages.drop count).flatMap Wire.bytes ++ tail := by
  induction count with
  | zero => exact fun steady content _ => ⟨steady, content⟩
  | succ count ih =>
      intro source messages steady content within
      cases messages with
      | nil => exact absurd within (Nat.not_succ_le_zero count)
      | cons w messages =>
          rw [List.flatMap_cons, List.append_assoc] at content
          obtain ⟨left, read, leftSteady, leftContent⟩ := exists_readMessage limit steady content
          rw [afterCalls, read]
          exact ih leftSteady leftContent (Nat.le_of_succ_le_succ within)

/-- A stream of messages is read one message a call. After the last message it is at its end, or
broken if a part of another message follows. -/
theorem calls_stay_aligned (limit : Nat) (steady : source.Steady)
    (content : source.content = messages.flatMap Wire.bytes ++ tail) :
    (∀ i (within : i < messages.length),
      ((source.afterCalls limit i).readMessage limit).1 = (messages[i]).outcome limit) ∧
    (∀ i ≤ messages.length,
      (source.afterCalls limit i).content = (messages.drop i).flatMap Wire.bytes ++ tail) ∧
    (tail = [] →
      ((source.afterCalls limit messages.length).readMessage limit).1 = .error .connectionClosed) ∧
    (∀ (w : Wire) missing, tail ++ missing = w.bytes → tail ≠ [] → missing ≠ [] →
      ∃ text, ((source.afterCalls limit messages.length).readMessage limit).1 =
        .error (.io ⟨.unexpectedEof, text⟩)) ∧
    (∀ other : Source, other.Steady → other.content = source.content → ∀ i,
      (other.afterCalls limit i).content = (source.afterCalls limit i).content ∧
      ((other.afterCalls limit i).readMessage limit).1 =
        ((source.afterCalls limit i).readMessage limit).1) := by
  have aligned (i : Nat) (within : i ≤ messages.length) :=
    afterCalls_of_content limit i steady content within
  obtain ⟨endSteady, endContent⟩ := aligned messages.length (Nat.le_refl _)
  rw [List.drop_length, List.flatMap_nil, List.nil_append] at endContent
  refine ⟨?_, fun i within => (aligned i within).2, ?_, ?_, ?_⟩
  · intro i within
    obtain ⟨hereSteady, hereContent⟩ := aligned i (Nat.le_of_lt within)
    rw [List.drop_eq_getElem_cons within, List.flatMap_cons, List.append_assoc] at hereContent
    obtain ⟨left, read, _⟩ := exists_readMessage limit hereSteady hereContent
    rw [read]
  · intro ended
    obtain ⟨left, read⟩ := exists_readMessage_end limit endSteady (endContent.trans ended)
    rw [read]
  · intro w missing cut begun more
    obtain ⟨text, left, read⟩ := exists_readMessage_cut limit endSteady
      (by rw [endContent, cut]) (by rwa [endContent]) more
    exact ⟨text, by rw [read]⟩
  · intro other otherSteady same i
    have alike := Alike.afterCalls limit i ⟨otherSteady, steady, same⟩
    obtain ⟨_, _, _, read, otherRead, _⟩ := alike.readMessage limit
    exact ⟨alike.content, by rw [read, otherRead]⟩

/-- A message, one that is too large, one with a wrong second byte, and the start of another, over
pieces that end anywhere. -/
theorem four_calls :
    let good : Wire := ⟨0x02, 0xFD, 0x8001, [0x0E, 0x00], by decide⟩
    let large : Wire := ⟨0x02, 0xFD, 0x8001, [1, 2, 3], by decide⟩
    let wrong : Wire := ⟨0x02, 0x02, 0x0007, [], by decide⟩
    let source : Source := [.data [0x02, 0xFD, 0x80], .failure ⟨.interrupted, ""⟩,
      .data [0x01, 0, 0, 0, 2, 0x0E, 0x00, 0x02, 0xFD, 0x80, 0x01, 0, 0, 0, 3, 1],
      .failure ⟨.interrupted, ""⟩, .failure ⟨.interrupted, ""⟩, .data [2],
      .data [3, 0x02, 0x02, 0x00, 0x07, 0, 0, 0, 0, 0x02, 0xFD, 0x80, 0x01, 0, 0, 0, 2, 0x0E]]
    (source.readMessage 2).1 = .ok good.message ∧
      (source.afterCalls 2 1).content = [large, wrong].flatMap Wire.bytes ++ good.bytes.dropLast ∧
      ((source.afterCalls 2 1).readMessage 2).1 = .error (.payloadTooLarge 3 2) ∧
      ((source.afterCalls 2 2).readMessage 2).1 = .error (.invalidInverseVersion 2 2) ∧
      ∃ text, ((source.afterCalls 2 3).readMessage 2).1 =
        .error (.io ⟨.unexpectedEof, text⟩) := by
  intro good large wrong source
  have steady : source.Steady := by
    intro arrival this
    simp only [source, List.mem_cons, List.not_mem_nil, or_false] at this
    rcases this with rfl | rfl | rfl | rfl | rfl | rfl | rfl <;> simp [Arrival.Steady]
  have content :
      source.content = [good, large, wrong].flatMap Wire.bytes ++ good.bytes.dropLast := by decide
  have ⟨outcomes, left, _, cut, _⟩ := calls_stay_aligned 2 steady content
  have accepted : good.outcome 2 = .ok good.message := by
    rw [Wire.outcome, if_neg (by decide), if_pos (by decide)]
  have refused : wrong.outcome 2 = .error (.invalidInverseVersion 2 2) := by
    rw [Wire.outcome, if_neg (by decide), if_neg (by decide)]
  exact ⟨(outcomes 0 (by decide)).trans accepted, left 1 (by decide), outcomes 1 (by decide),
    (outcomes 2 (by decide)).trans refused, cut good [0x00] rfl (by decide) (by decide)⟩

end Source

end DiagnosticGateway.Doip
