import DiagnosticGateway.Doip.Source

/-! # Messages in a byte stream

How a stream cuts its bytes into pieces, and how often it is interrupted, makes no difference to
what is read from it. Reading a message takes exactly the bytes of one message off the stream, also
when the message is refused, so one refused message never spoils the next.
-/

namespace DiagnosticGateway.Doip

/-- An arrival that delivers something, or that is only an interruption. -/
def Arrival.Steady : Arrival → Prop
  | .data bytes => bytes ≠ []
  | .failure error => error.kind = .interrupted

namespace Source

/-- The bytes that a stream still delivers. -/
def content : Source → List UInt8
  | [] => []
  | .data bytes :: rest => bytes ++ content rest
  | .failure _ :: rest => content rest

/-- A stream that delivers all its bytes before its end. -/
def Steady (source : Source) : Prop := ∀ arrival ∈ source, arrival.Steady

theorem content_ofBytes (bytes : List UInt8) : content (ofBytes bytes) = bytes := by
  cases bytes with
  | nil => rfl
  | cons b bytes => exact List.append_nil _

theorem steady_ofBytes (bytes : List UInt8) : Steady (ofBytes bytes) := by
  cases bytes with
  | nil => exact fun _ this => nomatch this
  | cons b bytes => exact fun arrival this => List.mem_singleton.mp this ▸ List.cons_ne_nil b bytes

theorem steady_cons {arrival source} :
    Steady (arrival :: source) ↔ arrival.Steady ∧ Steady source :=
  List.forall_mem_cons

theorem content_append (before rest : Source) :
    content (before ++ rest) = content before ++ content rest := by
  induction before with
  | nil => rfl
  | cons arrival before ih =>
      cases arrival with
      | data bytes => simp only [List.cons_append, content, ih, List.append_assoc]
      | failure error => exact ih

theorem steady_append {before rest : Source} :
    Steady (before ++ rest) ↔ Steady before ∧ Steady rest :=
  List.forall_mem_append

/-- Filling takes the first bytes of the content, or all of it if it is too short. -/
theorem fill_of_steady (n : Nat) (source : Source) (steady : source.Steady) :
    (source.fill n).1 =
        (if n ≤ source.content.length then .full (source.content.take n)
          else .short source.content) ∧
      (source.fill n).2.Steady ∧ (source.fill n).2.content = source.content.drop n := by
  fun_induction fill n source with
  | case1 source => exact ⟨by simp, steady, rfl⟩
  | case2 n => exact ⟨by simp [content], steady, rfl⟩
  | case3 n error rest interrupted ih => exact ih (steady_cons.mp steady).2
  | case4 n error rest broken => exact absurd (steady_cons.mp steady).1 broken
  | case5 n rest => exact absurd rfl (steady_cons.mp steady).1
  | case6 n b bytes rest within =>
      have more : bytes.drop n ≠ [] := by
        rw [ne_eq, List.drop_eq_nil_iff]
        omega
      refine ⟨?_, steady_cons.mpr ⟨more, (steady_cons.mp steady).2⟩, ?_⟩
      · rw [if_pos (by simp only [content, List.length_append, List.length_cons]; omega)]
        simp only [content, List.cons_append, List.take_succ_cons]
        rw [List.take_append_of_le_length (by omega)]
      · simp only [content, List.cons_append, List.drop_succ_cons]
        rw [List.drop_append_of_le_length (by omega)]
  | case7 n b bytes rest beyond outcome left filled ih =>
      obtain ⟨result, leftSteady, leftContent⟩ := ih (steady_cons.mp steady).2
      rw [filled] at result leftSteady leftContent
      have all : bytes.length ≤ n := Nat.le_of_not_lt beyond
      have whole : content (.data (b :: bytes) :: rest) = b :: (bytes ++ content rest) := rfl
      rw [whole, List.drop_succ_cons, List.drop_append, List.drop_of_length_le all,
        List.take_succ_cons, List.take_append, List.take_of_length_le all, List.length_cons,
        List.length_append]
      refine ⟨?_, leftSteady, leftContent⟩
      change outcome.after (b :: bytes) = _
      change outcome = _ at result
      rw [result]
      by_cases enough : n - bytes.length ≤ (content rest).length
      · rw [if_pos enough, if_pos (by omega)]
        rfl
      · rw [if_neg enough, if_neg (by omega)]
        rfl

/-- What comes behind enough bytes is not touched. -/
theorem fill_append {n : Nat} {source : Source} (steady : source.Steady)
    (enough : n ≤ source.content.length) (rest : Source) :
    fill n (source ++ rest) = ((source.fill n).1, (source.fill n).2 ++ rest) := by
  fun_induction fill n source with
  | case1 source => simp only [fill]
  | case2 n => exact absurd enough (Nat.not_succ_le_zero n)
  | case3 n error later interrupted ih =>
      rw [List.cons_append, fill, if_pos interrupted]
      exact ih (steady_cons.mp steady).2 enough
  | case4 n error later broken => exact absurd (steady_cons.mp steady).1 broken
  | case5 n later => exact absurd rfl (steady_cons.mp steady).1
  | case6 n b bytes later within => rw [List.cons_append, fill, if_pos within, List.cons_append]
  | case7 n b bytes later beyond outcome left filled ih =>
      have reached : n - bytes.length ≤ (content later).length := by
        simp only [content, List.length_append, List.length_cons] at enough
        omega
      have behind := ih (steady_cons.mp steady).2 reached
      rw [filled] at behind
      rw [List.cons_append, fill, if_neg beyond, behind]

theorem exists_fill_append {source : Source} {bytes more : List UInt8} (steady : source.Steady)
    (content : source.content = bytes ++ more) :
    ∃ left : Source, left.Steady ∧ left.content = more ∧
      ∀ rest : Source, fill bytes.length (source ++ rest) = (.full bytes, left ++ rest) := by
  obtain ⟨result, leftSteady, leftContent⟩ := fill_of_steady bytes.length source steady
  rw [content, if_pos (by simp), List.take_left] at result
  rw [content, List.drop_left] at leftContent
  refine ⟨_, leftSteady, leftContent, fun rest => ?_⟩
  have enough : bytes.length ≤ source.content.length := by simp [content]
  rw [fill_append steady enough rest, result]

theorem exists_fill_short {source : Source} {n : Nat} (steady : source.Steady)
    (short : source.content.length < n) :
    ∃ left : Source, source.fill n = (.short source.content, left) := by
  have result := (fill_of_steady n source steady).1
  rw [if_neg (Nat.not_le_of_lt short)] at result
  exact ⟨_, Prod.ext result rfl⟩

end Source

/-! ## Messages on the wire -/

/-- A message on the wire. Its header declares the length of the payload; nothing else about it
need be right. -/
structure Wire where
  version : UInt8
  inverse : UInt8
  /-- The wire value of the payload type. -/
  type : UInt16
  payload : List UInt8
  length_lt : payload.length < UInt32.size

namespace Wire

variable (w : Wire)

/-- The header that the first eight bytes spell. -/
def header : Header := ⟨w.version, w.inverse, .ofWire w.type, UInt32.ofNat w.payload.length⟩

def headerBytes : List UInt8 :=
  w.version :: w.inverse ::
    (BigEndian.bytes16 w.type ++ BigEndian.bytes32 (UInt32.ofNat w.payload.length))

def bytes : List UInt8 := w.headerBytes ++ w.payload

def message : Message := ⟨w.header, w.payload⟩

/-- What a reader with this limit makes of the message. -/
def outcome (limit : Nat) : Except Fault Message :=
  if limit < w.payload.length then .error (.payloadTooLarge w.payload.length limit)
  else if w.inverse = ~~~w.version then .ok w.message
  else .error (.invalidInverseVersion w.version w.inverse)

variable {w}

theorem length_headerBytes : w.headerBytes.length = headerSize := rfl

theorem toNat_length : w.header.length.toNat = w.payload.length := by
  simp only [header, UInt32.toNat_ofNat']
  exact Nat.mod_eq_of_lt w.length_lt

theorem ofBytes_headerBytes : Header.ofBytes w.headerBytes = .ok w.header := by
  simp only [headerBytes, BigEndian.bytes16, BigEndian.bytes32, List.cons_append, List.nil_append,
    Header.ofBytes, BigEndian.read16_bytes16, BigEndian.read32_bytes32, header]

theorem outcome_eq_validate {limit : Nat} (small : ¬ limit < w.payload.length) :
    w.outcome limit = w.header.validate.map fun () => w.message := by
  rw [outcome, if_neg small, Header.validate, Header.isValid]
  by_cases valid : w.inverse = ~~~w.version
  · simp [header, valid, Except.map]
  · simp [header, valid, Except.map]

/-- A part of a message is a part of its header, or its header and a part of its payload. -/
theorem cut_cases {part missing : List UInt8} (cut : part ++ missing = w.bytes)
    (more : missing ≠ []) :
    part.length < headerSize ∨
      ∃ arrived, part = w.headerBytes ++ arrived ∧ arrived.length < w.payload.length := by
  by_cases early : part.length < headerSize
  · exact .inl early
  · have reached : w.headerBytes <+: part :=
      List.prefix_of_prefix_length_le ⟨w.payload, rfl⟩ ⟨missing, cut⟩ (Nat.le_of_not_lt early)
    obtain ⟨arrived, rfl⟩ := reached
    rw [bytes, List.append_assoc, List.append_cancel_left_eq] at cut
    refine .inr ⟨arrived, rfl, ?_⟩
    rw [← cut, List.length_append]
    exact Nat.lt_add_of_pos_right (List.length_pos_iff.mpr more)

end Wire

namespace Source

variable {source : Source} {more : List UInt8}

theorem exists_readHeader_append {w : Wire} (steady : source.Steady)
    (content : source.content = w.headerBytes ++ more) :
    ∃ left : Source, left.Steady ∧ left.content = more ∧
      ∀ rest : Source, readHeader (source ++ rest) = (.ok w.header, left ++ rest) := by
  obtain ⟨left, leftSteady, leftContent, filled⟩ := exists_fill_append steady content
  rw [Wire.length_headerBytes] at filled
  refine ⟨left, leftSteady, leftContent, fun rest => ?_⟩
  rw [readHeader, filled, ← Wire.ofBytes_headerBytes]

/-- A message on the wire is read, or refused, as a whole, and what comes behind it is not touched. -/
theorem exists_readMessage_append {w : Wire} (limit : Nat) (steady : source.Steady)
    (content : source.content = w.bytes ++ more) :
    ∃ left : Source, left.Steady ∧ left.content = more ∧
      ∀ rest : Source, readMessage limit (source ++ rest) = (w.outcome limit, left ++ rest) := by
  rw [Wire.bytes, List.append_assoc] at content
  obtain ⟨payload, payloadSteady, payloadContent, header⟩ := exists_readHeader_append steady content
  obtain ⟨left, leftSteady, leftContent, filled⟩ := exists_fill_append payloadSteady payloadContent
  refine ⟨left, leftSteady, leftContent, fun rest => ?_⟩
  simp only [readMessage, header, Wire.toNat_length]
  split
  · rename_i large
    simp only [skip, filled, Wire.outcome, if_pos large]
  · rename_i small
    simp only [readPayload, filled, Wire.outcome_eq_validate small]
    rfl

theorem exists_readMessage {w : Wire} (limit : Nat) (steady : source.Steady)
    (content : source.content = w.bytes ++ more) :
    ∃ left : Source, source.readMessage limit = (w.outcome limit, left) ∧ left.Steady ∧
      left.content = more := by
  obtain ⟨left, leftSteady, leftContent, read⟩ := exists_readMessage_append limit steady content
  have alone := read []
  rw [List.append_nil, List.append_nil] at alone
  exact ⟨left, alone, leftSteady, leftContent⟩

/-- A stream without bytes is at its end. -/
theorem exists_readMessage_end (limit : Nat) (steady : source.Steady)
    (content : source.content = []) :
    ∃ left, source.readMessage limit = (.error .connectionClosed, left) := by
  obtain ⟨left, filled⟩ : ∃ left, source.fill headerSize = (.short source.content, left) :=
    exists_fill_short steady (by rw [content]; decide)
  rw [content] at filled
  exact ⟨left, by rw [readMessage, readHeader, filled]⟩

/-- A stream that ends inside a message is broken, wherever it ends. -/
theorem exists_readMessage_cut {w : Wire} {missing : List UInt8} (limit : Nat)
    (steady : source.Steady) (cut : source.content ++ missing = w.bytes)
    (begun : source.content ≠ []) (more : missing ≠ []) :
    ∃ text left, source.readMessage limit = (.error (.io ⟨.unexpectedEof, text⟩), left) := by
  rcases Wire.cut_cases cut more with early | ⟨part, content, short⟩
  · obtain ⟨left, filled⟩ := exists_fill_short steady early
    obtain ⟨b, bytes, shape⟩ := List.exists_cons_of_ne_nil begun
    rw [shape] at filled
    exact ⟨_, left, by rw [readMessage, readHeader, filled]⟩
  · obtain ⟨payload, payloadSteady, payloadContent, header⟩ :=
      exists_readHeader_append steady content
    have alone := header []
    rw [List.append_nil, List.append_nil] at alone
    obtain ⟨left, filled⟩ := exists_fill_short payloadSteady (payloadContent ▸ short)
    simp only [readMessage, alone, Wire.toNat_length, skip, readPayload, filled]
    split <;> exact ⟨_, left, rfl⟩

/-! ## Calls one after the other -/

/-- Calls one after the other have these outcomes, and leave this source. -/
inductive Yields {α : Type} (read : Source → α × Source) : Source → List α → Source → Prop where
  | nil {source : Source} : Yields read source [] source
  | cons {source next left : Source} {outcome outcomes} :
    read source = (outcome, next) → Yields read next outcomes left →
    Yields read source (outcome :: outcomes) left

/-- Sources from which the first call gives the same are alike for all calls. -/
theorem Yields.of_eq {α : Type} {read : Source → α × Source} {source other left : Source}
    {outcomes : List α} (same : read source = read other) (yields : Yields read other outcomes left) :
    ∃ between, Yields read source outcomes between ∧ read between = read left := by
  cases yields with
  | nil => exact ⟨source, .nil, same⟩
  | cons first others => exact ⟨left, .cons (same.trans first) others, rfl⟩

/-- Whole messages are read one a call, whatever comes behind them. -/
theorem exists_yields_append {limit : Nat} {read : Source → Except Fault Message × Source}
    (reads : ∀ {source left : Source} {w : Wire},
      source.readMessage limit = (w.outcome limit, left) → read source = (w.outcome limit, left))
    {part : List UInt8} (messages : List Wire) :
    ∀ {source : Source}, source.Steady → source.content = messages.flatMap Wire.bytes ++ part →
      ∃ left : Source, left.Steady ∧ left.content = part ∧ ∀ rest : Source,
        Yields read (source ++ rest) (messages.map (·.outcome limit)) (left ++ rest) := by
  induction messages with
  | nil =>
      intro source steady content
      exact ⟨source, steady, content, fun rest => .nil⟩
  | cons w messages ih =>
      intro source steady content
      rw [List.flatMap_cons, List.append_assoc] at content
      obtain ⟨next, nextSteady, nextContent, first⟩ :=
        exists_readMessage_append limit steady content
      obtain ⟨left, leftSteady, leftContent, others⟩ := ih nextSteady nextContent
      exact ⟨left, leftSteady, leftContent, fun rest => .cons (reads (first rest)) (others rest)⟩

end Source

end DiagnosticGateway.Doip
