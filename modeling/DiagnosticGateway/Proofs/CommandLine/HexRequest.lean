import DiagnosticGateway.CommandLine.HexRequest
import DiagnosticGateway.Proofs.Text.Digits

/-! # Which requests are read

A request is cut into pairs of two bytes from its front. A pair stands for a byte if it is two
hexadecimal digits, but also if it is a plus sign and one digit. A request with characters outside
ASCII may have no cut after two bytes, and then there is no answer at all. All other requests are
read exactly if they are digits in even number.
-/

namespace DiagnosticGateway.CommandLine

/-- A pair that stands for a byte: two digits, or a plus sign and one digit. -/
inductive Spells : List Char → UInt8 → Prop where
  | digits {high low h l} :
    Hex.digit? high = some h → Hex.digit? low = some l → Spells [high, low] (.ofNat (16 * h + l))
  | signed {low l} : Hex.digit? low = some l → Spells ['+', low] (.ofNat l)

/-- Some characters are left, but no first ones of them take two bytes. -/
def Uncut (cs : List Char) : Prop := cs ≠ [] ∧ ∀ pair rest, cs = pair ++ rest → utf8Size pair ≠ 2

/-- What becomes of characters that are read pair by pair. -/
inductive Reads : List Char → Except RequestDefect (List UInt8) → Prop where
  | nil : Reads [] (.ok [])
  | pair {pair b rest outcome} :
    Spells pair b → Reads rest outcome → Reads (pair ++ rest) (outcome.map (b :: ·))
  | bad {pair rest} :
    utf8Size pair = 2 → (∀ b, ¬ Spells pair b) → Reads (pair ++ rest) (.error (.badPair pair))
  | split {cs} : Uncut cs → Reads cs (.error .splitCharacter)

/-- Hexadecimal digits, two for each byte and at least for one. -/
structure IsHex (cs : List Char) : Prop where
  nonempty : cs ≠ []
  even : cs.length % 2 = 0
  digits : ∀ c ∈ cs, Hex.IsDigit c

/-! ## Cutting -/

variable {pair rest cs : List Char}

theorem utf8Size_eq_length (single : ∀ c ∈ cs, c.utf8Size = 1) : utf8Size cs = cs.length := by
  induction cs with
  | nil => rfl
  | cons c cs ih =>
      obtain ⟨first, others⟩ := List.forall_mem_cons.mp single
      rw [utf8Size, first, ih others, List.length_cons, Nat.add_comm]

theorem pair_cases (two : utf8Size pair = 2) :
    (∃ c, pair = [c] ∧ c.utf8Size = 2) ∨
      ∃ c d, pair = [c, d] ∧ c.utf8Size = 1 ∧ d.utf8Size = 1 := by
  match pair with
  | [] => cases two
  | [c] => exact .inl ⟨c, rfl, two⟩
  | [c, d] =>
      have := c.utf8Size_pos
      have := d.utf8Size_pos
      simp only [utf8Size] at two
      exact .inr ⟨c, d, rfl, by omega, by omega⟩
  | c :: d :: e :: more =>
      have := c.utf8Size_pos
      have := d.utf8Size_pos
      have := e.utf8Size_pos
      simp only [utf8Size] at two
      omega

theorem takePair_append (two : utf8Size pair = 2) (rest : List Char) :
    takePair (pair ++ rest) = .ok (pair, rest) := by
  obtain ⟨c, rfl, wide⟩ | ⟨c, d, rfl, first, second⟩ := pair_cases two
  · simp [takePair, wide]
  · simp [takePair, first, second]

theorem takePair_eq_split_iff : takePair cs = .error .splitCharacter ↔ Uncut cs := by
  constructor
  · intro stuck
    constructor
    · rintro rfl
      cases stuck
    · rintro pair rest rfl two
      rw [takePair_append two] at stuck
      cases stuck
  · rintro ⟨nonempty, uncut⟩
    match cs with
    | [] => exact absurd rfl nonempty
    | [c] => exact if_neg (uncut [c] [] rfl)
    | c :: d :: left =>
        have wide : c.utf8Size ≠ 2 := uncut [c] (d :: left) rfl
        have narrow : ¬ (c.utf8Size = 1 ∧ d.utf8Size = 1) := by
          rintro ⟨first, second⟩
          apply uncut [c, d] left rfl
          simp [utf8Size, first, second]
        simp [takePair, wide, narrow]

theorem cut_cases (cs : List Char) :
    cs = [] ∨ Uncut cs ∨ ∃ pair rest, cs = pair ++ rest ∧ utf8Size pair = 2 := by
  by_cases cut : ∃ pair rest, cs = pair ++ rest ∧ utf8Size pair = 2
  · exact .inr (.inr cut)
  · by_cases nonempty : cs = []
    · exact .inl nonempty
    · exact .inr (.inl ⟨nonempty, fun pair rest here two => cut ⟨pair, rest, here, two⟩⟩)

/-! ## The value of a pair -/

theorem utf8Size_of_digit? {c : Char} {d : Nat} (value : Hex.digit? c = some d) : c.utf8Size = 1 :=
  Char.utf8Size_eq_one_iff.mpr (Hex.isDigit_iff.mpr ⟨d, value⟩).val_le

theorem digit?_sixteen (c : Char) : Numeral.digit? 16 c = Hex.digit? c := by
  rw [Numeral.digit?]
  cases value : Hex.digit? c with
  | none => rfl
  | some d => simp [(Hex.digitChar_of_digit? value).1]

theorem atMost?_signed (low : Char) : Numeral.atMost? 16 0xFF ['+', low] = Hex.digit? low := by
  simp only [Numeral.atMost?, Numeral.unsigned?, Numeral.plain?, Numeral.digits?, digit?_sixteen]
  cases value : Hex.digit? low with
  | none => rfl
  | some l =>
      have := (Hex.digitChar_of_digit? value).1
      simp
      omega

theorem unsigned?_of_ne {c : Char} (unsigned : c ≠ '+') (cs : List Char) :
    Numeral.unsigned? 16 (c :: cs) = Numeral.digits? 16 0 (c :: cs) := by
  unfold Numeral.unsigned?
  split
  · rename_i here
    exact absurd (List.cons.inj here).1 unsigned
  · rfl

theorem atMost?_wide {c : Char} (wide : c.utf8Size = 2) : Numeral.atMost? 16 0xFF [c] = none := by
  have unsigned : c ≠ '+' := by
    rintro rfl
    exact absurd wide (by decide)
  have unknown : Hex.digit? c = none := by
    cases value : Hex.digit? c with
    | none => rfl
    | some d =>
        rw [utf8Size_of_digit? value] at wide
        cases wide
  simp [Numeral.atMost?, unsigned?_of_ne unsigned, Numeral.digits?, digit?_sixteen, unknown]

theorem atMost?_digits {high : Char} (unsigned : high ≠ '+') (low : Char) :
    Numeral.atMost? 16 0xFF [high, low] =
      (Hex.digit? high).bind fun h => (Hex.digit? low).map (16 * h + ·) := by
  simp only [Numeral.atMost?, unsigned?_of_ne unsigned, Numeral.digits?, digit?_sixteen]
  cases value : Hex.digit? high with
  | none => rfl
  | some h =>
      cases other : Hex.digit? low with
      | none => rfl
      | some l =>
          have := (Hex.digitChar_of_digit? value).1
          have := (Hex.digitChar_of_digit? other).1
          simp
          omega

theorem Spells.utf8Size_eq {b : UInt8} (spells : Spells pair b) : utf8Size pair = 2 := by
  cases spells with
  | digits high low => simp [utf8Size, utf8Size_of_digit? high, utf8Size_of_digit? low]
  | signed low => simp [utf8Size, utf8Size_of_digit? low]; decide

theorem Spells.pairValue_eq {b : UInt8} (spells : Spells pair b) : pairValue pair = .ok b := by
  cases spells with
  | @digits high low h l first second =>
      -- a numeral with a plus sign in front is read from its second character on
      have unsigned : high ≠ '+' := by
        rintro rfl
        cases first
      simp [pairValue, atMost?_digits unsigned, first, second]
  | signed low => simp [pairValue, atMost?_signed, low]

theorem spells_of_pairValue {b : UInt8} (two : utf8Size pair = 2) (read : pairValue pair = .ok b) :
    Spells pair b := by
  obtain ⟨n, value, rfl⟩ : ∃ n, Numeral.atMost? 16 0xFF pair = some n ∧ UInt8.ofNat n = b := by
    rw [pairValue] at read
    split at read
    · rename_i n value
      exact ⟨n, value, Except.ok.inj read⟩
    · cases read
  obtain ⟨c, rfl, wide⟩ | ⟨high, low, rfl, -, -⟩ := pair_cases two
  · rw [atMost?_wide wide] at value
    cases value
  · by_cases sign : high = '+'
    · subst sign
      rw [atMost?_signed] at value
      exact .signed value
    · rw [atMost?_digits sign] at value
      obtain ⟨h, first, rest⟩ := Option.bind_eq_some_iff.mp value
      obtain ⟨l, second, rfl⟩ := Option.map_eq_some_iff.mp rest
      exact .digits first second

theorem pairValue_of_error {defect} (read : pairValue pair = .error defect) :
    defect = .badPair pair := by
  rw [pairValue] at read
  split at read
  · cases read
  · exact (Except.error.inj read).symm

/-! ## Reading -/

theorem pairValues_append (two : utf8Size pair = 2) (rest : List Char) :
    pairValues (pair ++ rest) = do return (← pairValue pair) :: (← pairValues rest) := by
  have taken := takePair_append two rest
  cases whole : pair ++ rest with
  | nil =>
      rw [whole] at taken
      cases taken
  | cons c more =>
      rw [whole] at taken
      rw [pairValues]
      split <;> rename_i again <;> rw [taken] at again <;> cases again
      rfl

theorem pairValues_of_uncut (uncut : Uncut cs) : pairValues cs = .error .splitCharacter := by
  have stuck := takePair_eq_split_iff.mpr uncut
  match cs with
  | [] => exact absurd rfl uncut.1
  | c :: rest =>
      rw [pairValues]
      split <;> rename_i again <;> rw [stuck] at again <;> cases again
      rfl

theorem reads_pairValues (cs : List Char) : Reads cs (pairValues cs) := by
  -- on the number of characters, since a pair is one or two of them
  induction length : cs.length using Nat.strongRecOn generalizing cs with
  | ind n ih =>
      obtain rfl | uncut | ⟨pair, rest, rfl, two⟩ := cut_cases cs
      · rw [pairValues]
        exact .nil
      · rw [pairValues_of_uncut uncut]
        exact .split uncut
      · rw [pairValues_append two]
        cases read : pairValue pair with
        | error defect =>
            obtain rfl := pairValue_of_error read
            refine .bad two fun b spells => ?_
            rw [spells.pairValue_eq] at read
            cases read
        | ok b =>
            have spells := spells_of_pairValue two read
            have shorter : rest.length < n := by
              have := length_takePair_lt (takePair_append two rest)
              omega
            have reads := Reads.pair spells (ih _ shorter rest rfl)
            cases others : pairValues rest <;> rw [others] at reads <;> exact reads

/-- There is just one way to read. -/
theorem Reads.pairValues_eq {outcome} (reads : Reads cs outcome) : pairValues cs = outcome := by
  induction reads with
  | nil => rw [pairValues]
  | @pair pair b rest outcome spells _ ih =>
      rw [pairValues_append spells.utf8Size_eq, spells.pairValue_eq, ih]
      cases outcome <;> rfl
  | @bad pair rest two other =>
      rw [pairValues_append two]
      cases read : pairValue pair with
      | error defect =>
          obtain rfl := pairValue_of_error read
          rfl
      | ok b => exact absurd (spells_of_pairValue two read) (other b)
  | split uncut => exact pairValues_of_uncut uncut

theorem readRequest_of_even {text : String}
    (characters : text.toList.filter (!isWhiteSpace ·) = cs)
    (even : ¬ (cs = [] ∨ utf8Size cs % 2 = 1)) : readRequest text = pairValues cs := by
  rw [← characters] at even ⊢
  exact if_neg even

/-! ## Requests of digits -/

theorem Spells.encode_eq {b : UInt8} (spells : Spells pair b) (unsigned : '+' ∉ pair) :
    pair.length = 2 ∧ (∀ c ∈ pair, Hex.IsDigit c) ∧ Hex.encode [b] = pair.map Char.toLower := by
  cases spells with
  | signed low => exact absurd List.mem_cons_self unsigned
  | @digits high low h l first second =>
      obtain ⟨hLt, hChar⟩ := Hex.digitChar_of_digit? first
      obtain ⟨lLt, lChar⟩ := Hex.digitChar_of_digit? second
      have value : (UInt8.ofNat (16 * h + l)).toNat = 16 * h + l := by
        simp only [UInt8.toNat_ofNat']
        omega
      have upper : (16 * h + l) / 16 = h := by omega
      have lower : (16 * h + l) % 16 = l := by omega
      refine ⟨rfl, ?_, ?_⟩
      · simp [Hex.isDigit_iff, first, second]
      · simp only [Hex.encode, value, upper, lower, hChar, lChar, List.map_cons, List.map_nil]

theorem Reads.encode_eq {outcome} (reads : Reads cs outcome) (unsigned : '+' ∉ cs) {bytes}
    (read : outcome = .ok bytes) :
    cs.length % 2 = 0 ∧ (∀ c ∈ cs, Hex.IsDigit c) ∧ Hex.encode bytes = cs.map Char.toLower := by
  induction reads generalizing bytes with
  | nil =>
      cases read
      exact ⟨rfl, List.forall_mem_nil _, rfl⟩
  | bad | split => cases read
  | @pair pair b rest outcome spells _ ih =>
      cases outcome with
      | error defect => cases read
      | ok others =>
          cases read
          rw [List.mem_append, not_or] at unsigned
          obtain ⟨two, digits, spelled⟩ := spells.encode_eq unsigned.1
          obtain ⟨even, more, spelledRest⟩ := ih unsigned.2 rfl
          refine ⟨?_, List.forall_mem_append.mpr ⟨digits, more⟩, ?_⟩
          · rw [List.length_append]
            omega
          · rw [List.map_append, ← spelled, ← spelledRest]
            rfl

theorem exists_reads : ∀ {cs : List Char}, cs.length % 2 = 0 → (∀ c ∈ cs, Hex.IsDigit c) →
    ∃ bytes, Reads cs (.ok bytes)
  | [], _, _ => ⟨[], .nil⟩
  | [_], odd, _ => nomatch odd
  | high :: low :: rest, even, digits => by
      simp only [List.forall_mem_cons, Hex.isDigit_iff] at digits
      obtain ⟨⟨h, first⟩, ⟨l, second⟩, others⟩ := digits
      simp only [← Hex.isDigit_iff] at others
      have shorter : rest.length % 2 = 0 := by
        simp only [List.length_cons] at even
        omega
      obtain ⟨bytes, reads⟩ := exists_reads shorter others
      exact ⟨_, .pair (.digits first second) reads⟩

/-- Characters of one byte are cut after every two of them, so only a last one may be left. -/
theorem Reads.odd_of_split {outcome} (reads : Reads cs outcome)
    (single : ∀ c ∈ cs, c.utf8Size = 1) (stuck : outcome = .error .splitCharacter) :
    cs.length % 2 = 1 := by
  induction reads with
  | nil | bad => cases stuck
  | @pair pair b rest outcome spells _ ih =>
      obtain ⟨singlePair, singleRest⟩ := List.forall_mem_append.mp single
      have two := spells.utf8Size_eq
      rw [utf8Size_eq_length singlePair] at two
      cases outcome with
      | ok bytes => cases stuck
      | error defect =>
          have odd := ih singleRest stuck
          rw [List.length_append]
          omega
  | @split cs uncut =>
      match cs with
      | [] => exact absurd rfl uncut.1
      | [c] => rfl
      | c :: d :: left =>
          have two : utf8Size [c, d] = 2 :=
            utf8Size_eq_length fun x here => single x (List.mem_append_left left here)
          exact absurd two (uncut.2 [c, d] left rfl)

theorem IsHex.not_odd (hex : IsHex cs) : ¬ (cs = [] ∨ utf8Size cs % 2 = 1) := by
  have single : ∀ c ∈ cs, c.utf8Size = 1 :=
    fun c here => Char.utf8Size_eq_one_iff.mpr (hex.digits c here).val_le
  rw [utf8Size_eq_length single, hex.even]
  simp [hex.nonempty]

theorem exists_pairValues_iff (nonempty : cs ≠ []) (unsigned : '+' ∉ cs) :
    (∃ bytes, pairValues cs = .ok bytes) ↔ IsHex cs := by
  constructor
  · rintro ⟨bytes, ok⟩
    obtain ⟨even, digits, _⟩ := (reads_pairValues cs).encode_eq unsigned ok
    exact ⟨nonempty, even, digits⟩
  · intro hex
    obtain ⟨bytes, ok⟩ := exists_reads hex.even hex.digits
    exact ⟨bytes, ok.pairValues_eq⟩

/-- A request is refused at once if it is empty or of an odd number of bytes, and otherwise read pair
by pair. Unless there is a plus sign in it, it is read exactly if it consists of hexadecimal digits
in even number, and those are the digits of the bytes. A character in the middle of which a pair ends
is one outside ASCII. -/
theorem unsigned_requests_are_hex (text : String) :
    let cs := text.toList.filter (!isWhiteSpace ·)
    ((cs = [] ∨ utf8Size cs % 2 = 1) ∧ readRequest text = .error .odd ∨
      cs ≠ [] ∧ utf8Size cs % 2 = 0 ∧ Reads cs (readRequest text)) ∧
    ('+' ∉ cs → ((∃ bytes, readRequest text = .ok bytes) ↔ IsHex cs) ∧
      ∀ bytes, readRequest text = .ok bytes → Hex.encode bytes = cs.map Char.toLower) ∧
    ((∀ c ∈ cs, c.utf8Size = 1) → readRequest text ≠ .error .splitCharacter) := by
  intro cs
  by_cases odd : cs = [] ∨ utf8Size cs % 2 = 1
  · have refused : readRequest text = .error .odd := if_pos odd
    rw [refused]
    refine ⟨.inl ⟨odd, rfl⟩, ?_, fun _ => nofun⟩
    intro _
    exact ⟨⟨nofun, fun hex => absurd odd hex.not_odd⟩, nofun⟩
  · have read : readRequest text = pairValues cs := readRequest_of_even rfl odd
    have reads := reads_pairValues cs
    obtain ⟨nonempty, even⟩ := not_or.mp odd
    rw [read]
    refine ⟨.inr ⟨nonempty, by omega, reads⟩, ?_, ?_⟩
    · intro unsigned
      refine ⟨exists_pairValues_iff nonempty unsigned, ?_⟩
      intro bytes ok
      exact (reads.encode_eq unsigned ok).2.2
    · intro single stuck
      apply even
      rw [utf8Size_eq_length single]
      exact reads.odd_of_split single stuck

/-- White space may stand anywhere, and digits may be of either case. -/
theorem spaced_request_read : ∃ bytes, readRequest "2 2f1\t9D" = .ok bytes ∧
    Hex.encode bytes = ['2', '2', 'f', '1', '9', 'd'] := by
  have characters : "2 2f1\t9D".toList.filter (!isWhiteSpace ·) = ['2', '2', 'f', '1', '9', 'D'] := by
    decide
  obtain ⟨_, read, _⟩ := unsigned_requests_are_hex "2 2f1\t9D"
  rw [characters] at read
  obtain ⟨exact, spelled⟩ := read (by decide)
  obtain ⟨bytes, ok⟩ := exact.mpr ⟨by decide, by decide, by simp [Hex.IsDigit]⟩
  exact ⟨bytes, ok, spelled bytes ok⟩

/-- A plus sign is taken for a digit, and a character of three bytes is cut in the middle. -/
theorem signed_and_split_requests :
    readRequest "+1" = .ok [1] ∧ ¬ IsHex ['+', '1'] ∧
      readRequest "a€" = .error .splitCharacter := by
  have one : Hex.digit? '1' = some 1 := rfl
  have signed : Reads ['+', '1'] (.ok [1]) := .pair (.signed one) .nil
  have uncut : Uncut ['a', '€'] := takePair_eq_split_iff.mp rfl
  refine ⟨?_, ?_, ?_⟩
  · exact (readRequest_of_even (by decide) (by decide)).trans signed.pairValues_eq
  · intro hex
    exact absurd (hex.digits '+' List.mem_cons_self) (by simp [Hex.IsDigit])
  · exact (readRequest_of_even (by decide) (by decide)).trans (pairValues_of_uncut uncut)

end DiagnosticGateway.CommandLine
