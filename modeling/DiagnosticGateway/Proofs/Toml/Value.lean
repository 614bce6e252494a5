import DiagnosticGateway.Proofs.Toml.Quoted
import DiagnosticGateway.Toml.Reading

/-! # Values are read back

A value that is written without an exponent, a point in time or braces gives back the value, up to
the depth to which brackets may nest. What follows a value is a line end, a comma or a bracket, and
none of these can belong to a number.
-/

namespace DiagnosticGateway.Toml

open Scan (Stops)

/-- Where a value ends. -/
def Ends (rest : List Char) : Prop := ∃ c left, rest = c :: left ∧ c ∈ ['\n', ',', ']']

namespace Ends

variable {rest : List Char}

theorem stops {p : Char → Bool} (ends : Ends rest)
    (none_of : ['\n', ',', ']'].all (!p ·) = true) : Stops p rest := by
  obtain ⟨c, left, rfl, here⟩ := ends
  refine Scan.stops_cons.mpr ?_
  simpa using List.all_eq_true.mp none_of c here

theorem cases (ends : Ends rest) :
    ∃ left, rest = '\n' :: left ∨ rest = ',' :: left ∨ rest = ']' :: left := by
  obtain ⟨c, left, rfl, here⟩ := ends
  simp only [List.mem_cons, List.not_mem_nil, or_false] at here
  obtain rfl | rfl | rfl := here
  · exact ⟨left, .inl rfl⟩
  · exact ⟨left, .inr (.inl rfl)⟩
  · exact ⟨left, .inr (.inr rfl)⟩

theorem newline (rest : List Char) : Ends ('\n' :: rest) := ⟨_, _, rfl, by decide⟩

theorem comma (rest : List Char) : Ends (',' :: rest) := ⟨_, _, rfl, by decide⟩

theorem bracket (rest : List Char) : Ends (']' :: rest) := ⟨_, _, rfl, by decide⟩

end Ends

/-! ## Numbers -/

section Numbers

variable {n : Nat} {rest : List Char}

/-- The first character of a decimal numeral. -/
theorem exists_toDigits_cons (n : Nat) :
    ∃ c ds, Nat.toDigits 10 n = c :: ds ∧ isDigit 10 c = true := by
  have all : ∀ c ∈ Nat.toDigits 10 n, isDigit 10 c = true :=
    Numeral.isDigit_of_mem_toDigits (by decide) (by decide) n
  cases digits : Nat.toDigits 10 n with
  | nil => exact absurd digits Nat.toDigits_ne_nil
  | cons c ds => exact ⟨c, ds, rfl, all c (digits ▸ List.mem_cons_self)⟩

theorem moreDigits_append {word : List Char} (all : ∀ c ∈ word, isDigit 10 c = true)
    (ends : Ends rest) : moreDigits 10 (word ++ rest) = (word, rest) := by
  induction word with
  | nil =>
      obtain ⟨left, rfl | rfl | rfl⟩ := ends.cases <;> rfl
  | cons c word ih =>
      obtain ⟨here, later⟩ := List.forall_mem_cons.mp all
      rw [List.cons_append, moreDigits, if_pos here, ih later]
      rintro c rest rfl -
      nomatch here

theorem digits?_toDigits (n : Nat) (ends : Ends rest) :
    digits? 10 (Nat.toDigits 10 n ++ rest) = some (Nat.toDigits 10 n, rest) := by
  have all : ∀ c ∈ Nat.toDigits 10 n, isDigit 10 c = true :=
    Numeral.isDigit_of_mem_toDigits (by decide) (by decide) n
  obtain ⟨c, ds, digits, here⟩ := exists_toDigits_cons n
  rw [digits] at all ⊢
  rw [List.cons_append, digits?, if_pos here,
    moreDigits_append (List.forall_mem_cons.mp all).2 ends]

theorem whole?_toDigits (n : Nat) (ends : Ends rest) :
    whole? (Nat.toDigits 10 n ++ rest) = some (Nat.toDigits 10 n, rest) := by
  by_cases zero : n = 0
  · rw [zero]
    rfl
  · have nonzero : (Nat.toDigits 10 n).head? ≠ some '0' :=
      Numeral.head?_toDigits (by decide) (by decide) zero
    have read := digits?_toDigits n ends
    obtain ⟨c, ds, digits, here⟩ := exists_toDigits_cons n
    rw [digits] at nonzero read ⊢
    rw [whole?]
    · exact read
    · rintro rest ⟨⟩
      exact nonzero rfl

/-- A numeral has no sign. -/
theorem sign_toDigits (n : Nat) (rest : List Char) :
    sign (Nat.toDigits 10 n ++ rest) = (false, Nat.toDigits 10 n ++ rest) := by
  obtain ⟨c, ds, digits, here⟩ := exists_toDigits_cons n
  rw [digits, List.cons_append, sign]
  · rintro rest ⟨⟩
    nomatch here
  · rintro rest ⟨⟩
    nomatch here

theorem finiteFloat?_toDigits (n : Nat) (ends : Ends rest) :
    finiteFloat? (Nat.toDigits 10 n ++ rest) = none := by
  have no_fraction : fraction? rest = none := by
    obtain ⟨left, rfl | rfl | rfl⟩ := ends.cases <;> rfl
  have no_exponent : exponent? rest = none := by
    obtain ⟨left, rfl | rfl | rfl⟩ := ends.cases <;> rfl
  unfold finiteFloat?
  rw [sign_toDigits]
  dsimp only
  rw [whole?_toDigits n ends, Option.bind_eq_bind, Option.bind_some]
  dsimp only
  rw [no_fraction]
  dsimp only [Option.getD_none]
  rw [no_exponent]
  rfl

theorem specialFloat?_toDigits (n : Nat) (rest : List Char) :
    specialFloat? (Nat.toDigits 10 n ++ rest) = none := by
  rw [specialFloat?, sign_toDigits]
  obtain ⟨c, ds, digits, here⟩ := exists_toDigits_cons n
  simp only [digits, List.cons_append]
  split
  · rename_i found
    obtain ⟨rfl, -⟩ := List.cons.inj found
    nomatch here
  · rename_i found
    obtain ⟨rfl, -⟩ := List.cons.inj found
    nomatch here
  · rfl

theorem readInteger?_toDigits (n : Nat) (ends : Ends rest) :
    readInteger? (Nat.toDigits 10 n ++ rest) = decimalInteger? (Nat.toDigits 10 n ++ rest) := by
  have no_mark : ∀ mark, mark ∉ ['\n', ',', ']'] →
      ∀ left, Nat.toDigits 10 n ++ rest ≠ '0' :: mark :: left := by
    intro mark other left found
    by_cases zero : n = 0
    · subst zero
      obtain ⟨c, _, rfl, here⟩ := ends
      cases found
      exact other here
    · have nonzero : (Nat.toDigits 10 n).head? ≠ some '0' :=
        Numeral.head?_toDigits (by decide) (by decide) zero
      obtain ⟨c, ds, digits, -⟩ := exists_toDigits_cons n
      rw [digits] at nonzero found
      exact nonzero (congrArg some (List.cons.inj found).1)
  unfold readInteger?
  split
  · rename_i found
    exact absurd found (no_mark _ (by decide) _)
  · rename_i found
    exact absurd found (no_mark _ (by decide) _)
  · rename_i found
    exact absurd found (no_mark _ (by decide) _)
  · rfl

theorem integer?_natCast (small : n < 0x8000000000000000) : integer? n = some (.integer n) := by
  have low : -0x8000000000000000 ≤ (n : Int) := by omega
  have high : (n : Int) < 0x8000000000000000 := by omega
  rw [integer?, if_pos ⟨low, high⟩]

theorem decimalInteger?_toDigits (small : n < 0x8000000000000000) (ends : Ends rest) :
    decimalInteger? (Nat.toDigits 10 n ++ rest) = some (.integer n, rest) := by
  have value : Numeral.plain? 10 (Nat.toDigits 10 n) = some n :=
    Numeral.plain?_toDigits (by decide) (by decide) n
  have fits : integer? (signed false n) = some (.integer n) := integer?_natCast small
  -- bind by bind, so that nobody has to compute with the bounds of 64 bits
  unfold decimalInteger?
  simp only [sign_toDigits]
  refine Option.bind_eq_some_iff.mpr ⟨_, whole?_toDigits n ends, ?_⟩
  refine Option.bind_eq_some_iff.mpr ⟨n, value, ?_⟩
  exact Option.bind_eq_some_iff.mpr ⟨_, fits, rfl⟩

theorem number?_toDigits (small : n < 0x8000000000000000) (ends : Ends rest) :
    number? (Nat.toDigits 10 n ++ rest) = some (.integer n, rest) := by
  rw [number?, finiteFloat?_toDigits n ends, specialFloat?_toDigits, readInteger?_toDigits n ends,
    decimalInteger?_toDigits small ends]
  rfl

theorem startsMoment_toDigits (n : Nat) (ends : Ends rest) :
    startsMoment (Nat.toDigits 10 n ++ rest) = false := by
  have all : ∀ c ∈ Nat.toDigits 10 n, c.isDigit = true := fun c here =>
    Nat.isDigit_of_mem_toDigits (by decide) (by decide) here
  have left := Scan.dropWhile_append all (ends.stops (by decide))
  simp only [startsMoment, left]
  obtain ⟨left, rfl | rfl | rfl⟩ := ends.cases <;> exact Bool.and_false _

end Numbers

/-! ## Scalars -/

/-- What has no brackets and no braces is a scalar. -/
theorem value?_of_scalar {c : Char} (depth : Nat) (cs : List Char) (no_bracket : c ≠ '[')
    (no_brace : c ≠ '\x7b') : value? depth (c :: cs) = scalar? (c :: cs) := by
  unfold value?
  split
  · rename_i found
    exact absurd (List.cons.inj found).1 no_bracket
  · rename_i found
    exact absurd (List.cons.inj found).1 no_brace
  · rfl

theorem scalar?_toDigits {n : Nat} {rest : List Char} (small : n < 0x8000000000000000)
    (ends : Ends rest) : scalar? (Nat.toDigits 10 n ++ rest) = some (.integer n, rest) := by
  have no_moment := startsMoment_toDigits n ends
  have read := number?_toDigits small ends
  obtain ⟨c, ds, digits, here⟩ := exists_toDigits_cons n
  rw [digits, List.cons_append] at read no_moment ⊢
  have other : ∀ mark, isDigit 10 mark = false → ∀ left, c :: (ds ++ rest) ≠ mark :: left :=
    fun mark no_digit left found => Scan.ne_of_class here no_digit (List.cons.inj found).1
  unfold scalar?
  split
  · rename_i found
    exact absurd found (other _ (by decide) _)
  · rename_i found
    exact absurd found (other _ (by decide) _)
  · rename_i found
    exact absurd found (other _ (by decide) _)
  · rename_i found
    exact absurd found (other _ (by decide) _)
  · rw [no_moment]
    exact read

theorem quote_cons (cs : List Char) :
    ∃ mark inner, quote cs = mark :: inner ∧ (mark = '"' ∨ mark = '\x27') := by
  unfold quote
  cases Quoting.ofText cs with
  | basic | multiBasic => exact ⟨_, _, rfl, .inl rfl⟩
  | literal | multiLiteral => exact ⟨_, _, rfl, .inr rfl⟩

theorem scalar?_quote (text : String) {rest : List Char} (ends : Ends rest) :
    scalar? (quote text.toList ++ rest) = some (.string text, rest) := by
  have read := string?_quote text.toList (ends.stops (p := isMark) (by decide))
  obtain ⟨mark, inner, opening, rfl | rfl⟩ := quote_cons text.toList
  all_goals
    rw [opening, List.cons_append] at read ⊢
    simp only [scalar?, read, Option.map_some, String.ofList_toList]

/-! ## Arrays -/

/-- Whether nothing is dropped in front of an item that starts with this character. -/
def startsItem (c : Char) : Bool :=
  !isBlank c && c != '#' && c != '\n' && c != '\r' && c != ']'

theorem skipFiller_of_startsItem {c : Char} (starts : startsItem c = true) (cs : List Char) :
    skipFiller (c :: cs) = c :: cs := by
  simp only [startsItem, Bool.and_eq_true, Bool.not_eq_true', bne_iff_ne] at starts
  obtain ⟨⟨⟨⟨no_blank, no_comment⟩, no_line⟩, no_return⟩, -⟩ := starts
  have stays : skipComment (skipBlanks (c :: cs)) = c :: cs := by
    rw [skipBlanks, List.dropWhile_cons_of_neg (by simp [no_blank]), skipComment]
    exact fun _ found => no_comment (List.cons.inj found).1
  have no_newline : newline? (c :: cs) = none := by
    rw [newline?]
    · exact fun _ found => no_line (List.cons.inj found).1
    · exact fun _ found => no_return (List.cons.inj found).1
  unfold skipFiller
  split
  · rename_i found
    rw [stays, no_newline] at found
    cases found
  · exact stays

theorem skipFiller_blank (cs : List Char) : skipFiller (' ' :: cs) = skipFiller cs := by
  rw [skipFiller, skipFiller]
  rfl

theorem skipFiller_line (cs : List Char) : skipFiller ('\n' :: cs) = skipFiller cs := by
  rw [skipFiller]
  rfl

theorem skipFiller_close (rest : List Char) : skipFiller (']' :: rest) = ']' :: rest := by
  unfold skipFiller
  rfl

theorem skipFiller_comma (rest : List Char) : skipFiller (',' :: rest) = ',' :: rest := by
  unfold skipFiller
  rfl

/-- A text that is read as an item of an array. -/
structure ReadsItem (read : Reader Value) (text : List Char) (v : Value) : Prop where
  starts : ∃ c tail, text = c :: tail ∧ startsItem c = true
  reads : ∀ rest, Ends rest → read (text ++ rest) = some (v, rest)

namespace ReadsItem

variable {read : Reader Value} {text : List Char} {v : Value}

theorem skipFiller_eq (item : ReadsItem read text v) (rest : List Char) :
    skipFiller (text ++ rest) = text ++ rest := by
  obtain ⟨c, tail, rfl, starts⟩ := item.starts
  exact skipFiller_of_startsItem starts _

theorem ne_close (item : ReadsItem read text v) (rest left : List Char) :
    text ++ rest ≠ ']' :: left := by
  obtain ⟨c, tail, rfl, starts⟩ := item.starts
  intro found
  rw [(List.cons.inj found).1] at starts
  cases starts

end ReadsItem

section Items

variable {read : Reader Value} {text front rest : List Char} {v : Value}

theorem items?_nil (skipped : skipFiller front = ']' :: rest) :
    items? read front = some ([], rest) := by
  rw [items?, skipped]
  rfl

theorem items?_last (item : ReadsItem read text v)
    (skipped : skipFiller front = text ++ ']' :: rest) :
    items? read front = some ([v], rest) := by
  unfold items?
  rw [skipped]
  split
  · rename_i found
    exact absurd found (item.ne_close _ _)
  · rw [item.reads _ (.bracket rest)]
    simp only [skipFiller_close]

theorem items?_more (item : ReadsItem read text v)
    (skipped : skipFiller front = text ++ ',' :: rest) (shorter : rest.length < front.length) :
    items? read front = (items? read rest).map fun (items, rest) => (v :: items, rest) := by
  conv => lhs; unfold items?
  rw [skipped]
  split
  · rename_i found
    exact absurd found (item.ne_close _ _)
  · rw [item.reads _ (.comma rest)]
    simp only [skipFiller_comma, shorter, dif_pos]

end Items

/-- Items on lines of their own, up to the bracket after them. -/
theorem items?_itemLines {read : Reader Value} (rest : List Char) {items : List Value}
    (readable : ∀ item ∈ items, ReadsItem read item.text item) :
    items? read ('\n' :: (itemLines items ++ ']' :: rest)) = some (items, rest) := by
  induction items with
  | nil =>
      refine items?_nil ?_
      rw [itemLines, List.nil_append, skipFiller_line, skipFiller_close]
  | cons item items ih =>
      obtain ⟨here, later⟩ := List.forall_mem_cons.mp readable
      have skipped : skipFiller ('\n' :: (itemLines (item :: items) ++ ']' :: rest)) =
          item.text ++ ',' :: '\n' :: (itemLines items ++ ']' :: rest) := by
        simp only [itemLines, List.append_assoc, List.cons_append, List.nil_append,
          skipFiller_line, skipFiller_blank, here.skipFiller_eq]
      have shorter : ('\n' :: (itemLines items ++ ']' :: rest)).length <
          ('\n' :: (itemLines (item :: items) ++ ']' :: rest)).length := by
        simp only [itemLines, List.length_append, List.length_cons]
        omega
      rw [items?_more here skipped shorter, ih later]
      rfl

/-! ## All values -/

/-- A value that is written as text, a natural number, a truth value, or an array of such values,
with at most this many brackets around any part of it. -/
inductive Writable : Nat → Value → Prop where
  | string {depth} (text : String) : Writable depth (.string text)
  | natural {depth} (n : Nat) : n < 0x8000000000000000 → Writable depth (.integer n)
  | boolean {depth} (b : Bool) : Writable depth (.boolean b)
  | array {depth} (items : List Value) :
    (∀ item ∈ items, Writable depth item) → Writable (depth + 1) (.array items)

theorem text_natCast (n : Nat) : (Value.integer n).text = Nat.toDigits 10 n := by
  rw [Value.text]
  exact if_neg (by omega)

theorem startsItem_of_isDigit {c : Char} (digit : isDigit 10 c = true) : startsItem c = true := by
  have other : ∀ mark, isDigit 10 mark = false → c ≠ mark := fun _ => Scan.ne_of_class digit
  simp only [startsItem, isBlank, Bool.and_eq_true, Bool.not_eq_true', bne_iff_ne,
    Bool.or_eq_false_iff, beq_eq_false_iff_ne]
  exact ⟨⟨⟨⟨⟨other _ (by decide), other _ (by decide)⟩, other _ (by decide)⟩,
    other _ (by decide)⟩, other _ (by decide)⟩, other _ (by decide)⟩

theorem text_array_cons (item : Value) (items : List Value) :
    ∃ inner, (Value.array (item :: items)).text = '[' :: inner := by
  cases items with
  | nil => exact ⟨_, by rw [Value.text]; rfl⟩
  | cons next items =>
      refine ⟨'\n' :: (itemLines (item :: next :: items) ++ [']']), ?_⟩
      rw [Value.text]
      · rfl
      · exact nofun
      · exact nofun

theorem text_startsItem {depth : Nat} {v : Value} (writable : Writable depth v) :
    ∃ c tail, v.text = c :: tail ∧ startsItem c = true := by
  cases writable with
  | string text =>
      obtain ⟨mark, inner, opening, rfl | rfl⟩ := quote_cons text.toList
      · exact ⟨_, inner, opening, by decide⟩
      · exact ⟨_, inner, opening, by decide⟩
  | natural n small =>
      obtain ⟨c, ds, digits, here⟩ := exists_toDigits_cons n
      exact ⟨c, ds, by rw [text_natCast, digits], startsItem_of_isDigit here⟩
  | boolean b => cases b <;> exact ⟨_, _, rfl, by decide⟩
  | array items =>
      cases items with
      | nil => exact ⟨_, _, by rw [Value.text], by decide⟩
      | cons item items =>
          obtain ⟨inner, opening⟩ := text_array_cons item items
          exact ⟨_, inner, opening, by decide⟩

theorem items?_text (read : Reader Value) (items : List Value) (rest : List Char)
    (readable : ∀ item ∈ items, ReadsItem read item.text item) :
    ∃ inner, (Value.array items).text ++ rest = '[' :: inner ∧
      items? read inner = some (items, rest) := by
  match items with
  | [] => exact ⟨']' :: rest, by rw [Value.text]; rfl, items?_nil (skipFiller_close rest)⟩
  | [item] =>
      have here := readable item List.mem_cons_self
      refine ⟨item.text ++ ']' :: rest, ?_, items?_last here (here.skipFiller_eq _)⟩
      simp only [Value.text, List.append_assoc, List.cons_append, List.nil_append]
  | item :: next :: items =>
      refine ⟨_, ?_, items?_itemLines rest readable⟩
      rw [Value.text]
      · simp only [List.append_assoc, List.cons_append, List.nil_append]
      · exact nofun
      · exact nofun

/-- A value is read back. -/
theorem value?_text {depth : Nat} {v : Value} (writable : Writable depth v) :
    ∀ rest, Ends rest → value? depth (v.text ++ rest) = some (v, rest) := by
  induction writable with
  | @string depth text =>
      intro rest ends
      have read := scalar?_quote text ends
      obtain ⟨mark, inner, opening, rfl | rfl⟩ := quote_cons text.toList
      all_goals
        rw [opening, List.cons_append] at read
        rw [Value.text, opening, List.cons_append, value?_of_scalar depth _ (by decide) (by decide),
          read]
  | @natural depth n small =>
      intro rest ends
      have read := scalar?_toDigits small ends
      obtain ⟨c, ds, digits, here⟩ := exists_toDigits_cons n
      have other : ∀ mark, isDigit 10 mark = false → c ≠ mark := fun _ => Scan.ne_of_class here
      rw [digits, List.cons_append] at read
      rw [text_natCast, digits, List.cons_append,
        value?_of_scalar depth _ (other _ (by decide)) (other _ (by decide)), read]
  | @boolean depth b =>
      intro rest _
      cases b <;> exact value?_of_scalar depth _ (by decide) (by decide)
  | @array depth items writable ih =>
      intro rest ends
      obtain ⟨inner, opening, read⟩ := items?_text (value? depth) items rest
        fun item here => ⟨text_startsItem (writable item here), ih item here⟩
      rw [opening, value?]
      simp only [read, Option.map_some]

end DiagnosticGateway.Toml
