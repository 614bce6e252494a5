import DiagnosticGateway.Proofs.Text.Digits
import DiagnosticGateway.Toml.Printer
import Mathlib.Data.List.TakeWhile

/-! # Quoted text is read back

Text may take four forms, and each gives back the text, whatever characters there are in it. With
marks tripled the text may hold marks itself: at most two in a row, or the third is escaped, so the
reader knows the three that close the text by looking five characters ahead.
-/

namespace DiagnosticGateway.Toml

open Scan (Stops)

/-! ## Escapes -/

/-- What stands for a character after a backslash. -/
structure Escapes (word : List Char) (c : Char) : Prop where
  read : ∀ cs, escape? (word ++ cs) = some (c, cs)
  /-- The backslash does not end a line. -/
  no_line : ∀ cs, swallow? (word ++ cs) = none

theorem char?_toNat (c : Char) : char? c.toNat = some c := by
  have valid : c.toNat.isValidChar := c.valid
  have same := Char.ofNat_toNat c
  rw [Char.ofNat, dif_pos valid] at same
  rw [char?, dif_pos valid, same]

/-- The numeral of a control character. -/
theorem code?_numeral {c : Char} (small : c.toNat < 0x80) (cs : List Char) :
    code? 4 ((Hex.numeral 4 c.toNat).toList ++ cs) = some (c, cs) := by
  have four_digits : ∀ n < 0x80, (Hex.numeral 4 n).toList.length = 4 ∧
      (Hex.numeral 4 n).toList.all (fun c => (Hex.digit? c).isSome) ∧
      Numeral.plain? 16 (Hex.numeral 4 n).toList = some n := by
    decide +kernel
  obtain ⟨length, all, value⟩ := four_digits c.toNat small
  have taken : ((Hex.numeral 4 c.toNat).toList ++ cs).take 4 = (Hex.numeral 4 c.toNat).toList :=
    List.take_left' length
  have left : ((Hex.numeral 4 c.toNat).toList ++ cs).drop 4 = cs := List.drop_left' length
  simp only [code?, Scan.count?, taken, left, length, all, value, char?_toNat, and_self, if_true,
    Option.bind_eq_bind, Option.bind_some, Option.pure_def]

theorem isPlain_eq_false {c : Char} (special : isPlain c = false) : c.toNat < 0x80 := by
  simp only [isPlain, Bool.or_eq_false_iff, Bool.and_eq_false_iff,
    decide_eq_false_iff_not] at special
  omega

theorem newline?_of_plain {c : Char} (plain : isPlain c = true) (cs : List Char) :
    newline? (c :: cs) = none := by
  unfold newline?
  split
  · rename_i found
    cases found
    nomatch plain
  · rename_i found
    cases found
    nomatch plain
  · rfl

/-- A character is written as it is or with an escape. -/
theorem escape_cases (c : Char) :
    (escape c = [c] ∧ isPlain c = true ∧ c ≠ '\\') ∨
      ∃ word, escape c = '\\' :: word ∧ Escapes word c := by
  unfold escape
  split
  · exact .inr ⟨_, rfl, fun _ => rfl, fun _ => rfl⟩
  · exact .inr ⟨_, rfl, fun _ => rfl, fun _ => rfl⟩
  · exact .inr ⟨_, rfl, fun _ => rfl, fun _ => rfl⟩
  · exact .inr ⟨_, rfl, fun _ => rfl, fun _ => rfl⟩
  · exact .inr ⟨_, rfl, fun _ => rfl, fun _ => rfl⟩
  · exact .inr ⟨_, rfl, fun _ => rfl, fun _ => rfl⟩
  · rename_i no_backslash
    split
    · rename_i plain
      exact .inl ⟨rfl, plain, no_backslash⟩
    · rename_i special
      have small := isPlain_eq_false (Bool.eq_false_iff.mpr special)
      exact .inr ⟨_, rfl, fun cs => code?_numeral small cs, fun _ => rfl⟩

/-- A quotation mark is escaped by itself. -/
theorem escapes_mark : Escapes ['"'] '"' := ⟨fun _ => rfl, fun _ => rfl⟩

theorem basic?_escaped {word : List Char} {c : Char} (escapes : Escapes word c) (cs : List Char) :
    basic? ('\\' :: (word ++ cs)) = (basic? cs).map (onto c) := by
  rw [basic?]
  split
  · rename_i found
    rw [escapes.read] at found
    cases found
    rfl
  · rename_i found
    rw [escapes.read] at found
    cases found

theorem multiBasic?_escaped {word : List Char} {c : Char} (escapes : Escapes word c)
    (cs : List Char) : multiBasic? ('\\' :: (word ++ cs)) = (multiBasic? cs).map (onto c) := by
  rw [multiBasic?]
  split
  · rename_i found
    rw [escapes.no_line] at found
    cases found
  · split
    · rename_i found
      rw [escapes.read] at found
      cases found
      rfl
    · rename_i found
      rw [escapes.read] at found
      cases found

theorem basic?_escape {c : Char} (other : c ≠ '"') (cs : List Char) :
    basic? (escape c ++ cs) = (basic? cs).map (onto c) := by
  obtain ⟨same, plain, no_backslash⟩ | ⟨word, written, escapes⟩ := escape_cases c
  · rw [same, List.singleton_append, basic?, if_pos plain]
    · exact other
    · exact no_backslash
  · rw [written]
    exact basic?_escaped escapes cs

theorem multiBasic?_escape {c : Char} (other : c ≠ '"') (cs : List Char) :
    multiBasic? (escape c ++ cs) = (multiBasic? cs).map (onto c) := by
  obtain ⟨same, plain, no_backslash⟩ | ⟨word, written, escapes⟩ := escape_cases c
  · rw [same, List.singleton_append, multiBasic?]
    · split
      · rename_i found
        rw [newline?_of_plain plain] at found
        cases found
      · rw [if_pos plain]
    · exact other
    · exact no_backslash
  · rw [written]
    exact multiBasic?_escaped escapes cs

/-! ## On one line -/

theorem escapeAll_cons {multiline : Bool} {c : Char} (other : c ≠ '"') (run : Nat)
    (cs : List Char) :
    escapeAll multiline run (c :: cs) =
      (if multiline && c == '\n' then [c] else escape c) ++ escapeAll multiline 0 cs := by
  rw [escapeAll]
  exact other

theorem basic?_escapeAll (cs rest : List Char) :
    ∀ run, basic? (escapeAll false run cs ++ '"' :: rest) = some (cs, rest) := by
  induction cs with
  | nil => intro run; rw [escapeAll, List.nil_append, basic?]
  | cons c cs ih =>
      intro run
      by_cases mark : c = '"'
      · subst mark
        have escaped : escapeAll false run ('"' :: cs) ++ '"' :: rest =
            '\\' :: (['"'] ++ (escapeAll false 0 cs ++ '"' :: rest)) := rfl
        rw [escaped, basic?_escaped escapes_mark, ih]
        rfl
      · rw [escapeAll_cons mark]
        simp only [Bool.false_and, Bool.false_eq_true, if_false, List.append_assoc]
        rw [basic?_escape mark, ih]
        rfl

theorem literal?_append {cs : List Char} (plain : ∀ c ∈ cs, isPlain c = true)
    (no_mark : '\x27' ∉ cs) (rest : List Char) :
    literal? (cs ++ '\x27' :: rest) = some (cs, rest) := by
  induction cs with
  | nil => rfl
  | cons c cs ih =>
      obtain ⟨here, later⟩ := List.forall_mem_cons.mp plain
      obtain ⟨other, no_mark⟩ := List.ne_and_not_mem_of_not_mem_cons no_mark
      rw [List.cons_append, literal?, if_pos here, ih later no_mark]
      · rfl
      · exact fun mark => other mark.symm

/-! ## On several lines -/

section Marks

variable {mark c : Char} {k : Nat} {rest : List Char}

/-- Up to two marks right before the closing ones belong to the text. -/
theorem close?_of_marks (few : k ≤ 2) (stops : Stops (· == mark) rest) :
    close? mark (List.replicate k mark ++ mark :: mark :: mark :: rest) =
      some (List.replicate k mark, rest) := by
  have others : ∀ n, (rest.take n).takeWhile (· == mark) = [] := by
    intro n
    cases n with
    | zero => rfl
    | succ n =>
        cases rest with
        | nil => rfl
        | cons c rest =>
            rw [List.take_succ_cons, List.takeWhile_cons, Scan.stops_cons.mp stops]
            rfl
  obtain rfl | rfl | rfl : k = 0 ∨ k = 1 ∨ k = 2 := by omega
  all_goals simp [close?, others, List.replicate_succ]

/-- Fewer than three marks close nothing. -/
theorem close?_of_other (few : k ≤ 2) (other : c ≠ mark) :
    close? mark (List.replicate k mark ++ c :: rest) = none := by
  obtain rfl | rfl | rfl : k = 0 ∨ k = 1 ∨ k = 2 := by omega
  all_goals simp [close?, List.replicate_succ, other]

end Marks

/-- The front of escaped text: marks that are not too many, and something else unless the text is
over. -/
theorem escapeAll_front (cs : List Char) :
    ∀ run, ∃ k ≤ 2 - run, (cs = List.replicate k '"' ∧ escapeAll true run cs = cs) ∨
      ∃ c tail, c ≠ '"' ∧ escapeAll true run cs = List.replicate k '"' ++ c :: tail := by
  induction cs with
  | nil => exact fun run => ⟨0, Nat.zero_le _, .inl ⟨rfl, rfl⟩⟩
  | cons c cs ih =>
      intro run
      by_cases mark : c = '"'
      · subst mark
        by_cases full : 2 ≤ run
        · refine ⟨0, Nat.zero_le _, .inr ⟨'\\', '"' :: escapeAll true 0 cs, by decide, ?_⟩⟩
          simp [escapeAll, full]
        · have written : escapeAll true run ('"' :: cs) = '"' :: escapeAll true (run + 1) cs := by
            simp [escapeAll, full]
          obtain ⟨k, few, whole | ⟨c, tail, other, front⟩⟩ := ih (run + 1)
          · refine ⟨k + 1, by omega, .inl ⟨?_, ?_⟩⟩
            · rw [List.replicate_succ, ← whole.1]
            · rw [written, whole.2]
          · refine ⟨k + 1, by omega, .inr ⟨c, tail, other, ?_⟩⟩
            rw [written, front, List.replicate_succ, List.cons_append]
      · refine ⟨0, Nat.zero_le _, .inr ?_⟩
        rw [escapeAll_cons mark]
        split
        · exact ⟨c, _, mark, rfl⟩
        · obtain ⟨same, -, -⟩ | ⟨word, written, -⟩ := escape_cases c
          · exact ⟨c, _, mark, by rw [same]; rfl⟩
          · exact ⟨'\\', _, by decide, by rw [written]; rfl⟩

theorem multiBasic?_closed {cs : List Char} {closed}
    (found : close? '"' ('"' :: cs) = some closed) : multiBasic? ('"' :: cs) = some closed := by
  rw [multiBasic?, found]

theorem multiBasic?_mark {cs : List Char} (found : close? '"' ('"' :: cs) = none) :
    multiBasic? ('"' :: cs) = (multiBasic? cs).map (onto '"') := by
  rw [multiBasic?, found]

theorem multiBasic?_line (cs : List Char) :
    multiBasic? ('\n' :: cs) = (multiBasic? cs).map (onto '\n') := by
  rw [multiBasic?]
  · rfl
  · decide
  · decide

theorem multiBasic?_escapeAll {rest : List Char} (stops : Stops (· == '"') rest) (cs : List Char) :
    ∀ run, multiBasic? (escapeAll true run cs ++ '"' :: '"' :: '"' :: rest) = some (cs, rest) := by
  induction cs with
  | nil =>
      intro run
      exact multiBasic?_closed (close?_of_marks (Nat.zero_le 2) stops)
  | cons c cs ih =>
      intro run
      by_cases mark : c = '"'
      · subst mark
        by_cases full : 2 ≤ run
        · have escaped : escapeAll true run ('"' :: cs) ++ '"' :: '"' :: '"' :: rest =
              '\\' :: (['"'] ++ (escapeAll true 0 cs ++ '"' :: '"' :: '"' :: rest)) := by
            simp [escapeAll, full]
          rw [escaped, multiBasic?_escaped escapes_mark, ih]
          rfl
        · have written : escapeAll true run ('"' :: cs) = '"' :: escapeAll true (run + 1) cs := by
            simp [escapeAll, full]
          -- whether a mark closes the text shows in the marks that follow it
          obtain ⟨k, few, ⟨marks, whole⟩ | ⟨c, tail, other, front⟩⟩ :=
            escapeAll_front ('"' :: cs) run
          · have closes : close? '"' ('"' :: cs ++ '"' :: '"' :: '"' :: rest) =
                some ('"' :: cs, rest) := by
              rw [marks]
              exact close?_of_marks (by omega) stops
            rw [whole]
            exact multiBasic?_closed closes
          · have goesOn : close? '"' ('"' :: (escapeAll true (run + 1) cs ++
                '"' :: '"' :: '"' :: rest)) = none := by
              rw [← List.cons_append, ← written, front, List.append_assoc]
              exact close?_of_other (by omega) other
            rw [written, List.cons_append, multiBasic?_mark goesOn, ih]
            rfl
      · rw [escapeAll_cons mark]
        split
        · rename_i newline
          simp only [Bool.true_and, beq_iff_eq] at newline
          subst newline
          rw [List.singleton_append, List.cons_append, multiBasic?_line, ih]
          rfl
        · rw [List.append_assoc, multiBasic?_escape mark, ih]
          rfl

theorem multiLiteral?_closed {cs : List Char} {closed}
    (found : close? '\x27' ('\x27' :: cs) = some closed) :
    multiLiteral? ('\x27' :: cs) = some closed := by
  rw [multiLiteral?, found]

theorem multiLiteral?_mark {cs : List Char} (found : close? '\x27' ('\x27' :: cs) = none) :
    multiLiteral? ('\x27' :: cs) = (multiLiteral? cs).map (onto '\x27') := by
  rw [multiLiteral?, found]

theorem multiLiteral?_cons {c : Char} (other : c ≠ '\x27') (writable : needsEscape c = false)
    (cs : List Char) : multiLiteral? (c :: cs) = (multiLiteral? cs).map (onto c) := by
  rw [multiLiteral?]
  · by_cases newline : c = '\n'
    · subst newline
      rfl
    · have plain : isPlain c = true := by simpa [needsEscape, newline] using writable
      split
      · rename_i found
        rw [newline?_of_plain plain] at found
        cases found
      · rw [if_pos plain]
  · exact other

/-- The front of a text: the run of marks there, and something else unless the text is over. -/
theorem longestRun_front (mark : Char) (cs : List Char) :
    ∃ k ≤ longestRun mark cs, cs = List.replicate k mark ∨
      ∃ c tail, c ≠ mark ∧ cs = List.replicate k mark ++ c :: tail := by
  cases cs with
  | nil => exact ⟨0, Nat.zero_le _, .inl rfl⟩
  | cons first cs =>
      have run : (first :: cs).takeWhile (· == mark) =
          List.replicate ((first :: cs).takeWhile (· == mark)).length mark :=
        List.eq_replicate_iff.mpr ⟨rfl, fun c here => by simpa using List.mem_takeWhile_imp here⟩
      have split := (List.takeWhile_append_dropWhile (p := (· == mark)) (l := first :: cs)).symm
      refine ⟨_, Nat.le_max_left _ _, ?_⟩
      rw [run] at split
      cases left : (first :: cs).dropWhile (· == mark) with
      | nil => exact .inl (by rwa [left, List.append_nil] at split)
      | cons c tail =>
          refine .inr ⟨c, tail, ?_, by rwa [left] at split⟩
          have := List.head?_dropWhile_not (· == mark) (first :: cs)
          rw [left] at this
          simpa using this

theorem longestRun_le_cons (mark c : Char) (cs : List Char) :
    longestRun mark cs ≤ longestRun mark (c :: cs) :=
  Nat.le_max_right _ _

theorem multiLiteral?_append {rest : List Char} (stops : Stops (· == '\x27') rest) {cs : List Char}
    (writable : ∀ c ∈ cs, needsEscape c = false) (few : longestRun '\x27' cs ≤ 2) :
    multiLiteral? (cs ++ '\x27' :: '\x27' :: '\x27' :: rest) = some (cs, rest) := by
  induction cs with
  | nil => exact multiLiteral?_closed (close?_of_marks (Nat.zero_le 2) stops)
  | cons c cs ih =>
      obtain ⟨here, later⟩ := List.forall_mem_cons.mp writable
      have read := ih later (Nat.le_trans (longestRun_le_cons _ c cs) few)
      by_cases mark : c = '\x27'
      · subst mark
        obtain ⟨k, atMost, marks | ⟨c, tail, other, front⟩⟩ :=
          longestRun_front '\x27' ('\x27' :: cs)
        · have closes : close? '\x27' ('\x27' :: cs ++ '\x27' :: '\x27' :: '\x27' :: rest) =
              some ('\x27' :: cs, rest) := by
            rw [marks]
            exact close?_of_marks (Nat.le_trans atMost few) stops
          exact multiLiteral?_closed closes
        · have goesOn : close? '\x27' ('\x27' :: (cs ++ '\x27' :: '\x27' :: '\x27' :: rest)) =
              none := by
            rw [← List.cons_append, front, List.append_assoc]
            exact close?_of_other (Nat.le_trans atMost few) other
          rw [List.cons_append, multiLiteral?_mark goesOn, read]
          rfl
      · rw [List.cons_append, multiLiteral?_cons mark here, read]
        rfl

/-! ## Any form -/

/-- Whether a character may open or close text. -/
def isMark (c : Char) : Bool := c == '"' || c == '\x27'

theorem stops_of_isMark {mark : Char} {rest : List Char} (quotes : isMark mark = true)
    (stops : Stops isMark rest) : Stops (· == mark) rest := by
  intro c here
  have other := stops c here
  by_contra same
  simp only [Bool.not_eq_false, beq_iff_eq] at same
  rw [same, quotes] at other
  cases other

/-- Text on one line is not taken for text with tripled marks. -/
theorem string?_of_line {mark : Char} {inner rest : List Char} (front : inner.head? ≠ some mark)
    (quotes : isMark mark = true) (stops : Stops isMark rest) :
    string? (mark :: (inner ++ mark :: rest)) = quoted? (mark :: (inner ++ mark :: rest)) := by
  have no_third : ∀ left, inner ++ mark :: rest ≠ mark :: mark :: left := by
    intro left tripled
    cases inner with
    | nil =>
        have third := (List.cons.inj tripled).2
        subst third
        rw [Scan.stops_cons.mp stops] at quotes
        cases quotes
    | cons c inner => exact front (congrArg some (List.cons.inj tripled).1)
  unfold string?
  split
  · rename_i found
    obtain ⟨rfl, tripled⟩ := List.cons.inj found
    exact absurd tripled (no_third _)
  · rename_i found
    obtain ⟨rfl, tripled⟩ := List.cons.inj found
    exact absurd tripled (no_third _)
  · rfl

theorem head?_escape {c : Char} (other : c ≠ '"') (cs : List Char) :
    (escape c ++ cs).head? ≠ some '"' := by
  obtain ⟨same, -, -⟩ | ⟨word, written, -⟩ := escape_cases c
  · rw [same]
    exact fun mark => other (Option.some.inj mark)
  · rw [written]
    exact nofun

theorem head?_escapeAll (cs : List Char) (run : Nat) :
    (escapeAll false run cs).head? ≠ some '"' := by
  cases cs with
  | nil => exact nofun
  | cons c cs =>
      by_cases mark : c = '"'
      · subst mark
        exact nofun
      · rw [escapeAll_cons mark]
        exact head?_escape mark _

theorem newline?_escape (c : Char) (cs : List Char) : newline? (escape c ++ cs) = none := by
  obtain ⟨same, plain, -⟩ | ⟨word, written, -⟩ := escape_cases c
  · rw [same]
    exact newline?_of_plain plain cs
  · rw [written]
    rfl

theorem isPlain_of_writable {c : Char} (writable : needsEscape c = false) (same_line : c ≠ '\n') :
    isPlain c = true := by
  simpa [needsEscape, same_line] using writable

/-- A line end right after the opening marks is dropped, and without one nothing is. -/
theorem skipFirstLine_opening {cs text : List Char}
    (starts : '\n' ∉ cs → newline? text = none) :
    skipFirstLine ((if cs.contains '\n' then ['\n'] else []) ++ text) = text := by
  split
  · rfl
  · rename_i one_line
    rw [List.nil_append, skipFirstLine, starts (by simpa using one_line)]
    rfl

theorem newline?_escapeAll {cs : List Char} (one_line : '\n' ∉ cs) (rest : List Char) :
    newline? (escapeAll true 0 cs ++ '"' :: rest) = none := by
  cases cs with
  | nil => rfl
  | cons c cs =>
      obtain ⟨same_line, -⟩ := List.ne_and_not_mem_of_not_mem_cons one_line
      by_cases mark : c = '"'
      · subst mark
        rfl
      · have written : (true && c == '\n') = false := by simpa using same_line.symm
        rw [escapeAll_cons mark, written, List.append_assoc]
        exact newline?_escape c _

theorem newline?_append {cs : List Char} (writable : ∀ c ∈ cs, needsEscape c = false)
    (one_line : '\n' ∉ cs) (rest : List Char) : newline? (cs ++ '\x27' :: rest) = none := by
  cases cs with
  | nil => rfl
  | cons c cs =>
      obtain ⟨same_line, -⟩ := List.ne_and_not_mem_of_not_mem_cons one_line
      exact newline?_of_plain (isPlain_of_writable (writable c List.mem_cons_self) same_line.symm) _

namespace Quoting

theorem of_literal {cs : List Char} (form : ofText cs = .literal) :
    (∀ c ∈ cs, isPlain c = true) ∧ '\x27' ∉ cs := by
  simp only [ofText] at form
  split at form
  · cases form
  · split at form
    · rename_i chosen
      simp only [Bool.and_eq_true, Bool.not_eq_true', List.any_eq_false, List.contains_eq_mem,
        decide_eq_false_iff_not, Bool.not_eq_true] at chosen
      obtain ⟨⟨writable, one_line⟩, no_mark⟩ := chosen
      exact ⟨fun c here => isPlain_of_writable (writable c here) fun newline =>
        one_line (newline ▸ here), no_mark⟩
    · split at form
      · cases form
      · split at form
        · cases form
        · split at form <;> cases form

theorem of_multiLiteral {cs : List Char} (form : ofText cs = .multiLiteral) :
    (∀ c ∈ cs, needsEscape c = false) ∧ longestRun '\x27' cs ≤ 2 := by
  simp only [ofText] at form
  split at form
  · cases form
  · split at form
    · cases form
    · split at form
      · cases form
      · split at form
        · rename_i chosen
          simp only [Bool.and_eq_true, Bool.not_eq_true', List.any_eq_false, decide_eq_true_eq,
            Bool.not_eq_true] at chosen
          exact chosen
        · split at form <;> cases form

end Quoting

/-- Text is read back in whatever form it is written. -/
theorem string?_quote (cs : List Char) {rest : List Char} (stops : Stops isMark rest) :
    string? (quote cs ++ rest) = some (cs, rest) := by
  unfold quote
  cases form : Quoting.ofText cs with
  | basic =>
      simp only [List.append_assoc, List.cons_append, List.nil_append]
      rw [string?_of_line (head?_escapeAll cs 0) (by decide) stops]
      exact basic?_escapeAll cs rest 0
  | literal =>
      obtain ⟨plain, no_mark⟩ := Quoting.of_literal form
      have front : cs.head? ≠ some '\x27' := fun mark => no_mark (List.mem_of_head? mark)
      simp only [List.append_assoc, List.cons_append, List.nil_append]
      rw [string?_of_line front (by decide) stops]
      exact literal?_append plain no_mark rest
  | multiBasic =>
      have starts : '\n' ∉ cs →
          newline? (escapeAll true 0 cs ++ '"' :: '"' :: '"' :: rest) = none :=
        fun one_line => newline?_escapeAll one_line _
      simp only [List.append_assoc, List.cons_append, List.nil_append]
      rw [string?, skipFirstLine_opening starts]
      exact multiBasic?_escapeAll (stops_of_isMark (by decide) stops) cs 0
  | multiLiteral =>
      obtain ⟨writable, few⟩ := Quoting.of_multiLiteral form
      have starts : '\n' ∉ cs → newline? (cs ++ '\x27' :: '\x27' :: '\x27' :: rest) = none :=
        fun one_line => newline?_append writable one_line _
      simp only [List.append_assoc, List.cons_append, List.nil_append]
      rw [string?, skipFirstLine_opening starts]
      exact multiLiteral?_append (stops_of_isMark (by decide) stops) writable few

end DiagnosticGateway.Toml
