import DiagnosticGateway.Text.Numeral
import DiagnosticGateway.Text.Scan
import Mathlib.Data.List.Basic

/-! # Numerals are read back

A numeral without leading zeros gives back its number, in every radix up to sixteen, as long as the
text after it does not go on with a digit.
-/

namespace DiagnosticGateway

namespace Scan

variable {p : Char → Bool} {word rest : List Char}

/-- A text does not start with a character of this class. -/
def Stops (p : Char → Bool) (rest : List Char) : Prop := ∀ c ∈ rest.head?, p c = false

theorem stops_nil : Stops p [] := nofun

theorem stops_cons {c : Char} : Stops p (c :: rest) ↔ p c = false := by
  simp only [Stops, List.head?_cons, Option.mem_some_iff, forall_eq']

theorem takeWhile_append (all : ∀ c ∈ word, p c = true) (stops : Stops p rest) :
    (word ++ rest).takeWhile p = word := by
  rw [List.takeWhile_append_of_pos all]
  cases rest with
  | nil => exact List.append_nil _
  | cons c rest => rw [List.takeWhile_cons_of_neg, List.append_nil]; simp [stops_cons.mp stops]

theorem dropWhile_append (all : ∀ c ∈ word, p c = true) (stops : Stops p rest) :
    (word ++ rest).dropWhile p = rest := by
  rw [List.dropWhile_append_of_pos all]
  cases rest with
  | nil => rfl
  | cons c rest => rw [List.dropWhile_cons_of_neg]; simp [stops_cons.mp stops]

/-- A character of a class is not one outside of it. -/
theorem ne_of_class {c other : Char} (here : p c = true) (special : p other = false) :
    c ≠ other := by
  rintro rfl
  rw [here] at special
  cases special

theorem char?_cons (c : Char) (rest : List Char) : char? c (c :: rest) = some rest :=
  if_pos rfl

end Scan

namespace Hex

variable {c : Char} {d : Nat}

/-- A hexadecimal digit of either case. -/
def IsDigit (c : Char) : Prop :=
  ('0' ≤ c ∧ c ≤ '9') ∨ ('a' ≤ c ∧ c ≤ 'f') ∨ ('A' ≤ c ∧ c ≤ 'F')

theorem isDigit_iff : IsDigit c ↔ ∃ d, digit? c = some d := by
  unfold IsDigit digit?
  split_ifs <;> simp [*]

theorem IsDigit.val_le (digit : IsDigit c) : c.val ≤ 127 := by
  rcases digit with ⟨_, le⟩ | ⟨_, le⟩ | ⟨_, le⟩
  all_goals exact UInt32.le_trans le (by decide)

/-- A digit is the one that its value is written with, perhaps in upper case. -/
theorem digitChar_of_digit? (value : digit? c = some d) :
    d < 16 ∧ Nat.digitChar d = c.toLower := by
  have table : ∀ n < 128, ∀ d ∈ digit? (Char.ofNat n),
      d < 16 ∧ Nat.digitChar d = (Char.ofNat n).toLower := by
    decide
  have low : c.toNat < 128 :=
    Nat.lt_succ_of_le (UInt32.le_iff_toNat_le.mp (isDigit_iff.mpr ⟨d, value⟩).val_le)
  have this := table c.toNat low
  rw [Char.ofNat_toNat] at this
  exact this d value

end Hex

namespace Numeral

/-- Whether a character is a digit of the radix. -/
def isDigit (radix : Nat) (c : Char) : Bool := (digit? radix c).isSome

theorem digit?_digitChar {radix d : Nat} (small : radix ≤ 16) (lt : d < radix) :
    digit? radix (Nat.digitChar d) = some d := by
  have hex : ∀ d < 16, Hex.digit? (Nat.digitChar d) = some d := by decide
  rw [digit?, hex d (by omega), Option.filter_some, if_pos (by simpa using lt)]

theorem digits?_append (radix : Nat) (front back : List Char) :
    ∀ acc, digits? radix acc (front ++ back) =
      (digits? radix acc front >>= fun acc => digits? radix acc back) := by
  induction front with
  | nil => exact fun acc => rfl
  | cons c front ih =>
      intro acc
      rw [List.cons_append, digits?, digits?]
      cases digit? radix c with
      | none => rfl
      | some d => exact ih _

section

variable {radix : Nat}

theorem digits?_toDigits (large : 1 < radix) (small : radix ≤ 16) (n : Nat) :
    digits? radix 0 (Nat.toDigits radix n) = some n := by
  induction n using Nat.strongRecOn with
  | ind n ih =>
      by_cases single : n < radix
      · rw [Nat.toDigits_of_lt_base single, digits?, digit?_digitChar small single]
        simp only [Option.bind_eq_bind, Option.bind_some, digits?, Nat.zero_mul, Nat.zero_add]
      · have shorter : n / radix < n := Nat.div_lt_self (by omega) large
        have last : n % radix < radix := Nat.mod_lt n (by omega)
        rw [Nat.toDigits_of_base_le large (by omega), digits?_append, ih _ shorter]
        simp only [Option.bind_eq_bind, Option.bind_some, digits?, digit?_digitChar small last,
          Nat.div_add_mod']

theorem plain?_toDigits (large : 1 < radix) (small : radix ≤ 16) (n : Nat) :
    plain? radix (Nat.toDigits radix n) = some n := by
  have read := digits?_toDigits large small n
  cases digits : Nat.toDigits radix n with
  | nil => exact absurd digits Nat.toDigits_ne_nil
  | cons c rest => rwa [digits] at read

theorem isDigit_of_mem_toDigits (large : 1 < radix) (small : radix ≤ 16) (n : Nat) :
    ∀ c ∈ Nat.toDigits radix n, isDigit radix c = true := by
  induction n using Nat.strongRecOn with
  | ind n ih =>
      by_cases single : n < radix
      · rw [Nat.toDigits_of_lt_base single, List.forall_mem_singleton, isDigit,
          digit?_digitChar small single]
        rfl
      · have shorter : n / radix < n := Nat.div_lt_self (by omega) large
        have last : n % radix < radix := Nat.mod_lt n (by omega)
        rw [Nat.toDigits_of_base_le large (by omega), List.forall_mem_append]
        refine ⟨ih _ shorter, List.forall_mem_singleton.mpr ?_⟩
        rw [isDigit, digit?_digitChar small last]
        rfl

/-- Only the numeral of zero starts with a zero. -/
theorem head?_toDigits (large : 1 < radix) (small : radix ≤ 16) {n : Nat} (positive : n ≠ 0) :
    (Nat.toDigits radix n).head? ≠ some '0' := by
  have nonzero : ∀ d < 16, d ≠ 0 → Nat.digitChar d ≠ '0' := by decide
  induction n using Nat.strongRecOn with
  | ind n ih =>
      by_cases single : n < radix
      · rw [Nat.toDigits_of_lt_base single, List.head?_cons, ne_eq, Option.some.injEq]
        exact nonzero n (by omega) positive
      · have shorter : n / radix < n := Nat.div_lt_self (by omega) large
        have more : n / radix ≠ 0 := Nat.ne_of_gt (Nat.div_pos (by omega) (by omega))
        rw [Nat.toDigits_of_base_le large (by omega),
          List.head?_append_of_ne_nil _ Nat.toDigits_ne_nil]
        exact ih _ shorter more

end

end Numeral

end DiagnosticGateway
