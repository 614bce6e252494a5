import DiagnosticGateway.Net.SocketAddress
import DiagnosticGateway.Proofs.Text.Digits
import Mathlib.Data.List.TakeWhile

/-! # Addresses are read back

The text of an address with a port gives back the address, up to a flow label. What takes an
argument is version 6: the reader tells a version 4 address from a group by the point after its
first number, and two colons stand for as many zero groups as the others leave room for.
-/

namespace DiagnosticGateway.Net

open Numeral (isDigit)
open Scan (Stops)

/-- The flow label, which an address of version 4 does not have. -/
def SocketAddress.flowLabel : SocketAddress → UInt32
  | .v4 .. => 0
  | .v6 _ flowLabel _ _ => flowLabel

/-! ## Numbers -/

section

variable {radix bound n : Nat} {maxDigits : Option Nat} {leadingZero : Bool} {rest : List Char}

theorem guard_of_pos {p : Prop} [Decidable p] (holds : p) : guard p = some () := if_pos holds

theorem number?_toDigits (large : 1 < radix) (small : radix ≤ 16) (le : n ≤ bound)
    (short : ∀ count ∈ maxDigits, (Nat.toDigits radix n).length ≤ count)
    (stops : Stops (isDigit radix) rest) :
    number? radix bound maxDigits leadingZero (Nat.toDigits radix n ++ rest) = some (n, rest) := by
  have all := Numeral.isDigit_of_mem_toDigits large small n
  have taken : (Nat.toDigits radix n ++ rest).takeWhile
      (fun c => (Numeral.digit? radix c).isSome) = Nat.toDigits radix n :=
    Scan.takeWhile_append all stops
  have left : (Nat.toDigits radix n ++ rest).dropWhile
      (fun c => (Numeral.digit? radix c).isSome) = rest :=
    Scan.dropWhile_append all stops
  have fits : maxDigits.all ((Nat.toDigits radix n).length ≤ ·) = true := by
    cases maxDigits with
    | none => rfl
    | some count => simpa using short count rfl
  have no_zero : (leadingZero || decide ((Nat.toDigits radix n).length ≤ 1) ||
      (Nat.toDigits radix n).head? != some '0') = true := by
    by_cases zero : n = 0
    · simp [zero]
    · simp [Numeral.head?_toDigits large small zero]
  unfold number?
  dsimp only
  rw [taken, left]
  refine Option.bind_eq_some_iff.mpr ⟨n, Numeral.plain?_toDigits large small n, ?_⟩
  refine Option.bind_eq_some_iff.mpr ⟨(), guard_of_pos fits, ?_⟩
  refine Option.bind_eq_some_iff.mpr ⟨(), guard_of_pos no_zero, ?_⟩
  exact Option.bind_eq_some_iff.mpr ⟨(), guard_of_pos le, rfl⟩

/-- There is no number before anything but a digit. -/
theorem number?_of_stops (stops : Stops (isDigit radix) rest) :
    number? radix bound maxDigits leadingZero rest = none := by
  have nothing : rest.takeWhile (fun c => (Numeral.digit? radix c).isSome) = [] :=
    Scan.takeWhile_append (List.forall_mem_nil _) stops
  unfold number?
  dsimp only
  rw [nothing]
  rfl

/-- A number takes all digits in front of what is left. -/
theorem eq_dropWhile_of_number? {cs : List Char}
    (read : number? radix bound maxDigits leadingZero cs = some (n, rest)) :
    rest = cs.dropWhile (isDigit radix) := by
  unfold number? at read
  obtain ⟨value, -, read⟩ := Option.bind_eq_some_iff.mp read
  obtain ⟨-, -, read⟩ := Option.bind_eq_some_iff.mp read
  obtain ⟨-, -, read⟩ := Option.bind_eq_some_iff.mp read
  obtain ⟨-, -, read⟩ := Option.bind_eq_some_iff.mp read
  cases read
  rfl

end

/-! ## Version 4 -/

theorem octet?_decimal (b : UInt8) {rest : List Char} (stops : Stops (isDigit 10) rest) :
    octet? (decimal b.toNat ++ rest) = some (b, rest) := by
  have short : (Nat.toDigits 10 b.toNat).length ≤ 3 := by
    rw [Nat.length_toDigits_le_iff (by decide) (by decide)]
    exact Nat.lt_trans b.toNat_lt (by decide)
  have le : b.toNat ≤ 255 := Nat.le_of_lt_succ b.toNat_lt
  rw [octet?, decimal, number?_toDigits (by decide) (by decide) le (by simpa using short) stops]
  simp

theorem ipv4?_text (ip : Ipv4) {rest : List Char} (stops : Stops (isDigit 10) rest) :
    ipv4? (ip.text ++ rest) = some (ip, rest) := by
  have point : ∀ rest, Stops (isDigit 10) ('.' :: rest) :=
    fun rest => Scan.stops_cons.mpr (by decide)
  simp only [ipv4?, Ipv4.text, List.append_assoc, List.cons_append, octet?_decimal _ (point _),
    octet?_decimal _ stops, Scan.char?_cons, Option.bind_eq_bind, Option.bind_some,
    Option.pure_def]

theorem ipv4?_of_stops {rest : List Char} (stops : Stops (isDigit 10) rest) :
    ipv4? rest = none := by
  rw [ipv4?, octet?, number?_of_stops stops]
  rfl

theorem port?_decimal (port : UInt16) :
    port? (':' :: decimal port.toNat) = some (port, []) := by
  have le : port.toNat ≤ 0xFFFF := Nat.le_of_lt_succ port.toNat_lt
  have read : number? 10 0xFFFF none true (decimal port.toNat ++ []) = some (port.toNat, []) :=
    number?_toDigits (by decide) (by decide) le nofun Scan.stops_nil
  rw [List.append_nil] at read
  simp only [port?, Scan.char?_cons, Option.bind_eq_bind, Option.bind_some, read]
  simp

/-! ## Groups -/

/-- Where the groups of an address end: no digit comes next, no point, and no colon before a
digit. -/
structure Closes (rest : List Char) : Prop where
  stops : Stops (isDigit 16) rest
  no_point : rest.head? ≠ some '.'
  no_group : ∀ left, rest = ':' :: left → Stops (isDigit 16) left

theorem stops_of_hex {rest : List Char} (stops : Stops (isDigit 16) rest) :
    Stops (isDigit 10) rest := by
  intro c here
  have not_hex := stops c here
  simp only [isDigit, Numeral.digit?, Option.isSome_eq_false_iff, Option.isNone_iff_eq_none,
    Option.filter_eq_none_iff, decide_eq_true_eq] at not_hex ⊢
  exact fun d found small => not_hex d found (by omega)

theorem group?_toDigits (g : UInt16) {rest : List Char} (stops : Stops (isDigit 16) rest) :
    group? (Nat.toDigits 16 g.toNat ++ rest) = some (g, rest) := by
  have short : (Nat.toDigits 16 g.toNat).length ≤ 4 := by
    rw [Nat.length_toDigits_le_iff (by decide) (by decide)]
    exact g.toNat_lt
  have le : g.toNat ≤ 0xFFFF := Nat.le_of_lt_succ g.toNat_lt
  rw [group?, number?_toDigits (by decide) (by decide) le (by simpa using short) stops]
  simp

theorem mem_or_head_of_dropWhile {p : Char → Bool} {c : Char} {word rest left : List Char}
    (stops : Stops p rest) (dropped : (word ++ rest).dropWhile p = c :: left) :
    c ∈ word ∨ rest.head? = some c := by
  induction word with
  | nil =>
      have stays : rest.dropWhile p = rest := Scan.dropWhile_append (List.forall_mem_nil _) stops
      rw [List.nil_append, stays] at dropped
      exact .inr (by rw [dropped]; rfl)
  | cons first word ih =>
      rw [List.cons_append, List.dropWhile_cons] at dropped
      split at dropped
      · exact (ih dropped).imp_left (List.mem_cons_of_mem _)
      · cases dropped
        exact .inl List.mem_cons_self

/-- A group is not the start of a version 4 address unless a point follows. -/
theorem ipv4?_toDigits (n : Nat) {rest : List Char} (stops : Stops (isDigit 16) rest)
    (no_point : rest.head? ≠ some '.') : ipv4? (Nat.toDigits 16 n ++ rest) = none := by
  have no_point_left :
      Scan.char? '.' ((Nat.toDigits 16 n ++ rest).dropWhile (isDigit 10)) = none := by
    cases dropped : (Nat.toDigits 16 n ++ rest).dropWhile (isDigit 10) with
    | nil => rfl
    | cons c left =>
        refine if_neg fun point => ?_
        subst point
        obtain here | here := mem_or_head_of_dropWhile (stops_of_hex stops) dropped
        · have digit := Numeral.isDigit_of_mem_toDigits (by decide) (by decide) n _ here
          exact absurd digit (by decide)
        · exact no_point here
  rw [ipv4?]
  cases read : octet? (Nat.toDigits 16 n ++ rest) with
  | none => rfl
  | some first =>
      have left : first.2 = (Nat.toDigits 16 n ++ rest).dropWhile (isDigit 10) := by
        rw [octet?] at read
        obtain ⟨taken, number, made⟩ := Option.bind_eq_some_iff.mp read
        cases made
        exact eq_dropWhile_of_number? number
      simp only [Option.bind_eq_bind, Option.bind_some, left, no_point_left, Option.bind_none]

theorem groups_none {first : Bool} {cs : List Char}
    (nothing : ∀ left, colon? first cs = some left → Stops (isDigit 16) left) (n : Nat) :
    groups first n cs = ⟨[], false, cs⟩ := by
  cases n with
  | zero => rfl
  | succ n =>
      have no_ipv4 : colon? first cs >>= ipv4? = none := by
        cases colon : colon? first cs with
        | none => rfl
        | some left => exact ipv4?_of_stops (stops_of_hex (nothing left colon))
      have no_group : colon? first cs >>= group? = none := by
        cases colon : colon? first cs with
        | none => rfl
        | some left => rw [Option.bind_eq_bind, Option.bind_some, group?,
            number?_of_stops (nothing left colon)]; rfl
      simp only [groups, no_ipv4, no_group, ite_self]

theorem groups_cons {first : Bool} {cs rest : List Char} {g : UInt16} (n : Nat)
    (colon : colon? first cs = some (Nat.toDigits 16 g.toNat ++ rest))
    (stops : Stops (isDigit 16) rest) (no_point : rest.head? ≠ some '.') :
    groups first (n + 1) cs =
      ⟨g :: (groups false n rest).groups, (groups false n rest).dotted,
        (groups false n rest).rest⟩ := by
  have no_ipv4 : colon? first cs >>= ipv4? = none := by
    rw [colon, Option.bind_eq_bind, Option.bind_some, ipv4?_toDigits _ stops no_point]
  have one_group : colon? first cs >>= group? = some (g, rest) := by
    rw [colon, Option.bind_eq_bind, Option.bind_some, group?_toDigits g stops]
  simp only [groups, no_ipv4, one_group, ite_self]

/-- Groups that come after others. -/
def moreText (gs : List UInt16) : List Char := gs.flatMap fun g => ':' :: Nat.toDigits 16 g.toNat

theorem groupsText_cons (g : UInt16) (gs : List UInt16) :
    groupsText (g :: gs) = Nat.toDigits 16 g.toNat ++ moreText gs := by
  induction gs generalizing g with
  | nil => exact (List.append_nil _).symm
  | cons next gs ih =>
      rw [groupsText, ih next]
      · rfl
      · exact List.cons_ne_nil _ _

theorem moreText_closes {rest : List Char} (closes : Closes rest) (gs : List UInt16) :
    Stops (isDigit 16) (moreText gs ++ rest) ∧ (moreText gs ++ rest).head? ≠ some '.' := by
  cases gs with
  | nil => exact ⟨closes.stops, closes.no_point⟩
  | cons g gs => exact ⟨Scan.stops_cons.mpr (by decide), nofun⟩

theorem groups_moreText {rest : List Char} (closes : Closes rest) (gs : List UInt16) :
    ∀ n, gs.length ≤ n → groups false n (moreText gs ++ rest) = ⟨gs, false, rest⟩ := by
  induction gs with
  | nil =>
      intro n _
      refine groups_none (fun left colon => ?_) n
      simp only [colon?, moreText, List.flatMap_nil, List.nil_append] at colon
      cases rest with
      | nil => nomatch colon
      | cons c rest =>
          simp only [Bool.false_eq_true, if_false, Scan.char?, Option.ite_none_right_eq_some,
            Option.some.injEq] at colon
          obtain ⟨rfl, rfl⟩ := colon
          exact closes.no_group _ rfl
  | cons g gs ih =>
      intro n enough
      obtain ⟨n, rfl⟩ := Nat.exists_eq_add_one_of_ne_zero (Nat.ne_of_gt (Nat.lt_of_lt_of_le
        (Nat.succ_pos _) enough))
      have ⟨stops, no_point⟩ := moreText_closes closes gs
      have colon : colon? false (moreText (g :: gs) ++ rest) =
          some (Nat.toDigits 16 g.toNat ++ (moreText gs ++ rest)) := by
        simp only [moreText, List.flatMap_cons, List.cons_append, List.append_assoc]
        rfl
      rw [groups_cons n colon stops no_point, ih n (Nat.le_of_succ_le_succ enough)]

theorem groups_groupsText {rest : List Char} (closes : Closes rest) (gs : List UInt16) (n : Nat)
    (enough : gs.length ≤ n) : groups true n (groupsText gs ++ rest) = ⟨gs, false, rest⟩ := by
  cases gs with
  | nil =>
      refine groups_none (fun left colon => ?_) n
      cases colon
      exact closes.stops
  | cons g gs =>
      obtain ⟨n, rfl⟩ := Nat.exists_eq_add_one_of_ne_zero (Nat.ne_of_gt (Nat.lt_of_lt_of_le
        (Nat.succ_pos _) enough))
      have ⟨stops, no_point⟩ := moreText_closes closes gs
      have colon : colon? true (groupsText (g :: gs) ++ rest) =
          some (Nat.toDigits 16 g.toNat ++ (moreText gs ++ rest)) := by
        rw [groupsText_cons, List.append_assoc]
        rfl
      rw [groups_cons n colon stops no_point,
        groups_moreText closes gs n (Nat.le_of_succ_le_succ enough)]

/-! ## Version 6 -/

/-- The longest run of zero groups is where it is said to be. -/
theorem take_longestZeros (gs : List UInt16) :
    (gs.drop (longestZeros gs).1).take (longestZeros gs).2 =
        List.replicate (longestZeros gs).2 0 ∧
      (longestZeros gs).1 + (longestZeros gs).2 ≤ gs.length := by
  induction gs with
  | nil => exact ⟨rfl, Nat.le_refl _⟩
  | cons g gs ih =>
      simp only [longestZeros]
      split
      · have run : (g :: gs).takeWhile (· == 0) = List.replicate (leadingZeros (g :: gs)) 0 :=
          List.eq_replicate_iff.mpr ⟨rfl, fun x here => by simpa using List.mem_takeWhile_imp here⟩
        have front := List.takeWhile_prefix (p := (· == (0 : UInt16))) (l := g :: gs)
        rw [List.prefix_iff_eq_take] at front
        refine ⟨?_, ?_⟩
        · rw [List.drop_zero, ← run, leadingZeros]
          exact front.symm
        · rw [Nat.zero_add]
          exact (List.takeWhile_sublist _).length_le
      · refine ⟨ih.1, ?_⟩
        rw [List.length_cons]
        omega

theorem split_longestZeros (gs : List UInt16) :
    gs = gs.take (longestZeros gs).1 ++ List.replicate (longestZeros gs).2 0 ++
      gs.drop ((longestZeros gs).1 + (longestZeros gs).2) := by
  conv => lhs; rw [← List.take_append_drop (longestZeros gs).1 gs,
    ← List.take_append_drop (longestZeros gs).2 (gs.drop (longestZeros gs).1),
    (take_longestZeros gs).1, List.drop_drop, ← List.append_assoc]

theorem Ipv6.ofGroups?_groups (ip : Ipv6) : Ipv6.ofGroups? ip.groups = some ip :=
  dif_pos ip.length_eq

theorem ipv6?_groupsText (ip : Ipv6) {rest : List Char} (closes : Closes rest) :
    ipv6? (groupsText ip.groups ++ rest) = some (ip, rest) := by
  have front := groups_groupsText closes ip.groups 8 (Nat.le_of_eq ip.length_eq)
  unfold ipv6?
  dsimp only
  rw [front]
  dsimp only
  rw [if_pos ip.length_eq]
  exact Option.bind_eq_some_iff.mpr ⟨ip, ip.ofGroups?_groups, rfl⟩

/-- What two colons stand for is told by the groups in front and those behind. -/
theorem ipv6?_of_groups {cs rest left : List Char} {front back : List UInt16} {dotted : Bool}
    {ip : Ipv6} (before : groups true 8 cs = ⟨front, false, ':' :: ':' :: rest⟩)
    (fewer : front.length ≠ 8)
    (after : groups true (7 - front.length) rest = ⟨back, dotted, left⟩)
    (whole : front ++ List.replicate (8 - front.length - back.length) 0 ++ back = ip.groups) :
    ipv6? cs = some (ip, left) := by
  unfold ipv6?
  dsimp only
  rw [before]
  dsimp only
  rw [if_neg fewer]
  refine Option.bind_eq_some_iff.mpr ⟨(), guard_of_pos rfl, ?_⟩
  simp only [Scan.char?_cons, Option.bind_eq_bind, Option.bind_some, after, whole,
    ip.ofGroups?_groups, Option.pure_def]

/-- Two colons stand for the zero groups between those in front and those behind. -/
theorem ipv6?_compressed (ip : Ipv6) {rest : List Char} (closes : Closes rest)
    {front back : List UInt16} {zeros : Nat} (several : 1 < zeros)
    (split : ip.groups = front ++ List.replicate zeros 0 ++ back) :
    ipv6? (groupsText front ++ ':' :: ':' :: (groupsText back ++ rest)) = some (ip, rest) := by
  have count : front.length + zeros + back.length = 8 := by
    rw [← ip.length_eq, split]
    simp only [List.length_append, List.length_replicate]
  have two_colons : Closes (':' :: ':' :: (groupsText back ++ rest)) := by
    refine ⟨Scan.stops_cons.mpr (by decide), nofun, fun left colon => ?_⟩
    cases colon
    exact Scan.stops_cons.mpr (by decide)
  have before := groups_groupsText two_colons front 8 (by omega)
  have after := groups_groupsText closes back (7 - front.length) (by omega)
  have between : 8 - front.length - back.length = zeros := by omega
  exact ipv6?_of_groups before (by omega) after (by rw [between, split])

/-- The groups of an address with an embedded one. -/
theorem Ipv6.groups_of_mapped {ip : Ipv6} {v4 : Ipv4} (mapped : ip.mapped? = some v4) :
    ip.groups = List.replicate 5 0 ++ [0xFFFF, .ofNat (256 * v4.a.toNat + v4.b.toNat),
      .ofNat (256 * v4.c.toNat + v4.d.toNat)] := by
  have joined : ∀ g : UInt16, UInt16.ofNat (256 * (UInt8.ofNat (g.toNat / 256)).toNat +
      (UInt8.ofNat (g.toNat % 256)).toNat) = g := by
    intro g
    have lt := g.toNat_lt
    have high : g.toNat / 256 % 256 = g.toNat / 256 := Nat.mod_eq_of_lt (by omega)
    rw [UInt8.toNat_ofNat', UInt8.toNat_ofNat', Nat.mod_mod, high, Nat.div_add_mod,
      UInt16.ofNat_toNat]
  unfold mapped? at mapped
  split at mapped
  · rename_i hi lo groups
    cases mapped
    rw [groups, joined, joined]
    rfl
  · nomatch mapped

theorem ipv6?_mapped {ip : Ipv6} {v4 : Ipv4} (mapped : ip.mapped? = some v4) {rest : List Char}
    (stops : Stops (isDigit 10) rest) :
    ipv6? ([':', ':', 'f', 'f', 'f', 'f', ':'] ++ v4.text ++ rest) = some (ip, rest) := by
  have before : ∀ cs, groups true 8 (':' :: cs) = ⟨[], false, ':' :: cs⟩ := fun cs =>
    groups_none (fun left colon => by cases colon; exact Scan.stops_cons.mpr (by decide)) 8
  have embedded : groups false 6 (':' :: (v4.text ++ rest)) =
      ⟨[.ofNat (256 * v4.a.toNat + v4.b.toNat), .ofNat (256 * v4.c.toNat + v4.d.toNat)], true,
        rest⟩ := by
    have colon : colon? false (':' :: (v4.text ++ rest)) = some (v4.text ++ rest) := rfl
    simp only [groups, colon, Option.bind_eq_bind, Option.bind_some, ipv4?_text v4 stops,
      Nat.reduceEqDiff, if_false]
  have ffff : colon? true ('f' :: 'f' :: 'f' :: 'f' :: ':' :: (v4.text ++ rest)) =
      some (Nat.toDigits 16 (0xFFFF : UInt16).toNat ++ (':' :: (v4.text ++ rest))) :=
    rfl
  have after := groups_cons 6 ffff (Scan.stops_cons.mpr (by decide)) nofun
  rw [embedded] at after
  rw [List.append_assoc]
  exact ipv6?_of_groups (before _) (by decide) after (ip.groups_of_mapped mapped).symm

theorem ipv6?_text (ip : Ipv6) {rest : List Char} (closes : Closes rest) :
    ipv6? (ip.text ++ rest) = some (ip, rest) := by
  rw [Ipv6.text]
  split
  · rename_i mapped
    exact ipv6?_mapped mapped (stops_of_hex closes.stops)
  · simp only
    split
    · rename_i several
      rw [List.append_assoc]
      exact ipv6?_compressed ip closes several (split_longestZeros ip.groups)
    · exact ipv6?_groupsText ip closes

/-! ## Whole addresses -/

theorem scope_text (s : UInt32) (rest : List Char) :
    scope (scopeText s ++ ']' :: rest) = (s, ']' :: rest) := by
  rw [scopeText]
  split
  · rename_i zero
    rw [zero]
    rfl
  · have le : s.toNat ≤ 0xFFFFFFFF := Nat.le_of_lt_succ s.toNat_lt
    have stops : Stops (isDigit 10) (']' :: rest) := Scan.stops_cons.mpr (by decide)
    have read : number? 10 0xFFFFFFFF none true (decimal s.toNat ++ ']' :: rest) =
        some (s.toNat, ']' :: rest) :=
      number?_toDigits (by decide) (by decide) le nofun stops
    simp only [scope, List.cons_append, Scan.char?_cons, Option.bind_eq_bind, Option.bind_some,
      read, UInt32.ofNat_toNat]

theorem scopeText_closes (s : UInt32) (rest : List Char) : Closes (scopeText s ++ ']' :: rest) := by
  rw [scopeText]
  split <;> exact ⟨Scan.stops_cons.mpr (by decide), nofun, nofun⟩

/-- An address without a flow label is read back from its text. -/
theorem SocketAddress.ofText?_text (a : SocketAddress) (unlabelled : a.flowLabel = 0) :
    SocketAddress.ofText? a.text = some a := by
  cases a with
  | v4 host port =>
      have colon : Stops (isDigit 10) (':' :: decimal port.toNat) :=
        Scan.stops_cons.mpr (by decide)
      have read : v4? (SocketAddress.v4 host port).text = some (.v4 host port, []) := by
        simp only [v4?, text, ipv4?_text host colon, port?_decimal, Option.bind_eq_bind,
          Option.bind_some, Option.pure_def]
      rw [ofText?, read]
      rfl
  | v6 host flowLabel s port =>
      have zero : flowLabel = 0 := unlabelled
      subst zero
      have no_v4 : v4? (SocketAddress.v6 host 0 s port).text = none := by
        rw [v4?, text, List.append_assoc, List.cons_append,
          ipv4?_of_stops (Scan.stops_cons.mpr (by decide))]
        rfl
      have read : v6? (SocketAddress.v6 host 0 s port).text = some (.v6 host 0 s port, []) := by
        simp only [v6?, text, List.cons_append, List.append_assoc, Scan.char?_cons,
          ipv6?_text host (scopeText_closes s _), scope_text, port?_decimal, Option.bind_eq_bind,
          Option.bind_some, Option.pure_def]
      rw [ofText?, no_v4, Option.orElse, read]

/-- No text gives a flow label. -/
theorem SocketAddress.flowLabel_of_ofText? {cs : List Char} {a : SocketAddress}
    (read : ofText? cs = some a) : a.flowLabel = 0 := by
  unfold ofText? at read
  split at read
  · rename_i found
    cases read
    cases v4 : v4? cs with
    | some answer =>
        simp only [v4, Option.orElse, Option.some.injEq] at found
        simp only [v4?, Option.bind_eq_bind, Option.bind_eq_some_iff, Option.pure_def,
          Option.some.injEq] at v4
        obtain ⟨_, _, _, _, made⟩ := v4
        rw [found] at made
        rw [← (Prod.mk.inj made).1]
        rfl
    | none =>
        simp only [v4, Option.orElse] at found
        simp only [v6?, Option.bind_eq_bind, Option.bind_eq_some_iff, Option.pure_def,
          Option.some.injEq] at found
        obtain ⟨_, _, _, _, _, _, _, _, made⟩ := found
        rw [← (Prod.mk.inj made).1]
        rfl
  · nomatch read

end DiagnosticGateway.Net
