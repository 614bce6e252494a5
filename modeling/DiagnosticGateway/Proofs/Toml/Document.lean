import DiagnosticGateway.Proofs.Toml.Value

/-! # Documents are read back

A document is written line by line and read line by line. Blank lines stand between its parts, and
they mean nothing. So a document whose keys need no quotation marks, and whose values are read back,
is read back as a whole.
-/

namespace DiagnosticGateway.Toml

open Scan (Stops)

/-! ## Joined lists -/

section Joined

variable {α β : Type}

theorem intercalate_cons_cons (separator first next : List α) (others : List (List α)) :
    separator.intercalate (first :: next :: others) =
      first ++ (separator ++ separator.intercalate (next :: others)) := by
  simp [List.intercalate]

theorem exists_intercalate_cons (separator first : List α) (others : List (List α)) :
    ∃ more, separator.intercalate (first :: others) = first ++ more := by
  cases others with
  | nil => exact ⟨[], by simp [List.intercalate]⟩
  | cons next others => exact ⟨_, intercalate_cons_cons separator first next others⟩

theorem flatMap_intercalate (f : α → List β) (separator : List α) (parts : List (List α)) :
    (separator.intercalate parts).flatMap f =
      (separator.flatMap f).intercalate (parts.map (·.flatMap f)) := by
  induction parts with
  | nil => rfl
  | cons part parts ih =>
      cases parts with
      | nil => simp [List.intercalate]
      | cons next parts =>
          rw [intercalate_cons_cons, List.flatMap_append, List.flatMap_append, ih, List.map_cons,
            List.map_cons, List.map_cons, intercalate_cons_cons]

theorem mem_intercalate {x : α} {separator : List α} {parts : List (List α)}
    (here : x ∈ separator.intercalate parts) : x ∈ separator ∨ x ∈ parts.flatten := by
  induction parts with
  | nil => nomatch here
  | cons part parts ih =>
      cases parts with
      | nil => exact .inr (by simpa [List.intercalate] using here)
      | cons next parts =>
          rw [intercalate_cons_cons, List.mem_append, List.mem_append] at here
          rw [List.flatten_cons, List.mem_append]
          obtain here | here | here := here
          · exact .inr (.inl here)
          · exact .inl here
          · exact (ih here).imp_right .inr

end Joined

/-! ## Keys -/

/-- A name that is written without quotation marks. -/
structure Bare (name : String) : Prop where
  nonempty : name ≠ ""
  plain : name.toList.all isBare = true

instance : DecidablePred Bare := fun name =>
  decidable_of_iff (name ≠ "" ∧ name.toList.all isBare)
    ⟨fun bare => ⟨bare.1, bare.2⟩, fun bare => ⟨bare.1, bare.2⟩⟩

theorem Bare.nameText_eq {name : String} (bare : Bare name) : nameText name = name.toList :=
  if_pos ⟨bare.nonempty, bare.plain⟩

/-- The first character of a bare name. -/
theorem Bare.exists_cons {name : String} (bare : Bare name) :
    ∃ c tail, name.toList = c :: tail ∧ isBare c = true := by
  cases shown : name.toList with
  | nil => exact absurd (String.toList_eq_nil_iff.mp shown) bare.nonempty
  | cons c tail =>
      have plain := bare.plain
      rw [shown, List.all_cons, Bool.and_eq_true] at plain
      exact ⟨c, tail, rfl, plain.1⟩

theorem isBlank_of_isBare {c : Char} (bare : isBare c = true) : isBlank c = false := by
  have no_space : c ≠ ' ' := Scan.ne_of_class bare (by decide)
  have no_tab : c ≠ '\t' := Scan.ne_of_class bare (by decide)
  simp [isBlank, no_space, no_tab]

theorem skipBlanks_cons {c : Char} (no_blank : isBlank c = false) (cs : List Char) :
    skipBlanks (c :: cs) = c :: cs :=
  List.dropWhile_cons_of_neg (by simp [no_blank])

theorem name?_of_bare {name : String} (bare : Bare name) {rest : List Char}
    (stops : Stops isBare rest) :
    name? (skipBlanks (name.toList ++ rest)) = some (name.toList, rest) := by
  have all : ∀ c ∈ name.toList, isBare c = true := List.all_eq_true.mp bare.plain
  have taken := Scan.takeWhile_append all stops
  have left := Scan.dropWhile_append all stops
  obtain ⟨c, tail, shown, first⟩ := bare.exists_cons
  rw [shown, List.cons_append] at taken left ⊢
  rw [skipBlanks_cons (isBlank_of_isBare first), name?, taken, left]

/-- What may follow a key: no more of a name, and no dot after blanks. -/
structure EndsKey (rest : List Char) : Prop where
  stops : Stops isBare rest
  no_dot : (skipBlanks rest).head? ≠ some '.'

theorem names?_text {rest : List Char} (ends : EndsKey rest) {names : List String}
    (bare : ∀ name ∈ names, Bare name) (some_name : names ≠ []) :
    ∀ count, names.length ≤ count →
      names? count (['.'].intercalate (names.map nameText) ++ rest) =
        some (names, skipBlanks rest) := by
  induction names with
  | nil => exact absurd rfl some_name
  | cons name names ih =>
      obtain ⟨here, later⟩ := List.forall_mem_cons.mp bare
      rintro (_ | count) enough
      · nomatch enough
      · cases names with
        | nil =>
            have alone : ['.'].intercalate ([name].map nameText) = name.toList := by
              simp [List.intercalate, here.nameText_eq]
            rw [alone, names?, name?_of_bare here ends.stops]
            simp only
            split
            · rename_i found
              exact absurd (by rw [found]; rfl) ends.no_dot
            · rw [String.ofList_toList]
        | cons next names =>
            have dotted : ['.'].intercalate ((name :: next :: names).map nameText) ++ rest =
                name.toList ++
                  '.' :: (['.'].intercalate ((next :: names).map nameText) ++ rest) := by
              rw [List.map_cons, List.map_cons, intercalate_cons_cons, here.nameText_eq,
                List.append_assoc]
              rfl
            rw [dotted, names?, name?_of_bare here (Scan.stops_cons.mpr (by decide))]
            have dot : ∀ cs, skipBlanks ('.' :: cs) = '.' :: cs := fun _ => rfl
            simp only [dot, ih later (List.cons_ne_nil _ _) count (Nat.le_of_succ_le_succ enough)]
            rw [String.ofList_toList]
            rfl

/-- A key of names that are written without quotation marks. -/
structure Key.Bare (key : Key) : Prop where
  names : ∀ name ∈ key.parents ++ [key.name], Toml.Bare name
  few : key.parents.length < maxNames

theorem Key.Bare.key?_text {key : Key} (bare : key.Bare) {rest : List Char} (ends : EndsKey rest) :
    key? (key.text ++ rest) = some (key, skipBlanks rest) := by
  have enough : (key.parents ++ [key.name]).length ≤ maxNames := by
    rw [List.length_append]
    exact bare.few
  have some_name : key.parents ++ [key.name] ≠ [] :=
    List.append_ne_nil_of_right_ne_nil _ (List.cons_ne_nil _ _)
  have read := names?_text ends bare.names some_name maxNames enough
  have made : Key.ofNames? (key.parents ++ [key.name]) = some key := by
    simp [Key.ofNames?]
  rw [key?, Key.text, read]
  simp only [Option.bind_eq_bind, Option.bind_some, made, Option.pure_def]

/-- The first character of a key. -/
theorem Key.Bare.exists_cons {key : Key} (bare : key.Bare) :
    ∃ c tail, key.text = c :: tail ∧ isBare c = true := by
  obtain ⟨first, others, split⟩ := List.exists_cons_of_ne_nil
    (List.append_ne_nil_of_right_ne_nil key.parents (List.cons_ne_nil key.name []))
  have here : Toml.Bare first := bare.names first (split ▸ List.mem_cons_self)
  obtain ⟨c, tail, shown, plain⟩ := here.exists_cons
  obtain ⟨more, joined⟩ := exists_intercalate_cons ['.'] (nameText first) (others.map nameText)
  refine ⟨c, tail ++ more, ?_, plain⟩
  rw [Key.text, split, List.map_cons, joined, here.nameText_eq, shown, List.cons_append]

/-! ## Lines -/

/-- An assignment that is read back. -/
structure Assignment.Fine (a : Assignment) : Prop where
  key : a.key.Bare
  value : Writable maxDepth a.value

theorem Assignment.Fine.assignment?_text {a : Assignment} (fine : a.Fine) (rest : List Char) :
    assignment? (value? maxDepth) (a.text ++ rest) = some (a, '\n' :: rest) := by
  have equals : EndsKey (' ' :: '=' :: ' ' :: (a.value.text ++ '\n' :: rest)) :=
    ⟨Scan.stops_cons.mpr (by decide), nofun⟩
  have blank : skipBlanks (' ' :: (a.value.text ++ '\n' :: rest)) =
      a.value.text ++ '\n' :: rest := by
    obtain ⟨c, tail, shown, starts⟩ := text_startsItem fine.value
    simp only [startsItem, Bool.and_eq_true, Bool.not_eq_true'] at starts
    rw [shown]
    exact skipBlanks_cons starts.1.1.1.1 _
  have key := fine.key.key?_text equals
  have value := value?_text fine.value _ (.newline rest)
  have shown : a.text ++ rest =
      a.key.text ++ ' ' :: '=' :: ' ' :: (a.value.text ++ '\n' :: rest) := by
    simp only [Assignment.text, List.append_assoc, List.cons_append, List.nil_append]
  have left : skipBlanks (' ' :: '=' :: ' ' :: (a.value.text ++ '\n' :: rest)) =
      '=' :: ' ' :: (a.value.text ++ '\n' :: rest) := rfl
  rw [assignment?, shown, key, left]
  simp only [Option.bind_eq_bind, Option.bind_some, Scan.char?_cons, blank, value, Option.pure_def]

/-- The key of a header. -/
def Header.key : Header → Key
  | .table key | .item key => key

def Line.text : Line → List Char
  | .blank => ['\n']
  | .assignment a => a.text
  | .header h => h.text

/-- A line that is read back. -/
def Line.Fine : Line → Prop
  | .blank => True
  | .assignment a => a.Fine
  | .header h => h.key.Bare

theorem endsKey_bracket (rest : List Char) : EndsKey (']' :: rest) :=
  ⟨Scan.stops_cons.mpr (by decide), nofun⟩

theorem header?_text {h : Header} (bare : h.key.Bare) (rest : List Char) :
    ∃ inner, h.text ++ rest = '[' :: inner ∧ header? inner = some (h, '\n' :: rest) := by
  have unchanged : ∀ rest, skipBlanks (']' :: rest) = ']' :: rest := fun _ => rfl
  cases h with
  | table key =>
      have read := bare.key?_text (endsKey_bracket ('\n' :: rest))
      refine ⟨key.text ++ ']' :: '\n' :: rest, ?_, ?_⟩
      · simp only [Header.text, List.append_assoc, List.cons_append, List.nil_append]
      · have no_bracket : ∀ left, key.text ++ ']' :: '\n' :: rest ≠ '[' :: left := by
          obtain ⟨c, tail, shown, plain⟩ := bare.exists_cons
          intro left found
          rw [Header.key] at shown
          rw [shown] at found
          exact Scan.ne_of_class plain (by decide) (List.cons.inj found).1
        rw [header?]
        · simp only [Header.key] at read
          simp only [read, unchanged, Scan.char?_cons, Option.bind_eq_bind, Option.bind_some,
            Option.pure_def]
        · exact no_bracket
  | item key =>
      have read := bare.key?_text (endsKey_bracket (']' :: '\n' :: rest))
      refine ⟨'[' :: (key.text ++ ']' :: ']' :: '\n' :: rest), ?_, ?_⟩
      · simp only [Header.text, List.append_assoc, List.cons_append, List.nil_append]
      · simp only [Header.key] at read
        simp only [header?, read, unchanged, Option.bind_eq_bind, Option.bind_some]
        rfl

/-- The first character of a line: neither a blank nor the mark that a text may start with. -/
theorem Line.Fine.exists_cons {line : Line} (fine : line.Fine) :
    ∃ c tail, line.text = c :: tail ∧ isBlank c = false ∧ c ≠ '\ufeff' := by
  cases line with
  | blank => exact ⟨_, _, rfl, by decide, by decide⟩
  | assignment a =>
      obtain ⟨c, tail, shown, plain⟩ := fine.key.exists_cons
      refine ⟨c, tail ++ [' ', '=', ' '] ++ a.value.text ++ ['\n'], ?_, isBlank_of_isBare plain,
        Scan.ne_of_class plain (by decide)⟩
      rw [Line.text, Assignment.text, shown]
      rfl
  | header h =>
      obtain ⟨inner, shown, -⟩ := header?_text fine []
      rw [List.append_nil] at shown
      exact ⟨_, inner, shown, by decide, by decide⟩

theorem content?_text {line : Line} (fine : line.Fine) (rest : List Char) :
    ∃ left, content? (line.text ++ rest) = some (line, left) ∧ lineEnd? left = some rest := by
  cases line with
  | blank => exact ⟨'\n' :: rest, rfl, rfl⟩
  | assignment a =>
      refine ⟨'\n' :: rest, ?_, rfl⟩
      have read := fine.assignment?_text rest
      obtain ⟨c, tail, shown, plain⟩ := fine.key.exists_cons
      have front : (Line.assignment a).text ++ rest =
          c :: (tail ++ [' ', '=', ' '] ++ a.value.text ++ ['\n'] ++ rest) := by
        rw [Line.text, Assignment.text, shown]
        rfl
      have other : ∀ mark, isBare mark = false →
          ∀ left, (Line.assignment a).text ++ rest ≠ mark :: left := by
        intro mark special left found
        rw [front] at found
        exact Scan.ne_of_class plain special (List.cons.inj found).1
      unfold content?
      split
      · rename_i found
        rw [front] at found
        cases found
      · rename_i found
        exact absurd found (other _ (by decide) _)
      · rename_i found
        exact absurd found (other _ (by decide) _)
      · rename_i found
        exact absurd found (other _ (by decide) _)
      · rename_i found
        exact absurd found (other _ (by decide) _)
      · rw [Line.text, read]
        rfl
  | header h =>
      obtain ⟨inner, shown, read⟩ := header?_text fine rest
      refine ⟨'\n' :: rest, ?_, rfl⟩
      rw [Line.text, shown, content?, read]
      rfl

/-- A line is read back. -/
theorem line?_text {line : Line} (fine : line.Fine) (rest : List Char) :
    line? (line.text ++ rest) = some (line, rest) := by
  obtain ⟨left, read, ends⟩ := content?_text fine rest
  obtain ⟨c, tail, shown, no_blank, -⟩ := fine.exists_cons
  have unchanged : skipBlanks (line.text ++ rest) = line.text ++ rest := by
    rw [shown]
    exact skipBlanks_cons no_blank _
  rw [line?, unchanged, read]
  simp only [Option.bind_eq_bind, Option.bind_some, ends, Option.pure_def]

theorem lines?_text {lines : List Line} (fine : ∀ line ∈ lines, line.Fine) :
    lines? (lines.flatMap Line.text) = some lines := by
  induction lines with
  | nil => rw [List.flatMap_nil, lines?, if_pos rfl]
  | cons line lines ih =>
      obtain ⟨here, later⟩ := List.forall_mem_cons.mp fine
      obtain ⟨c, tail, shown, -⟩ := here.exists_cons
      have nonempty : line.text ++ lines.flatMap Line.text ≠ [] := by
        rw [shown]
        exact List.cons_ne_nil _ _
      have shorter : (lines.flatMap Line.text).length <
          (line.text ++ lines.flatMap Line.text).length := by
        rw [shown, List.length_append, List.length_cons]
        omega
      rw [List.flatMap_cons, lines?, if_neg nonempty, line?_text here]
      simp only [shorter, dif_pos, ih later, Option.map_some]

/-! ## Documents -/

/-- The lines of a section. -/
def Section.lines (s : Section) : List Line :=
  .header s.header :: s.assignments.map .assignment

/-- The lines of a document without the blank ones. -/
def Document.content (d : Document) : List Line :=
  d.root.map .assignment ++ d.sections.flatMap Section.lines

/-- The lines of a document, in parts with a blank line between them. -/
def Document.parts (d : Document) : List (List Line) :=
  (if d.root.isEmpty then [] else [d.root.map .assignment]) ++ d.sections.map Section.lines

theorem Document.text_eq (d : Document) :
    d.text = ([Line.blank].intercalate d.parts).flatMap Line.text := by
  have assignments : ∀ as : List Assignment,
      (as.map Line.assignment).flatMap Line.text = as.flatMap Assignment.text := by
    intro as
    rw [List.flatMap_map]
    rfl
  have sections : ∀ s : Section, s.lines.flatMap Line.text = s.text := by
    intro s
    rw [Section.lines, List.flatMap_cons, assignments]
    rfl
  have shown : d.parts.map (·.flatMap Line.text) =
      (if d.root.isEmpty then [] else [d.root.flatMap Assignment.text]) ++
        d.sections.map Section.text := by
    rw [parts, List.map_append, List.map_map]
    congr 1
    · split
      · rfl
      · rw [List.map_singleton, assignments]
    · exact List.map_congr_left fun s _ => sections s
  rw [flatMap_intercalate, shown]
  rfl

theorem ofLines_blank (front back : List Line) :
    Document.ofLines (front ++ .blank :: back) = Document.ofLines (front ++ back) := by
  induction front with
  | nil => rfl
  | cons line front ih => cases line <;> simp only [List.cons_append, Document.ofLines, ih]

theorem ofLines_append {back other : List Line} (front : List Line)
    (same : Document.ofLines back = Document.ofLines other) :
    Document.ofLines (front ++ back) = Document.ofLines (front ++ other) := by
  induction front with
  | nil => exact same
  | cons line front ih => cases line <;> simp only [List.cons_append, Document.ofLines, ih]

/-- Blank lines between the parts of a document mean nothing. -/
theorem ofLines_intercalate (parts : List (List Line)) :
    Document.ofLines ([Line.blank].intercalate parts) = Document.ofLines parts.flatten := by
  induction parts with
  | nil => rfl
  | cons part parts ih =>
      cases parts with
      | nil => simp [List.intercalate]
      | cons next parts =>
          rw [intercalate_cons_cons, List.singleton_append, ofLines_blank, List.flatten_cons]
          exact ofLines_append part ih

theorem Document.flatten_parts (d : Document) : d.parts.flatten = d.content := by
  obtain ⟨root, sections⟩ := d
  cases root <;> simp [parts, content, List.flatMap]

theorem ofLines_assignments (as : List Assignment) (lines : List Line) :
    Document.ofLines (as.map .assignment ++ lines) =
      ⟨as ++ (Document.ofLines lines).root, (Document.ofLines lines).sections⟩ := by
  induction as with
  | nil => rfl
  | cons a as ih => rw [List.map_cons, List.cons_append, Document.ofLines, ih]; rfl

theorem ofLines_sections (sections : List Section) :
    Document.ofLines (sections.flatMap Section.lines) = ⟨[], sections⟩ := by
  induction sections with
  | nil => rfl
  | cons s sections ih =>
      rw [List.flatMap_cons, Section.lines, List.cons_append, Document.ofLines,
        ofLines_assignments, ih, List.append_nil]

theorem Document.ofLines_content (d : Document) : ofLines d.content = d := by
  rw [content, ofLines_assignments, ofLines_sections, List.append_nil]

/-- A document that is read back. -/
structure Document.Fine (d : Document) : Prop where
  root : ∀ a ∈ d.root, a.Fine
  headers : ∀ s ∈ d.sections, s.header.key.Bare
  assignments : ∀ s ∈ d.sections, ∀ a ∈ s.assignments, a.Fine

theorem Document.Fine.content {d : Document} (fine : d.Fine) : ∀ line ∈ d.content, line.Fine := by
  refine List.forall_mem_append.mpr ⟨List.forall_mem_map.mpr fine.root, ?_⟩
  refine List.forall_mem_flatMap.mpr fun s here => ?_
  refine List.forall_mem_cons.mpr ⟨fine.headers s here, ?_⟩
  exact List.forall_mem_map.mpr (fine.assignments s here)

theorem skipMark_of_fine {lines : List Line} (fine : ∀ line ∈ lines, line.Fine) :
    skipMark (lines.flatMap Line.text) = lines.flatMap Line.text := by
  cases lines with
  | nil => rfl
  | cons line lines =>
      obtain ⟨c, tail, shown, -, no_mark⟩ := (fine line List.mem_cons_self).exists_cons
      rw [List.flatMap_cons, shown, List.cons_append, skipMark]
      exact fun rest found => no_mark (List.cons.inj found).1

/-- A document is read back from its text. -/
theorem Document.Fine.ofText?_text {d : Document} (fine : d.Fine) :
    Document.ofText? d.text = some d := by
  have lines : ∀ line ∈ [Line.blank].intercalate d.parts, line.Fine := by
    intro line here
    obtain blank | here := mem_intercalate here
    · rw [List.mem_singleton.mp blank]
      exact trivial
    · exact fine.content line (d.flatten_parts ▸ here)
  rw [ofText?, d.text_eq, skipMark_of_fine lines, lines?_text lines]
  simp only [Option.bind_eq_bind, Option.bind_some, ofLines_intercalate, flatten_parts,
    ofLines_content, Option.pure_def]

end DiagnosticGateway.Toml
