import DiagnosticGateway.Toml.Tree
import Mathlib.Data.List.Basic

/-! # Tables without dots

Assignments to different single names put their values into a table in the order in which they
stand. Headers with single names put one table behind the other, and further items of an array of
tables go into the last of them.
-/

namespace DiagnosticGateway.Toml

/-- The names that assignments give values to. -/
def names (as : List Assignment) : List String := as.map (·.key.name)

/-- What assignments to single names come to. -/
def nodes (as : List Assignment) : List (String × Node) :=
  as.map fun a => (a.key.name, .value a.value)

/-- What assignments to single names mean. -/
def pairs (as : List Assignment) : List (String × Value) := as.map fun a => (a.key.name, a.value)

/-- Assignments to different single names. -/
structure Simple (as : List Assignment) : Prop where
  single : ∀ a ∈ as, a.key.parents = []
  distinct : (names as).Nodup

namespace Entries

variable {entries front inner : Entries} {name : String}

theorem lookup_eq_none (absent : name ∉ entries.map Prod.fst) : entries.lookup name = none := by
  refine List.lookup_eq_none_iff.mpr fun entry here => ?_
  have other : name ≠ entry.1 := fun same => absent (same ▸ List.mem_map_of_mem here)
  simpa using other

theorem not_mem_of_lookup (absent : entries.lookup name = none) : name ∉ entries.map Prod.fst := by
  intro here
  obtain ⟨entry, member, same⟩ := List.mem_map.mp here
  have other := List.lookup_eq_none_iff.mp absent entry member
  simp [same] at other

theorem assignAll_of_simple {as : List Assignment} (single : ∀ a ∈ as, a.key.parents = []) :
    ∀ {entries : Entries}, (entries.map Prod.fst ++ names as).Nodup →
      assignAll as entries = some (entries ++ nodes as) := by
  induction as with
  | nil =>
      intro entries _
      rw [nodes, List.map_nil, List.append_nil]
      rfl
  | cons a as ih =>
      intro entries distinct
      obtain ⟨here, later⟩ := List.forall_mem_cons.mp single
      have absent : entries.lookup a.key.name = none := by
        have apart := (List.nodup_append.mp distinct).2.2
        exact lookup_eq_none fun before => apart _ before _ List.mem_cons_self rfl
      have assigned : entries.assign a.key.name a.value a.key.parents true =
          some (entries.add a.key.name (.value a.value)) := by
        rw [here, assign, absent]
        rfl
      have goesOn : ((entries.add a.key.name (.value a.value)).map Prod.fst ++ names as).Nodup := by
        simpa [add, names] using distinct
      have rest := ih later goesOn
      rw [assignAll] at rest ⊢
      rw [List.foldlM_cons, assigned, Option.bind_eq_bind, Option.bind_some, rest]
      simp [add, nodes]

theorem assignAll_nil {as : List Assignment} (simple : Simple as) :
    assignAll as [] = some (nodes as) :=
  assignAll_of_simple simple.single simple.distinct

/-- A header with a new name opens a table behind the others. -/
theorem addSection_table {as : List Assignment} (simple : Simple as)
    (absent : entries.lookup name = none) :
    entries.addSection ⟨.table ⟨[], name⟩, as⟩ =
      some (entries ++ [(name, .table .header (nodes as))]) := by
  simp only [addSection, within, openTable, absent, assignAll_nil simple, Option.bind_eq_bind,
    Option.bind_some, Option.pure_def, add]

/-- Headers with new names open one table behind the other. -/
theorem foldlM_tables (tables : List (String × List Assignment))
    (simple : ∀ t ∈ tables, Simple t.2) : ∀ entries : Entries,
      (entries.map Prod.fst ++ tables.map Prod.fst).Nodup →
      (tables.map fun t => (⟨.table ⟨[], t.1⟩, t.2⟩ : Section)).foldlM addSection entries =
        some (entries ++ tables.map fun t => (t.1, .table .header (nodes t.2))) := by
  induction tables with
  | nil => intro entries _; rw [List.map_nil, List.map_nil, List.append_nil]; rfl
  | cons t tables ih =>
      intro entries distinct
      obtain ⟨here, later⟩ := List.forall_mem_cons.mp simple
      have absent : entries.lookup t.1 = none := by
        have apart := (List.nodup_append.mp distinct).2.2
        exact lookup_eq_none fun before => apart _ before _ List.mem_cons_self rfl
      have goesOn : ((entries ++ [(t.1, Node.table .header (nodes t.2))]).map Prod.fst ++
          tables.map Prod.fst).Nodup := by
        simpa using distinct
      rw [List.map_cons, List.foldlM_cons, addSection_table here absent, Option.bind_eq_bind,
        Option.bind_some, ih later _ goesOn, List.append_assoc, List.singleton_append,
        List.map_cons]

theorem lookup_last (absent : front.lookup name = none) (node : Node) :
    (front ++ [(name, node)]).lookup name = some node := by
  rw [List.lookup_append, absent, List.lookup_cons_self]
  rfl

theorem set_last (absent : front.lookup name = none) (old new : Node) :
    set (front ++ [(name, old)]) name new = front ++ [(name, new)] := by
  have others : front.map (fun entry => if entry.1 = name then (name, new) else entry) = front := by
    refine (List.map_congr_left fun entry here => if_neg fun same => ?_).trans (List.map_id front)
    exact not_mem_of_lookup absent (same ▸ List.mem_map_of_mem here)
  rw [set, List.map_append, others, List.map_singleton, if_pos rfl]

/-! ## Arrays of tables -/

/-- What items under the same header come to. -/
def items (name : String) (tables : List (List Assignment)) : Entries :=
  match tables.getLast? with
  | none => []
  | some latest => [(name, .tables (tables.dropLast.map nodes) (nodes latest))]

theorem items_concat (name : String) (tables : List (List Assignment)) (as : List Assignment) :
    items name (tables ++ [as]) = [(name, .tables (tables.map nodes) (nodes as))] := by
  rw [items, List.getLast?_concat, List.dropLast_concat]

theorem openItem_items {as : List Assignment} (simple : Simple as)
    (absent : inner.lookup name = none) (tables : List (List Assignment)) :
    openItem name as (inner ++ items name tables) =
      some (inner ++ items name (tables ++ [as])) := by
  rw [items_concat]
  obtain rfl | ⟨earlier, latest, rfl⟩ := List.eq_nil_or_concat tables
  · have empty : inner ++ items name [] = inner := List.append_nil _
    simp only [empty, openItem, absent, assignAll_nil simple, Option.bind_eq_bind, Option.bind_some,
      Option.pure_def, add, List.map_nil]
  · rw [List.concat_eq_append, items_concat]
    simp only [openItem, lookup_last absent, assignAll_nil simple, Option.bind_eq_bind,
      Option.bind_some, Option.pure_def, set_last absent, List.map_append, List.map_singleton]

theorem addSection_item {parent : String} {origin : Origin} {as : List Assignment}
    (simple : Simple as) (elsewhere : front.lookup parent = none)
    (absent : inner.lookup name = none) (tables : List (List Assignment)) :
    addSection (front ++ [(parent, Node.table origin (inner ++ items name tables))])
        ⟨.item ⟨[parent], name⟩, as⟩ =
      some (front ++ [(parent, Node.table origin (inner ++ items name (tables ++ [as])))]) := by
  simp only [addSection, within, lookup_last elsewhere, openItem_items simple absent,
    set_last elsewhere, Option.bind_eq_bind, Option.bind_some, Option.pure_def]

/-- Items under the same header all go into one array, in their order. -/
theorem foldlM_items {parent : String} (origin : Origin) {tables : List (List Assignment)}
    (simple : ∀ as ∈ tables, Simple as) (elsewhere : front.lookup parent = none)
    (absent : inner.lookup name = none) :
    ∀ done, (tables.map fun as => (⟨.item ⟨[parent], name⟩, as⟩ : Section)).foldlM addSection
        (front ++ [(parent, Node.table origin (inner ++ items name done))]) =
      some (front ++ [(parent, Node.table origin (inner ++ items name (done ++ tables)))]) := by
  induction tables with
  | nil => intro done; rw [List.append_nil]; rfl
  | cons as tables ih =>
      intro done
      obtain ⟨here, later⟩ := List.forall_mem_cons.mp simple
      rw [List.map_cons, List.foldlM_cons, addSection_item here elsewhere absent,
        Option.bind_eq_bind, Option.bind_some, ih later, List.append_assoc, List.singleton_append]

end Entries

/-! ## Values -/

theorem toValues_append (front back : List (String × Node)) :
    toValues (front ++ back) = toValues front ++ toValues back := by
  induction front with
  | nil => rfl
  | cons entry front ih => rw [List.cons_append, toValues, ih]; rfl

theorem toValues_nodes (as : List Assignment) : toValues (nodes as) = pairs as := by
  induction as with
  | nil => rfl
  | cons a as ih => rw [nodes, List.map_cons, toValues, ← nodes, ih]; rfl

theorem toValues_tables (tables : List (String × List Assignment)) :
    toValues (tables.map fun t => (t.1, .table .header (nodes t.2))) =
      tables.map fun t => (t.1, .table (pairs t.2)) := by
  induction tables with
  | nil => rfl
  | cons t tables ih => rw [List.map_cons, toValues, Node.toValue, toValues_nodes, ih]; rfl

theorem itemsToValues_eq (tables : List (List Assignment)) :
    itemsToValues (tables.map nodes) = tables.map fun as => .table (pairs as) := by
  induction tables with
  | nil => rfl
  | cons as tables ih => rw [List.map_cons, itemsToValues, toValues_nodes, ih]; rfl

theorem toValues_items (name : String) (tables : List (List Assignment)) :
    toValues (Entries.items name tables) =
      if tables = [] then [] else [(name, .array (tables.map fun as => .table (pairs as)))] := by
  obtain rfl | ⟨earlier, latest, rfl⟩ := List.eq_nil_or_concat tables
  · rfl
  · rw [List.concat_eq_append, Entries.items_concat, if_neg (by simp)]
    simp only [toValues, Node.toValue, itemsToValues_eq, toValues_nodes, List.map_append,
      List.map_singleton]

end DiagnosticGateway.Toml
