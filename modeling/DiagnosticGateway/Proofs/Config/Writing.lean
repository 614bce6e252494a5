import DiagnosticGateway.Config.Printer
import DiagnosticGateway.Proofs.Toml.Document
import DiagnosticGateway.Proofs.Toml.Tables

/-! # The document of a configuration

Every section of a configuration has different names, and values that are read back if the numbers
of 64 bits could do with one bit less. So its text gives back the document, and what the document
means is told by the sections one after the other.
-/

namespace DiagnosticGateway

open Toml (Assignment Bare Document Entries Node Section Simple Value Writable maxDepth names nodes
  pairs)

/-! ## Sections -/

/-- Assignments to different names without marks, with values that are read back. -/
structure Regular (as : List Assignment) : Prop where
  single : ∀ a ∈ as, a.key.parents = []
  bare : ∀ name ∈ names as, Bare name
  distinct : (names as).Nodup
  writable : ∀ v ∈ as.map Assignment.value, Writable maxDepth v

namespace Regular

variable {as : List Assignment}

theorem of_names (expected : List String) (single : ∀ a ∈ as, a.key.parents = [])
    (shown : names as = expected) (bare : ∀ name ∈ expected, Bare name)
    (distinct : expected.Nodup) (writable : ∀ v ∈ as.map Assignment.value, Writable maxDepth v) :
    Regular as :=
  ⟨single, shown ▸ bare, shown ▸ distinct, writable⟩

theorem simple (regular : Regular as) : Simple as := ⟨regular.single, regular.distinct⟩

theorem fine (regular : Regular as) : ∀ a ∈ as, a.Fine := by
  intro a here
  have bare : Bare a.key.name := regular.bare _ (List.mem_map_of_mem here)
  refine ⟨⟨?_, ?_⟩, regular.writable _ (List.mem_map_of_mem here)⟩
  · rw [regular.single a here]
    exact List.forall_mem_singleton.mpr bare
  · rw [regular.single a here]
    exact Nat.succ_pos _

end Regular

theorem writable_byte (n : UInt8) : Writable maxDepth (.integer n.toNat) :=
  .natural _ (Nat.lt_trans n.toNat_lt (by decide))

theorem writable_word {depth : Nat} (n : UInt16) : Writable depth (.integer n.toNat) :=
  .natural _ (Nat.lt_trans n.toNat_lt (by decide))

namespace Config

variable {c : Config}

theorem regular_rootEntries (c : Config) : Regular c.rootEntries := by
  refine .of_names ["listen_addr", "protocol_version", "concurrent_sessions"] ?_ rfl (by decide)
    (by decide) ?_
  · simp [rootEntries, entry, number]
  · simp only [rootEntries, entry, number, List.map_cons, List.map_nil, List.forall_mem_cons]
    exact ⟨.string _, writable_byte _, .boolean _, List.forall_mem_nil _⟩

theorem regular_channelEntries (channel : Channel) : Regular (channelEntries channel) := by
  refine .of_names ["request_id", "response_id"] ?_ rfl (by decide) (by decide) ?_
  · simp [channelEntries, entry, number]
  · simp only [channelEntries, entry, number, List.map_cons, List.map_nil, List.forall_mem_cons]
    exact ⟨writable_word _, writable_word _, List.forall_mem_nil _⟩

theorem regular_addressEntries (c : AddressConfig) : Regular (addressEntries c) := by
  refine .of_names ["tester", "ecu"] ?_ rfl (by decide) (by decide) ?_
  · simp [addressEntries, entry, number]
  · simp only [addressEntries, entry, number, List.map_cons, List.map_nil, List.forall_mem_cons]
    exact ⟨writable_word _, writable_word _, List.forall_mem_nil _⟩

/-- The settings that have 64 bits could do with one bit less. -/
def Short (c : Config) : Prop := ∀ n ∈ c.longSettings, n.toNat < 0x8000000000000000

theorem Short.settings (short : c.Short) :
    c.can.readTimeoutMs.toNat < 0x8000000000000000 ∧
      c.isotp.fcTimeoutMs.toNat < 0x8000000000000000 ∧
      c.isotp.waitBackoffMs.toNat < 0x8000000000000000 ∧
      c.isotp.relayCapacity.toNat < 0x8000000000000000 ∧
      c.session.maxPayload.toNat < 0x8000000000000000 := by
  simpa only [Short, longSettings, List.forall_mem_cons, List.not_mem_nil, false_implies,
    implies_true, and_true] using short

theorem regular_transportEntries (short : c.Short) : Regular (transportEntries c.isotp) := by
  obtain ⟨-, timeout, backoff, capacity, -⟩ := short.settings
  refine .of_names ["fc_timeout_ms", "wait_backoff_ms", "rx_block_size", "rx_st_min", "padding",
    "relay_capacity"] ?_ rfl (by decide) (by decide) ?_
  · simp [transportEntries, entry, number]
  · simp only [transportEntries, entry, number, List.map_cons, List.map_nil, List.forall_mem_cons]
    exact ⟨.natural _ timeout, .natural _ backoff, writable_byte _, writable_byte _,
      writable_byte _, .natural _ capacity, List.forall_mem_nil _⟩

theorem regular_sessionEntries (short : c.Short) : Regular (sessionEntries c.session) := by
  obtain ⟨-, -, -, -, payload⟩ := short.settings
  refine .of_names ["max_payload_len", "nack_on_send_failure"] ?_ rfl (by decide) (by decide) ?_
  · simp [sessionEntries, entry, number]
  · simp only [sessionEntries, entry, number, List.map_cons, List.map_nil, List.forall_mem_cons]
    exact ⟨.natural _ payload, .boolean _, List.forall_mem_nil _⟩

theorem writable_reservedIds (ids : List UInt16) :
    Writable maxDepth (.array (ids.map fun id => .integer id.toNat)) :=
  .array _ (List.forall_mem_map.mpr fun id _ => writable_word id)

theorem regular_busEntries (short : c.Short) : Regular (busEntries c.can) := by
  have timeout := short.settings.1
  by_cases none : c.can.sessionChannels = []
  · refine .of_names ["interface", "request_id", "response_id", "read_timeout_ms", "reserved_ids",
      "session_channels"] ?_ ?_ (by decide) (by decide) ?_
    · simp [busEntries, entry, number, none]
    · simp [busEntries, entry, number, none, names]
    · simp only [busEntries, none, if_true, entry, number, List.cons_append, List.nil_append,
        List.map_cons, List.map_nil, List.forall_mem_cons]
      exact ⟨.string _, writable_word _, writable_word _, .natural _ timeout,
        writable_reservedIds _, .array [] (List.forall_mem_nil _), List.forall_mem_nil _⟩
  · refine .of_names ["interface", "request_id", "response_id", "read_timeout_ms", "reserved_ids"]
      ?_ ?_ (by decide) (by decide) ?_
    · simp [busEntries, entry, number, none]
    · simp [busEntries, entry, number, none, names]
    · simp only [busEntries, none, if_false, entry, number, List.cons_append, List.nil_append,
        List.map_cons, List.map_nil, List.forall_mem_cons]
      exact ⟨.string _, writable_word _, writable_word _, .natural _ timeout,
        writable_reservedIds _, List.forall_mem_nil _⟩

/-! ## All sections -/

/-- The sections of the channels that have one of their own. -/
def channelSections (channels : List Channel) : List Section :=
  (channels.map channelEntries).map fun as => ⟨.item ⟨["can"], "session_channels"⟩, as⟩

/-- The tables behind the channels, by their names. -/
def tables (c : Config) : List (String × List Assignment) :=
  [("addressing", addressEntries c.addressing), ("isotp", transportEntries c.isotp),
    ("session", sessionEntries c.session)]

theorem sections_eq (c : Config) :
    c.toDocument.sections =
      [sectionOf "can" (busEntries c.can)] ++ channelSections c.can.sessionChannels ++
        c.tables.map fun t => sectionOf t.1 t.2 := by
  rw [channelSections, List.map_map]
  rfl

theorem regular_tables (short : c.Short) : ∀ t ∈ c.tables, Bare t.1 ∧ Regular t.2 := by
  simp only [tables, List.forall_mem_cons]
  exact ⟨⟨by decide, regular_addressEntries _⟩, ⟨by decide, regular_transportEntries short⟩,
    ⟨by decide, regular_sessionEntries short⟩, List.forall_mem_nil _⟩

theorem regular_sections (short : c.Short) :
    ∀ s ∈ c.toDocument.sections, s.header.key.Bare ∧ Regular s.assignments := by
  have channels : ∀ s ∈ channelSections c.can.sessionChannels,
      s.header.key.Bare ∧ Regular s.assignments := by
    have bare : (⟨["can"], "session_channels"⟩ : Toml.Key).Bare := ⟨by decide, by decide⟩
    exact List.forall_mem_map.mpr (List.forall_mem_map.mpr fun channel _ =>
      ⟨bare, regular_channelEntries channel⟩)
  have single : ∀ name, Bare name → ∀ as, (sectionOf name as).header.key.Bare :=
    fun name bare _ => ⟨List.forall_mem_singleton.mpr bare, Nat.succ_pos _⟩
  rw [sections_eq, List.forall_mem_append, List.forall_mem_append, List.forall_mem_singleton]
  refine ⟨⟨⟨single _ (by decide) _, regular_busEntries short⟩, channels⟩,
    List.forall_mem_map.mpr fun t here => ?_⟩
  obtain ⟨bare, regular⟩ := regular_tables short t here
  exact ⟨single _ bare _, regular⟩

theorem toDocument_fine (short : c.Short) : c.toDocument.Fine where
  root := (regular_rootEntries c).fine
  headers s here := (regular_sections short s here).1
  assignments s here := (regular_sections short s here).2.fine

theorem toText?_eq_some_iff {text : List Char} :
    c.toText? = some text ↔ c.Short ∧ c.toDocument.text = text := by
  rw [toText?, Option.ite_none_right_eq_some, Option.some.injEq, List.all_eq_true]
  simp only [decide_eq_true_eq, Short]

/-- The array of the channels that have sections of their own. -/
def busArray (c : BusConfig) : List (String × Value) :=
  if c.sessionChannels = [] then []
  else [("session_channels",
    .array ((c.sessionChannels.map channelEntries).map fun as => .table (pairs as)))]

/-- What the document of a configuration means. -/
def values (c : Config) : List (String × Value) :=
  pairs c.rootEntries ++ [("can", .table (pairs (busEntries c.can) ++ busArray c.can))] ++
    c.tables.map fun t => (t.1, .table (pairs t.2))

/-- The table of the bus, with all channels in it. -/
def busNodes (c : BusConfig) : List (String × Node) :=
  nodes (busEntries c) ++ Entries.items "session_channels" (c.sessionChannels.map channelEntries)

theorem foldlM_channelSections (front : Entries) (elsewhere : front.lookup "can" = none)
    (c : BusConfig) :
    (channelSections c.sessionChannels).foldlM Entries.addSection
        (front ++ [("can", Node.table .header (nodes (busEntries c)))]) =
      some (front ++ [("can", Node.table .header (busNodes c))]) := by
  by_cases alone : c.sessionChannels = []
  · have same : busNodes c = nodes (busEntries c) := by
      rw [busNodes, alone]
      exact List.append_nil _
    rw [same, alone]
    rfl
  · have absent : (nodes (busEntries c)).lookup "session_channels" = none := by
      rw [busEntries, if_neg alone]
      rfl
    have all : ∀ as ∈ c.sessionChannels.map channelEntries, Simple as :=
      List.forall_mem_map.mpr fun channel _ => (regular_channelEntries channel).simple
    have empty : nodes (busEntries c) ++ Entries.items "session_channels" [] =
        nodes (busEntries c) := List.append_nil _
    have folded := Entries.foldlM_items .header all elsewhere absent []
    rwa [empty, List.nil_append] at folded

theorem toValues_busNodes (c : BusConfig) :
    Toml.toValues (busNodes c) = pairs (busEntries c) ++ busArray c := by
  rw [busNodes, Toml.toValues_append, Toml.toValues_nodes, Toml.toValues_items]
  simp only [busArray, List.map_eq_nil_iff]

theorem entries?_toDocument (short : c.Short) : c.toDocument.entries? = some c.values := by
  have root : Entries.assignAll c.toDocument.root [] = some (nodes c.rootEntries) :=
    Entries.assignAll_nil (regular_rootEntries c).simple
  have bus : Entries.addSection (nodes c.rootEntries) (sectionOf "can" (busEntries c.can)) =
      some (nodes c.rootEntries ++ [("can", .table .header (nodes (busEntries c.can)))]) :=
    Entries.addSection_table (regular_busEntries short).simple rfl
  have channels := foldlM_channelSections (nodes c.rootEntries) rfl c.can
  have others : (c.tables.map fun t => sectionOf t.1 t.2).foldlM Entries.addSection
        (nodes c.rootEntries ++ [("can", .table .header (busNodes c.can))]) =
      some (nodes c.rootEntries ++ [("can", .table .header (busNodes c.can))] ++
        c.tables.map fun t => (t.1, .table .header (nodes t.2))) := by
    refine Entries.foldlM_tables _ (fun t here => (regular_tables short t here).2.simple) _ ?_
    show ["listen_addr", "protocol_version", "concurrent_sessions", "can", "addressing", "isotp",
      "session"].Nodup
    decide
  simp only [Document.entries?, root, sections_eq, List.foldlM_append, List.foldlM_cons, bus,
    List.foldlM_nil, Option.bind_eq_bind, Option.bind_some, Option.pure_def, channels, others]
  rw [values, Toml.toValues_append, Toml.toValues_append, Toml.toValues_nodes,
    Toml.toValues_tables, Toml.toValues, Node.toValue, toValues_busNodes]
  rfl

end Config

end DiagnosticGateway
