import DiagnosticGateway.CommandLine.GatewayCommand
import DiagnosticGateway.Proofs.Config.Writing
import DiagnosticGateway.Proofs.Net.SocketAddress

/-! # Configurations and their texts

Every setting is read back from the value that is written for it, and so is every section. So the
text of a configuration without defects gives back the configuration, and what the command line
prints can be given to it as a file.
-/

namespace DiagnosticGateway

open Toml (Assignment Document Value pairs)

/-! ## Settings -/

section

variable {α : Type} {entries : List (String × Value)} {name : String} {v : Value} {a : α}
  {get : Value → Option α}

theorem Settings.read_named (found : entries.lookup name = some v) (reads : get v = some a)
    (place : Nat) (default : α) :
    (Settings.named entries).read place name get default = some a := by
  rw [Settings.read, Settings.get?, found]
  exact reads

theorem Settings.require_named (found : entries.lookup name = some v) (reads : get v = some a)
    (place : Nat) :
    (Settings.named entries).require place name get = some a := by
  rw [Settings.require, Settings.get?, found]
  exact reads

end

namespace Config

theorem natural?_natCast {bound n : Nat} (le : n ≤ bound) :
    natural? bound (.integer n) = some n := if_pos le

theorem byte?_toNat (n : UInt8) : byte? (.integer n.toNat) = some n := by
  rw [byte?, natural?_natCast (Nat.le_of_lt_succ n.toNat_lt), Option.map_some, UInt8.ofNat_toNat]

theorem word?_toNat (n : UInt16) : word? (.integer n.toNat) = some n := by
  rw [word?, natural?_natCast (Nat.le_of_lt_succ n.toNat_lt), Option.map_some, UInt16.ofNat_toNat]

theorem long?_toNat (n : UInt64) : long? (.integer n.toNat) = some n := by
  have le : n.toNat ≤ UInt64.size - 1 := Nat.le_of_lt_succ n.toNat_lt
  rw [long?, natural?_natCast le, Option.map_some, UInt64.ofNat_toNat]

theorem address?_toNat (a : Doip.Address) : address? (.integer a.value.toNat) = some a := by
  rw [address?, word?_toNat]
  rfl

theorem socketAddress?_text {a : Net.SocketAddress} (unlabelled : a.flowLabel = 0) :
    socketAddress? (.string (String.ofList a.text)) = some a := by
  rw [socketAddress?, text?, Option.bind_eq_bind, Option.bind_some, String.toList_ofList,
    Net.SocketAddress.ofText?_text a unlabelled]

/-- A list is read back if each of its items is. -/
theorem list?_map {α : Type} {get : Value → Option α} {put : α → Value}
    (reads : ∀ a, get (put a) = some a) (as : List α) :
    list? get (.array (as.map put)) = some as := by
  rw [list?]
  induction as with
  | nil => rfl
  | cons a as ih =>
      rw [List.map_cons, List.mapM_cons, reads, ih]
      rfl

/-! ## Sections -/

theorem channel?_pairs (channel : Channel) :
    channel? (.table (pairs (channelEntries channel))) = some channel := by
  simp only [channel?, Settings.ofValue?, Option.bind_eq_bind, Option.bind_some, Option.pure_def]
  rw [Settings.require_named rfl (word?_toNat channel.requestId),
    Settings.require_named rfl (word?_toNat channel.responseId)]
  rfl

theorem addressing?_pairs (c : AddressConfig) :
    addressing? (.table (pairs (addressEntries c))) = some c := by
  simp only [addressing?, Settings.ofValue?, Option.bind_eq_bind, Option.bind_some, Option.pure_def]
  rw [Settings.read_named rfl (address?_toNat c.tester),
    Settings.read_named rfl (address?_toNat c.ecu)]
  rfl

theorem transport?_pairs (c : TransportConfig) :
    transport? (.table (pairs (transportEntries c))) = some c := by
  simp only [transport?, Settings.ofValue?, Option.bind_eq_bind, Option.bind_some, Option.pure_def]
  rw [Settings.read_named rfl (long?_toNat c.fcTimeoutMs),
    Settings.read_named rfl (long?_toNat c.waitBackoffMs),
    Settings.read_named rfl (byte?_toNat c.rxBlockSize),
    Settings.read_named rfl (byte?_toNat c.rxStMin),
    Settings.read_named rfl (byte?_toNat c.padding),
    Settings.read_named rfl (long?_toNat c.relayCapacity)]
  rfl

theorem session?_pairs (c : SessionConfig) :
    session? (.table (pairs (sessionEntries c))) = some c := by
  have flag : flag? (.boolean c.nackOnSendFailure) = some c.nackOnSendFailure := rfl
  simp only [session?, Settings.ofValue?, Option.bind_eq_bind, Option.bind_some, Option.pure_def]
  rw [Settings.read_named rfl (long?_toNat c.maxPayload), Settings.read_named rfl flag]
  rfl

/-- The channels stand in an array, which is empty if there are none. -/
theorem lookup_sessionChannels (c : BusConfig) :
    (pairs (busEntries c) ++ busArray c).lookup "session_channels" =
      some (.array (c.sessionChannels.map fun channel =>
        .table (pairs (channelEntries channel)))) := by
  by_cases alone : c.sessionChannels = []
  · rw [busEntries, busArray, if_pos alone, if_pos alone, alone]
    rfl
  · rw [busEntries, busArray, if_neg alone, if_neg alone, List.map_map]
    rfl

theorem bus?_pairs (c : BusConfig) :
    bus? (.table (pairs (busEntries c) ++ busArray c)) = some c := by
  have name : text? (.string c.interface) = some c.interface := rfl
  simp only [bus?, Settings.ofValue?, Option.bind_eq_bind, Option.bind_some, Option.pure_def]
  rw [Settings.read_named rfl name, Settings.read_named rfl (word?_toNat c.requestId),
    Settings.read_named rfl (word?_toNat c.responseId),
    Settings.read_named rfl (long?_toNat c.readTimeoutMs),
    Settings.read_named rfl (list?_map word?_toNat c.reservedIds),
    Settings.read_named (lookup_sessionChannels c) (list?_map channel?_pairs c.sessionChannels)]
  rfl

theorem ofEntries?_values {c : Config} (unlabelled : c.listen.flowLabel = 0) :
    ofEntries? c.values = some c := by
  have flag : flag? (.boolean c.concurrentSessions) = some c.concurrentSessions := rfl
  simp only [ofEntries?, Option.bind_eq_bind, Option.pure_def]
  rw [Settings.read_named rfl (socketAddress?_text unlabelled),
    Settings.read_named rfl (byte?_toNat c.protocolVersion), Settings.read_named rfl flag,
    Settings.read_named rfl (bus?_pairs c.can),
    Settings.read_named rfl (addressing?_pairs c.addressing),
    Settings.read_named rfl (transport?_pairs c.isotp),
    Settings.read_named rfl (session?_pairs c.session)]
  rfl

/-! ## Texts -/

/-- The text of a configuration gives back the configuration. -/
theorem ofText?_toText {c : Config} (short : c.Short) (unlabelled : c.listen.flowLabel = 0) :
    ofText? c.toDocument.text = some c := by
  rw [ofText?, (toDocument_fine short).ofText?_text, Option.bind_eq_bind, Option.bind_eq_bind,
    Option.bind_some, entries?_toDocument short, Option.bind_some, ofEntries?_values unlabelled]

theorem check_of_validate {c : Config} (valid : c.validate = .ok ()) : c.check = .ok () := by
  rw [validate] at valid
  cases checked : c.check with
  | ok _ => rfl
  | error defect => simp [checked, Except.mapError] at valid

theorem load_of_toText? {c : Config} {text : List Char} (valid : c.validate = .ok ())
    (unlabelled : c.listen.flowLabel = 0) (written : c.toText? = some text) :
    load text = .ok c := by
  obtain ⟨short, rfl⟩ := toText?_eq_some_iff.mp written
  simp only [load, ofText?_toText short unlabelled, check_of_validate valid, Except.map]

theorem flowLabel_of_ofEntries? {entries : List (String × Value)} {c : Config}
    (read : ofEntries? entries = some c) : c.listen.flowLabel = 0 := by
  simp only [ofEntries?, Option.bind_eq_bind, Option.bind_eq_some_iff, Option.pure_def,
    Option.some.injEq] at read
  obtain ⟨listen, found, _, -, _, -, _, -, _, -, _, -, _, -, rfl⟩ := read
  show listen.flowLabel = 0
  unfold Settings.read at found
  split at found
  · cases found
    rfl
  · obtain ⟨text, -, address⟩ := Option.bind_eq_some_iff.mp found
    exact Net.SocketAddress.flowLabel_of_ofText? address

/-- No file gives a flow label. -/
theorem flowLabel_of_load {text : List Char} {c : Config} (loaded : load text = .ok c) :
    c.listen.flowLabel = 0 := by
  unfold load at loaded
  split at loaded
  · cases loaded
  · rename_i d read
    obtain ⟨entries, -, found⟩ := Option.bind_eq_some_iff.mp read
    cases checked : d.check with
    | error defect => simp [checked, Except.map] at loaded
    | ok _ =>
        simp only [checked, Except.map, Except.ok.injEq] at loaded
        exact loaded ▸ flowLabel_of_ofEntries? found

end Config

namespace CommandLine

/-! ## The command line -/

theorem exists_of_bind {ε α β : Type} {x : Except ε α} {f : α → Except ε β} {b : β}
    (bound : x >>= f = .ok b) : ∃ a, x = .ok a ∧ f a = .ok b := by
  cases x with
  | error e => cases bound
  | ok a => exact ⟨a, rfl, bound⟩

theorem eq_of_setOnce {α : Type} {current new result : Option α}
    (set : setOnce current new = .ok result) : result = new := by
  unfold setOnce at set
  split at set <;> cases set
  rfl

namespace GatewayArguments

variable {a b : GatewayArguments}

/-- The address to listen on has no flow label, if it is given. -/
def Unlabelled (a : GatewayArguments) : Prop := ∀ address ∈ a.listen, address.flowLabel = 0

theorem Unlabelled.take {item : Item} (unlabelled : a.Unlabelled)
    (taken : a.take item = .ok b) : b.Unlabelled := by
  unfold GatewayArguments.take at taken
  split at taken
  case h_3 text =>
    obtain ⟨listen, set, made⟩ := exists_of_bind taken
    cases made
    intro address here
    have read : listen = Net.SocketAddress.ofText? text.toList := eq_of_setOnce set
    exact Net.SocketAddress.flowLabel_of_ofText? (read ▸ here)
  case h_7 => cases taken
  case h_8 => cases taken
  -- the other options leave the address alone
  all_goals
    obtain ⟨_, -, made⟩ := exists_of_bind taken
    cases made
    exact unlabelled

theorem Unlabelled.foldlM {items : List Item} : ∀ {a : GatewayArguments}, a.Unlabelled →
    items.foldlM GatewayArguments.take a = .ok b → b.Unlabelled := by
  induction items with
  | nil =>
      intro a unlabelled folded
      cases folded
      exact unlabelled
  | cons item items ih =>
      intro a unlabelled folded
      rw [List.foldlM_cons] at folded
      obtain ⟨next, taken, rest⟩ := exists_of_bind folded
      exact ih (unlabelled.take taken) rest

/-- No option gives a flow label. -/
theorem unlabelled_of_ofArgs {args : List String} (read : ofArgs args = .ok a) : a.Unlabelled := by
  have none : GatewayArguments.Unlabelled {} := fun _ here => by cases here
  exact none.foldlM read

/-- The configuration that the options change, or the report of why there is none. -/
def base (files : Files) (a : GatewayArguments) : Except Report Config :=
  match a.file with
  | none => .ok {}
  | some path =>
    match loadFile files path with
    | .ok c => .ok c
    | .error defect =>
      .error (.failedIn "" ("failed to load config from " ++ path) (wordings (.config defect)))

/-- A configuration without defects, or the report of its first one. -/
def checked (c : Config) : Except Report Config :=
  match c.validate with
  | .ok () => .ok c
  | .error fault => .error (.failedIn "" "invalid configuration" (wordings fault))

theorem configure_eq (files : Files) (a : GatewayArguments) :
    a.configure files = a.base files >>= fun c => checked (a.override c) := by
  unfold configure base
  cases a.file with
  | none => rfl
  | some path =>
      simp only
      cases loadFile files path with
      | error defect => rfl
      | ok c => rfl

theorem checked_eq_ok_iff {c d : Config} : checked c = .ok d ↔ c = d ∧ c.validate = .ok () := by
  unfold checked
  constructor
  · intro passed
    split at passed
    · rename_i valid
      cases passed
      exact ⟨rfl, valid⟩
    · cases passed
  · rintro ⟨rfl, valid⟩
    rw [valid]

theorem flowLabel_of_base {files : Files} {c : Config} (given : a.base files = .ok c) :
    c.listen.flowLabel = 0 := by
  unfold base at given
  split at given
  · cases given
    rfl
  · split at given
    · rename_i loaded
      cases given
      unfold loadFile at loaded
      split at loaded
      · cases loaded
      · exact Config.flowLabel_of_load loaded
    · cases given

theorem Unlabelled.override {base : Config} (unlabelled : a.Unlabelled)
    (plain : base.listen.flowLabel = 0) : (a.override base).listen.flowLabel = 0 := by
  show (a.listen.getD base.listen).flowLabel = 0
  cases given : a.listen with
  | none => exact plain
  | some address => exact unlabelled address given

/-- Every configuration of the command line has no defect, and no flow label. -/
theorem regular_of_configure {files : Files} {c : Config} (unlabelled : a.Unlabelled)
    (configured : a.configure files = .ok c) : c.validate = .ok () ∧ c.listen.flowLabel = 0 := by
  rw [configure_eq] at configured
  obtain ⟨start, given, passed⟩ := exists_of_bind configured
  obtain ⟨rfl, valid⟩ := checked_eq_ok_iff.mp passed
  exact ⟨valid, unlabelled.override (flowLabel_of_base given)⟩

/-- A file alone gives the configuration in it. -/
theorem configure_of_load {files : Files} {path : String} {c : Config} {print : Option Unit}
    (loaded : loadFile files path = .ok c) (valid : c.validate = .ok ()) :
    configure { file := some path, printConfig := print } files = .ok c := by
  have given : base files { file := some path, printConfig := print } = .ok c := by
    simp only [base, loaded]
  rw [configure_eq, given]
  exact checked_eq_ok_iff.mpr ⟨rfl, valid⟩

theorem exit_of_base {files : Files} {report : Report} (refused : a.base files = .error report) :
    report.exit = 1 := by
  unfold base at refused
  split at refused
  · cases refused
  · split at refused <;> cases refused
    rfl

theorem exit_of_checked {c : Config} {report : Report} (refused : checked c = .error report) :
    report.exit = 1 := by
  unfold checked at refused
  split at refused <;> cases refused
  rfl

/-- The lack of a configuration is reported as a failure. -/
theorem exit_of_configure {files : Files} {report : Report}
    (refused : a.configure files = .error report) : report.exit = 1 := by
  rw [configure_eq] at refused
  cases given : a.base files with
  | error other =>
      rw [given] at refused
      cases refused
      exact exit_of_base given
  | ok c =>
      rw [given] at refused
      exact exit_of_checked refused

end GatewayArguments

theorem printConfig_eq_iff {c : Config} {out : String} :
    printConfig c = ⟨0, out, ""⟩ ↔ ∃ text, c.toText? = some text ∧ String.ofList text = out := by
  unfold printConfig
  split
  · rename_i text written
    simp [written]
  · rename_i none
    simp [none, Report.failed, wordings, Report.failedIn]

theorem runGateway_of_configure {files : Files} {args : List String} {a : GatewayArguments}
    {c : Config} (read : GatewayArguments.ofArgs args = .ok a) (prints : a.printConfig = some ())
    (configured : a.configure files = .ok c) : runGateway files args = printConfig c := by
  simp only [runGateway, read, configured, prints]

/-- A run that prints a configuration has one. -/
theorem exists_configure_of_printed {files : Files} {args : List String} {a : GatewayArguments}
    {out : String} (read : GatewayArguments.ofArgs args = .ok a)
    (printed : runGateway files args = ⟨0, out, ""⟩) : ∃ c, a.configure files = .ok c := by
  cases configured : a.configure files with
  | ok c => exact ⟨c, rfl⟩
  | error report =>
      have exit := GatewayArguments.exit_of_configure configured
      simp only [runGateway, read, configured] at printed
      rw [printed] at exit
      cases exit

/-- A configuration without defects that has no number above `2 ^ 63 - 1` and no flow label has a
text that gives it back. Numbers other than `Config.longSettings` have sixteen bits at most. What
one run prints is a file that gives another run, which is only told to print, the same
configuration; and that run prints the same text. -/
theorem configuration_text_round_trips :
    (∀ c : Config, c.validate = .ok () → (∀ n ∈ c.longSettings, n.toNat ≤ 0x7FFFFFFFFFFFFFFF) →
        c.listen.flowLabel = 0 → ∃ text, c.toText? = some text ∧ Config.load text = .ok c) ∧
      ∀ files args a out, GatewayArguments.ofArgs args = .ok a → a.printConfig = some () →
        runGateway files args = ⟨0, out, ""⟩ →
        ∀ files' args' path, files' path = .ok out →
          GatewayArguments.ofArgs args' = .ok { file := some path, printConfig := some () } →
          (∃ c, a.configure files = .ok c ∧ loadFile files' path = .ok c) ∧
            runGateway files' args' = ⟨0, out, ""⟩ := by
  refine ⟨fun c valid small unlabelled => ?_, ?_⟩
  · have short : c.Short := fun n here => Nat.lt_of_le_of_lt (small n here) (by decide)
    have written : c.toText? = some c.toDocument.text :=
      Config.toText?_eq_some_iff.mpr ⟨short, rfl⟩
    exact ⟨_, written, Config.load_of_toText? valid unlabelled written⟩
  · intro files args a out read prints printed files' args' path file read'
    obtain ⟨c, configured⟩ := exists_configure_of_printed read printed
    obtain ⟨valid, unlabelled⟩ := GatewayArguments.regular_of_configure
      (GatewayArguments.unlabelled_of_ofArgs read) configured
    rw [runGateway_of_configure read prints configured] at printed
    obtain ⟨text, written, rfl⟩ := printConfig_eq_iff.mp printed
    have loaded : loadFile files' path = .ok c := by
      simp only [loadFile, file, String.toList_ofList]
      exact Config.load_of_toText? valid unlabelled written
    rw [runGateway_of_configure read' rfl (GatewayArguments.configure_of_load loaded valid)]
    exact ⟨⟨c, configured, loaded⟩, printed⟩

/-- A configuration with marks in a name, an empty list and channels of its own. -/
def marked : Config where
  listen := .v6 ⟨[0xFE80, 0, 0, 0, 0, 0, 0, 1], rfl⟩ 0 7 13400
  concurrentSessions := true
  can := {
    interface := "can\"0'\\\n\t"
    reservedIds := []
    sessionChannels := [⟨0x700, 0x708⟩, ⟨0x701, 0x709⟩] }

theorem marked_round_trips :
    (∃ text, marked.toText? = some text ∧ Config.load text = .ok marked) ∧
      ∃ out,
        runGateway (fun _ => .ok "") ["--interface", "can'1", "--print-config"] = ⟨0, out, ""⟩ ∧
        runGateway (fun _ => .ok out) ["-cgateway.toml", "--print-config"] = ⟨0, out, ""⟩ := by
  have small : ∀ n ∈ marked.longSettings, n.toNat ≤ 0x7FFFFFFFFFFFFFFF := by
    simp only [marked, Config.longSettings, List.forall_mem_cons]
    exact ⟨by decide, by decide, by decide, by decide, by decide, List.forall_mem_nil _⟩
  have given : GatewayArguments.ofArgs ["--interface", "can'1", "--print-config"] =
      .ok { interface := some "can'1", printConfig := some () } := rfl
  have asked : GatewayArguments.ofArgs ["-cgateway.toml", "--print-config"] =
      .ok { file := some "gateway.toml", printConfig := some () } := rfl
  have printed : runGateway (fun _ => .ok "") ["--interface", "can'1", "--print-config"] =
      ⟨0, String.ofList (Config.toDocument { can := { interface := "can'1" } }).text, ""⟩ := by
    rw [runGateway_of_configure given rfl rfl]
    exact printConfig_eq_iff.mpr ⟨_, rfl, rfl⟩
  obtain ⟨texts, runs⟩ := configuration_text_round_trips
  obtain ⟨-, again⟩ := runs _ _ _ _ given rfl printed (fun _ => .ok _) _ "gateway.toml" rfl asked
  exact ⟨texts marked rfl small rfl, _, printed, again⟩

end CommandLine

end DiagnosticGateway
