import DiagnosticGateway.Config.Reading
import DiagnosticGateway.Proofs.Config.Identifiers

/-! # Valid configurations

A configuration is valid exactly if nothing in it can bring two sessions, or two roles, into each
other's way. Otherwise it is refused, and for a defect that it has.
-/

namespace DiagnosticGateway

/-- A defect that channels with these identifiers have. -/
inductive Clash (reserved : List UInt16) (identifiers : List (ChannelRole × UInt16)) :
    ConfigDefect → Prop where
  | wide {role id} :
    (role, id) ∈ identifiers → Bus.maxIdentifier < id →
    Clash reserved identifiers (.wideIdentifier role id)
  | reserved {role id} :
    (role, id) ∈ identifiers → id ∈ reserved →
    Clash reserved identifiers (.reservedIdentifier role id)
  | repeated {id} :
    2 ≤ (identifiers.map Prod.snd).count id →
    Clash reserved identifiers (.repeatedIdentifier id)

namespace Config

/-- A defect of this configuration. -/
inductive Suffers (c : Config) : ConfigDefect → Prop where
  | channels {defect} :
    Clash c.can.reservedIds (c.can.channels.flatMap Channel.identifiers) defect → Suffers c defect
  | noSessionChannels :
    c.concurrentSessions = true → c.can.sessionChannels = [] → Suffers c .noSessionChannels
  | noInterface : c.can.interface = "" → Suffers c .noInterface
  | zeroTimeout :
    c.can.readTimeoutMs = 0 ∨ c.isotp.fcTimeoutMs = 0 → Suffers c .zeroTimeout
  | zeroRelayCapacity : c.isotp.relayCapacity = 0 → Suffers c .zeroRelayCapacity
  | equalAddresses : c.addressing.tester = c.addressing.ecu → Suffers c .equalAddresses
  | smallPayloadLimit :
    c.session.maxPayload.toNat < Doip.addressBytes →
    Suffers c (.smallPayloadLimit Doip.addressBytes)

/-- Every identifier has one use, and everything that the gateway needs is there. -/
structure Safe (c : Config) : Prop where
  distinct : (c.can.channels.flatMap Channel.ids).Nodup
  narrow : ∀ id ∈ c.can.channels.flatMap Channel.ids, id ≤ 0x7FF
  free : ∀ id ∈ c.can.channels.flatMap Channel.ids, id ∉ c.can.reservedIds
  ownChannels : c.concurrentSessions = true → c.can.sessionChannels ≠ []
  interface : c.can.interface ≠ ""
  readTimeout : c.can.readTimeoutMs ≠ 0
  fcTimeout : c.isotp.fcTimeoutMs ≠ 0
  relayCapacity : c.isotp.relayCapacity ≠ 0
  addresses : c.addressing.tester ≠ c.addressing.ecu
  payloadLimit : 4 ≤ c.session.maxPayload.toNat

variable {c : Config}

/-- The identifiers checked before are those seen. A defect that is found is one of them all. -/
theorem clash_of_checkIdentifiers {reserved : List UInt16} {defect : ConfigDefect}
    (identifiers : List (ChannelRole × UInt16)) :
    ∀ before, checkIdentifiers reserved (before.map Prod.snd).reverse identifiers =
      .error defect → Clash reserved (before ++ identifiers) defect := by
  induction identifiers with
  | nil => intro before refused; cases refused
  | cons first rest ih =>
      intro before refused
      obtain ⟨role, id⟩ := first
      have member : (role, id) ∈ before ++ (role, id) :: rest := by simp
      rw [checkIdentifiers] at refused
      split at refused
      · rename_i wide
        cases refused
        exact .wide member wide
      · split at refused
        · rename_i taken
          cases refused
          exact .reserved member taken
        · split at refused
          · rename_i seen
            cases refused
            have earlier : 0 < (before.map Prod.snd).count id :=
              List.count_pos_iff.mpr (List.mem_reverse.mp seen)
            apply Clash.repeated
            simp only [List.map_append, List.map_cons, List.count_append, List.count_cons_self]
            omega
          · have clash := ih (before ++ [(role, id)])
            simp only [List.map_append, List.map_cons, List.map_nil, List.reverse_append,
              List.reverse_cons, List.reverse_nil, List.nil_append, List.cons_append,
              List.append_assoc] at clash
            exact clash refused

theorem not_suffers_of_safe {defect : ConfigDefect} (safe : c.Safe) : ¬ c.Suffers defect := by
  have ids {role id} (member : (role, id) ∈ c.can.channels.flatMap Channel.identifiers) :
      id ∈ c.can.channels.flatMap Channel.ids := by
    rw [← Channel.map_snd_identifiers]
    exact List.mem_map_of_mem member
  intro suffers
  cases suffers with
  | channels clash =>
      cases clash with
      | wide member wide => exact absurd (safe.narrow _ (ids member)) (UInt16.not_le.mpr wide)
      | reserved member taken => exact safe.free _ (ids member) taken
      | repeated twice =>
          rw [Channel.map_snd_identifiers] at twice
          have once := List.nodup_iff_count.mp safe.distinct
          exact absurd twice (Nat.not_le_of_lt (Nat.lt_succ_of_le (once _)))
  | noSessionChannels concurrent none => exact safe.ownChannels concurrent none
  | noInterface empty => exact safe.interface empty
  | zeroTimeout zero => exact zero.elim safe.readTimeout safe.fcTimeout
  | zeroRelayCapacity zero => exact safe.relayCapacity zero
  | equalAddresses equal => exact safe.addresses equal
  | smallPayloadLimit small => exact absurd safe.payloadLimit (Nat.not_le_of_lt small)

/-- Checking finds a defect that is there, or none is. -/
theorem check_cases (c : Config) :
    (c.check = .ok () ∧ c.Safe) ∨ ∃ defect, c.check = .error defect ∧ c.Suffers defect := by
  cases checked : checkIdentifiers c.can.reservedIds []
      (c.can.channels.flatMap Channel.identifiers) with
  | error defect =>
      have clash := clash_of_checkIdentifiers _ [] checked
      refine .inr ⟨defect, ?_, .channels clash⟩
      rw [check, checked]
      rfl
  | ok =>
      have checks := checkIdentifiers_eq_ok_iff _ [] |>.mp checked
      rw [Channel.map_snd_identifiers] at checks
      obtain ⟨fits, distinct⟩ := checks
      simp only [check, checked, bind, Except.bind, throw, throwThe, MonadExceptOf.throw, pure,
        Except.pure]
      split
      case isTrue missing => exact .inr ⟨_, rfl, .noSessionChannels missing.1 missing.2⟩
      split
      case isTrue empty => exact .inr ⟨_, rfl, .noInterface empty⟩
      split
      case isTrue zero => exact .inr ⟨_, rfl, .zeroTimeout zero⟩
      split
      case isTrue zero => exact .inr ⟨_, rfl, .zeroRelayCapacity zero⟩
      split
      case isTrue equal => exact .inr ⟨_, rfl, .equalAddresses equal⟩
      split
      case isTrue small => exact .inr ⟨_, rfl, .smallPayloadLimit small⟩
      rename_i own interface timeouts capacity addresses large
      rw [not_or] at timeouts
      exact .inl ⟨rfl, {
        distinct
        narrow := fun id member => (fits id member).1
        free := fun id member => (fits id member).2.1
        ownChannels := not_and.mp own
        interface
        readTimeout := timeouts.1
        fcTimeout := timeouts.2
        relayCapacity := capacity
        addresses
        payloadLimit := Nat.le_of_not_lt large }⟩

theorem check_eq_ok_iff : c.check = .ok () ↔ c.Safe := by
  rcases check_cases c with ⟨checked, safe⟩ | ⟨defect, refused, suffers⟩
  · exact iff_of_true checked safe
  · rw [refused]
    exact iff_of_false nofun fun safe => not_suffers_of_safe safe suffers

theorem load_eq_ok_iff (text : List Char) :
    load text = .ok c ↔ ofText? text = some c ∧ c.check = .ok () := by
  unfold load
  split
  · rename_i unread
    rw [unread]
    exact iff_of_false nofun nofun
  · rename_i other read
    rw [read, Option.some.injEq]
    cases checked : other.check with
    | ok =>
        simp only [Except.map, Except.ok.injEq]
        exact ⟨fun same => ⟨same, same ▸ checked⟩, fun same => same.1⟩
    | error defect =>
        refine iff_of_false nofun ?_
        rintro ⟨rfl, fine⟩
        rw [checked] at fine
        cases fine

/-- A configuration is accepted exactly if it is safe, and refused for a defect that it has. Reading
a document gives no others. -/
theorem valid_iff_safe (c : Config) :
    (c.validate = .ok () ↔ c.Safe) ∧
    (¬ c.Safe → ∃ defect, c.validate = .error (.config defect) ∧ c.Suffers defect) ∧
    ∀ text, load text = .ok c ↔ ofText? text = some c ∧ c.Safe := by
  refine ⟨?_, ?_, ?_⟩
  · rw [← check_eq_ok_iff, validate]
    cases c.check with
    | ok => exact iff_of_true rfl rfl
    | error => exact iff_of_false nofun nofun
  · intro faulty
    obtain ⟨checked, safe⟩ | ⟨defect, refused, suffers⟩ := check_cases c
    · exact absurd safe faulty
    · exact ⟨defect, by rw [validate, refused]; rfl, suffers⟩
  · intro text
    rw [← check_eq_ok_iff]
    exact load_eq_ok_iff text

/-- The default is accepted. An identifier with two roles in two further channels is found, though
neither of them is the primary one, and no document gets past that. -/
theorem shared_identifier_refused :
    let shared : Config := { can := { sessionChannels := [⟨0x7E1, 0x7E9⟩, ⟨0x7E9, 0x7EA⟩] } }
    ({} : Config).validate = .ok () ∧
      (∃ defect, shared.validate = .error (.config defect) ∧ shared.Suffers defect) ∧
      ∀ text, load text ≠ .ok shared := by
  intro shared
  obtain ⟨accepts, _, _⟩ := valid_iff_safe {}
  obtain ⟨_, refuses, loaded⟩ := valid_iff_safe shared
  have ids : ({} : Config).can.channels.flatMap Channel.ids = [0x7E0, 0x7E8] := rfl
  have safe : ({} : Config).Safe := by
    constructor
    case narrow | free =>
      rw [ids, List.forall_mem_cons, List.forall_mem_singleton]
      decide
    all_goals decide
  have clashes : ¬ shared.Safe := fun safe => absurd safe.distinct (by decide)
  refine ⟨accepts.mpr safe, refuses clashes, ?_⟩
  intro text read
  exact clashes ((loaded text).mp read).2

end Config

end DiagnosticGateway
