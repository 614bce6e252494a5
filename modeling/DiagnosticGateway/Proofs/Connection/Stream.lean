import DiagnosticGateway.Proofs.Connection.Causality

/-! # One stream of two writers

The session thread and the forwarder write to the tester in any order, but each message as a whole.
What the tester gets is then a stream of messages, and reading it gives the replies of the session
thread and the deliveries of the forwarder back, each of them in order.
-/

namespace DiagnosticGateway

open Doip (Message PayloadType Source)
open Forwarder (Passage)
open IsoTp (maxMessage)

namespace Connection

/-! ## What is put out -/

/-- A list that takes its entries from two lists, those of each in order. -/
inductive Merge {α : Type} : List α → List α → List α → Prop where
  | nil : Merge [] [] []
  | left {x xs ys zs} : Merge xs ys zs → Merge (x :: xs) ys (x :: zs)
  | right {y xs ys zs} : Merge xs ys zs → Merge xs (y :: ys) (y :: zs)

theorem Merge.nil_left {α : Type} {ys zs : List α} (merge : Merge [] ys zs) : zs = ys := by
  generalize empty : ([] : List α) = xs at merge
  induction merge with
  | nil => rfl
  | left => cases empty
  | right _ ih => exact congrArg _ (ih empty)

theorem Merge.singleton_left {α : Type} {x : α} {ys zs : List α} (merge : Merge [x] ys zs) :
    ∃ before after, zs = before ++ x :: after ∧ ys = before ++ after := by
  generalize single : [x] = xs at merge
  induction merge with
  | nil => cases single
  | left rest =>
      cases single
      exact ⟨[], _, congrArg _ rest.nil_left, rfl⟩
  | @right y _ _ _ _ ih =>
      obtain ⟨before, after, rfl, rfl⟩ := ih single
      exact ⟨y :: before, after, rfl, rfl⟩

theorem Merge.filterMap {α β : Type} {f g : α → Option β} (apart : ∀ x, f x = none ∨ g x = none)
    (xs : List α) :
    Merge (xs.filterMap f) (xs.filterMap g) (xs.filterMap fun x => (f x).or (g x)) := by
  induction xs with
  | nil => exact .nil
  | cons x xs ih =>
      cases left : f x with
      | some a =>
          have right : g x = none := (apart x).resolve_left (left ▸ Option.some_ne_none a)
          simp only [List.filterMap_cons, left, right, Option.some_or]
          exact ih.left
      | none =>
          cases right : g x with
          | some b =>
              simp only [List.filterMap_cons, left, right, Option.none_or]
              exact ih.right
          | none =>
              simp only [List.filterMap_cons, left, right, Option.none_or]
              exact ih

namespace Happening

/-- The message that the session thread put out. -/
def reply? : Happening → Option Message
  | .session _ (.reply m (.ok ())) => some m
  | _ => none

/-- The message that the forwarder put out. -/
def delivery? : Happening → Option Message
  | .forwarder (.act (.deliver m) (.ok ())) _ => some m
  | _ => none

def message? (x : Happening) : Option Message := x.reply?.or x.delivery?

theorem reply?_eq_none_or (x : Happening) : x.reply? = none ∨ x.delivery? = none := by
  cases x with
  | session => exact .inr rfl
  | forwarder => exact .inl rfl

theorem message?_cases {x : Happening} {m : Message} (message : x.message? = some m) :
    (∃ reads, x = .session reads (.reply m (.ok ()))) ∨
      ∃ answers, x = .forwarder (.act (.deliver m) (.ok ())) answers := by
  rcases Option.or_eq_some_iff.mp message with reply | ⟨_, delivery⟩
  · unfold reply? at reply
    split at reply
    · cases reply
      exact .inl ⟨_, rfl⟩
    · cases reply
  · unfold delivery? at delivery
    split at delivery
    · cases delivery
      exact .inr ⟨_, rfl⟩
    · cases delivery

/-- A message could not be written as a whole. -/
def fails : Happening → Bool
  | .session _ (.reply _ (.error _)) => true
  | .forwarder (.act (.deliver _) (.error _)) _ => true
  | _ => false

end Happening

def messages (history : List Happening) : List Message := history.filterMap Happening.message?

theorem Puts.eq_toBytes {m bytes} (puts : Puts m bytes (.ok ())) : bytes = m.toBytes := by
  obtain ⟨τ, sink, before, after, written⟩ := puts
  have all := sink.writeMessage_of_ok m before
  rw [written] at all
  exact all rfl

namespace Shared

variable {s s' : Shared}

theorem ServesSession.out_eq {timeout call reads} (served : s.ServesSession timeout call s')
    (whole : ¬ (Happening.session reads call).fails) :
    s'.out = s.out ++ (messages [.session reads call]).flatMap Message.toBytes := by
  cases served with
  | look | read | write | wait | clear => exact (List.append_nil _).symm
  | @reply m _ outcome puts =>
      cases outcome with
      | error => exact absurd rfl whole
      | ok =>
          rw [puts.eq_toBytes]
          exact congrArg _ (List.append_nil m.toBytes).symm

theorem ServesForwarder.out_eq {call answers} (served : s.ServesForwarder call answers s')
    (whole : ¬ (Happening.forwarder call answers).fails) :
    s'.out = s.out ++ (messages [.forwarder call answers]).flatMap Message.toBytes := by
  cases served with
  | look | frame | timeout | broken | nothing | relay | write => exact (List.append_nil _).symm
  | @deliver m _ outcome puts =>
      cases outcome with
      | error => exact absurd rfl whole
      | ok =>
          rw [puts.eq_toBytes]
          exact congrArg _ (List.append_nil m.toBytes).symm

end Shared

variable {c : Config} {s t : State} {source : Source} {relay : Relay} {bus : List Bus.Frame}

theorem out_of_reachable (reached : Reachable c (.initial source relay bus) s)
    (whole : ∀ x ∈ s.history, ¬ x.fails) :
    s.shared.out = (messages s.history).flatMap Message.toBytes := by
  induction reached with
  | refl => rfl
  | tail _ step ih =>
      cases step with
      | session _ served =>
          obtain ⟨earlier, now⟩ := List.forall_mem_append.mp whole
          rw [messages, List.filterMap_append, List.flatMap_append, ← messages, ← ih earlier]
          exact served.out_eq (now _ List.mem_cons_self)
      | forwarder _ served =>
          obtain ⟨earlier, now⟩ := List.forall_mem_append.mp whole
          rw [messages, List.filterMap_append, List.flatMap_append, ← messages, ← ih earlier]
          exact served.out_eq (now _ List.mem_cons_self)
      | silent | signal | lower | close => exact ih whole

/-! ## Messages as they ought to be -/

/-- The longest payload that is put out: two addresses, and a message of an ECU that is marked as a
response. -/
def longest : Nat := Doip.addressBytes + (maxMessage + 1)

structure Proper (c : Config) (m : Message) : Prop where
  consistent : m.Consistent
  version : m.header.version = c.protocolVersion
  inverse : m.header.inverse = ~~~m.header.version
  type : m.header.type.toWire ∈ [0x0006, 0x8001, 0x8002, 0x8003]
  small : m.payload.length ≤ longest

namespace Proper

theorem ofType {type : PayloadType} {payload : List UInt8}
    (known : type.toWire ∈ [0x0006, 0x8001, 0x8002, 0x8003]) (canonical : type.Canonical)
    (small : payload.length ≤ longest) :
    Proper c ((Message.ofType type payload).withVersion c.protocolVersion) where
  consistent := by
    have lengthLt : payload.length < UInt32.size := Nat.lt_of_le_of_lt small (by decide)
    exact (Message.consistent_ofType lengthLt canonical).withVersion c.protocolVersion
  version := rfl
  inverse := rfl
  type := known
  small := small

theorem activation : Proper c (Session.activation c) :=
  ofType (by decide) (by decide) (by decide : 9 ≤ longest)

theorem acceptance : Proper c (Session.acceptance c) :=
  ofType (by decide) (by decide) (by decide : 5 ≤ longest)

theorem refusal : Proper c (Session.refusal c) :=
  ofType (by decide) (by decide) (by decide : 5 ≤ longest)

theorem delivery {data : List UInt8} (small : data.length ≤ maxMessage) :
    Proper c ((Forwarder.ofConfig c).message data) := by
  have marked : (wrapResponse data).length ≤ maxMessage + 1 :=
    Nat.le_trans (length_wrapResponse_le data) (Nat.succ_le_succ small)
  have fits : ((Forwarder.ofConfig c).message data).payload.length ≤ longest := by
    rw [Forwarder.length_payload_message]
    exact Nat.add_le_add_left marked Doip.addressBytes
  exact ofType (by decide) (by decide) fits

end Proper

/-- A delivery carries a message of the ECU, of any length that one may have. -/
theorem delivery?_of_reachable (reached : Reachable c (.initial source relay bus) s) :
    ∀ m ∈ s.history.filterMap Happening.delivery?,
      ∃ data, data.length ≤ maxMessage ∧ m = (Forwarder.ofConfig c).message data := by
  intro m this
  obtain ⟨x, this, delivery⟩ := List.mem_filterMap.mp this
  obtain ⟨before, after, split⟩ := List.append_of_mem this
  unfold Happening.delivery? at delivery
  split at delivery
  · cases delivery
    obtain ⟨⟨passage, _, ⟨_, _, spelling⟩, same⟩, _⟩ := delivery_of_reachable reached split
    exact ⟨passage.data, spelling.length_le, same⟩
  · cases delivery

/-- The session thread replies with one of three messages. -/
theorem reply?_of_reachable (reached : Reachable c (.initial source relay bus) s) :
    ∀ m ∈ s.history.filterMap Happening.reply?,
      m = Session.activation c ∨ m = Session.acceptance c ∨ m = Session.refusal c := by
  intro m this
  obtain ⟨x, this, reply⟩ := List.mem_filterMap.mp this
  obtain ⟨before, after, split⟩ := List.append_of_mem this
  unfold Happening.reply? at reply
  split at reply
  · cases reply
    obtain ⟨t, u, _, rfl, step, grown⟩ := reached.exists_step rfl split
    rcases step.call_cases grown with ⟨call, same, replied⟩ | ⟨_, _, other, _⟩
    · cases same
      exact replied.reply_cases
    · cases other
  · cases reply

theorem proper_of_reachable (reached : Reachable c (.initial source relay bus) s) :
    ∀ m ∈ messages s.history, Proper c m := by
  intro m this
  obtain ⟨x, this, message⟩ := List.mem_filterMap.mp this
  rcases Happening.message?_cases message with ⟨reads, rfl⟩ | ⟨answers, rfl⟩
  · rcases reply?_of_reachable reached m (List.mem_filterMap.mpr ⟨_, this, rfl⟩) with
      rfl | rfl | rfl
    · exact .activation
    · exact .acceptance
    · exact .refusal
  · obtain ⟨data, small, rfl⟩ := delivery?_of_reachable reached m
      (List.mem_filterMap.mpr ⟨_, this, rfl⟩)
    exact .delivery small

/-- If all messages could be written, then what the tester gets is read back as the replies and the
deliveries in some order that keeps the order of each, with nothing left over. All of them have the
configured version, its complement, the length of their payload, and one of four types. The replies
are an activation response, an acceptance or a refusal, byte for byte. A delivery comes after the
acceptance of any request that is answered by a frame read so far. -/
theorem two_writers_one_stream (reached : Reachable c (.initial source relay bus) s)
    (whole : ∀ x ∈ s.history, ¬ x.fails) :
    Merge (s.history.filterMap Happening.reply?) (s.history.filterMap Happening.delivery?)
      (messages s.history) ∧
    (∀ (limit : Nat) (reader : Source), longest ≤ limit → reader.Steady →
      reader.content = s.shared.out → reader.Gives limit (messages s.history)) ∧
    (∀ m ∈ messages s.history, m.header.version = c.protocolVersion ∧
      m.header.inverse = ~~~m.header.version ∧ m.header.length.toNat = m.payload.length ∧
      m.header.type.toWire ∈ [0x0006, 0x8001, 0x8002, 0x8003]) ∧
    (∀ m ∈ s.history.filterMap Happening.reply?, m.toBytes ∈
      [Session.activationBytes c, Session.acceptanceBytes c, Session.refusalBytes c]) ∧
    (Session.acceptance c).toBytes = Session.acceptanceBytes c ∧
    ∀ before m answers after,
      s.history = before ++ .forwarder (.act (.deliver m) (.ok ())) answers :: after →
      messages s.history = messages before ++ m :: messages after ∧
      (∃ passage : Passage, heard before = passage.events ∧ passage.Sound (.ofConfig c) ∧
        m = (Forwarder.ofConfig c).message passage.data) ∧
      ∀ call request, .forwarder call (some request) ∈ before →
        Happening.Accepts c before request ∧ Session.acceptance c ∈ messages before := by
  have proper := proper_of_reachable reached
  refine ⟨Merge.filterMap Happening.reply?_eq_none_or s.history, ?_, ?_, ?_,
    Session.toBytes_acceptance c, ?_⟩
  · intro limit reader enough steady content
    rw [out_of_reachable reached whole] at content
    refine Source.gives_of_content _ steady content fun m this => ?_
    have valid : m.header.isValid := beq_of_eq (proper m this).inverse
    exact ⟨(proper m this).consistent, valid, Nat.le_trans (proper m this).small enough⟩
  · intro m this
    have ⟨consistent, version, inverse, type, _⟩ := proper m this
    exact ⟨version, inverse, consistent.toNat_length, type⟩
  · intro m this
    rcases reply?_of_reachable reached m this with rfl | rfl | rfl
    · rw [Session.toBytes_activation]
      exact List.mem_cons_self
    · rw [Session.toBytes_acceptance]
      exact List.mem_cons_of_mem _ List.mem_cons_self
    · rw [Session.toBytes_refusal]
      exact List.mem_of_getLast? rfl
  · intro before m answers after split
    obtain ⟨spelled, accepted⟩ := delivery_of_reachable reached split
    refine ⟨?_, spelled, fun call request this => ⟨accepted call request this, ?_⟩⟩
    · rw [split, messages, List.filterMap_append]
      rfl
    · exact List.mem_filterMap.mpr ⟨_, accepted call request this, rfl⟩

/-- A request of three bytes and its answer. The tester reads the acceptance, then the answer. -/
theorem acceptance_before_answer :
    let source : Source :=
      [.data [0x02, 0xFD, 0x80, 0x01, 0, 0, 0, 7, 0x0E, 0x00, 0x10, 0x00, 0x22, 0xF1, 0x90]]
    let response := (Forwarder.ofConfig {}).message [0x62, 0xF1, 0x90]
    ∃ s before after, Reachable {} (.initial source (.ofCapacity 8) []) s ∧
      (∀ x ∈ s.history, ¬ x.fails) ∧
      (Source.ofBytes s.shared.out).Gives longest [Session.acceptance {}, response] ∧
      (Session.acceptance {}).toBytes = [0x02, 0xFD, 0x80, 0x02, 0, 0, 0, 5, 0x10, 0, 0x0E, 0, 0] ∧
      s.history = before ++ .forwarder (.act (.deliver response) (.ok ())) none :: after ∧
      Happening.Accepts {} before 1 := by
  intro source response
  let start := State.initial source (.ofCapacity 8) []
  let data : List UInt8 := [0x22, 0xF1, 0x90]
  let accepted := (Session.acceptance {}).toBytes
  let request : Message :=
    ⟨⟨0x02, 0xFD, .diagnosticMessage, 7⟩, [0x0E, 0x00, 0x10, 0x00] ++ data⟩
  let single : Bus.Frame := ⟨0x7E0, [0x03, 0x22, 0xF1, 0x90, 0, 0, 0, 0], by decide, by decide⟩
  let answer : Bus.Frame := ⟨0x7E8, [0x03, 0x62, 0xF1, 0x90], by decide, by decide⟩
  let sent : Session.Thread := ⟨.underway data (.finished (.ok ())), .connected, [], 1⟩
  let past : List Happening := [.session 0 (.look true), .session 1 (.read (.ok request)),
    .session 1 (.reply (Session.acceptance {}) (.ok ())),
    .session 1 (.link (.write single (.ok ())))]
  let before : List Happening := past ++ [.forwarder (.look true) none,
    .forwarder (.read (.ok (.frame answer))) (some 1)]
  have built : IsoTp.Pci.singleFrame (Session.sender {}).id data (Session.sender {}).padding =
      .ok single :=
    IsoTp.Pci.singleFrame_eq_ok_iff.mpr ⟨by decide, by decide, rfl, by decide⟩
  have put : IsoTp.Put
      (IsoTp.Pci.singleFrame (Session.sender {}).id data (Session.sender {}).padding)
      (some (.write single (.ok ()))) (.ok ()) := built ▸ .written
  have asked : Reachable {} start
      ⟨⟨.single data, .connected, [], 1⟩, .looking none, ⟨true, .ofCapacity 8, [], accepted⟩,
        past.take 3⟩ :=
    ((Relation.ReflTransGen.refl.tail (.session .look .look)).tail
      (.session (.read rfl) .read)).tail (.session .accept (.reply (.whole _)))
  have written : Reachable {} start
      ⟨sent, .looking none, ⟨true, .ofCapacity 8, [], accepted⟩, past⟩ :=
    asked.tail (.session (.single put) .write)
  have caused : ∀ number ∈ some 1, Happening.Writes past number := by
    intro number this
    cases this
    exact ⟨single, List.mem_of_getLast? rfl⟩
  have answered : Reachable {} start
      ⟨sent, .looking none, ⟨true, .ofCapacity 8, [⟨answer, some 1⟩], accepted⟩, past⟩ :=
    written.tail (.signal caused)
  have taken : Shared.ServesForwarder ⟨true, .ofCapacity 8, [⟨answer, some 1⟩], accepted⟩
      (.read (.ok (.frame answer))) (some 1) ⟨true, .ofCapacity 8, [], accepted⟩ :=
    @Shared.ServesForwarder.frame _ ⟨answer, some 1⟩ [] rfl
  have read : Reachable {} start
      ⟨sent, .acting (.deliver response) none, ⟨true, .ofCapacity 8, [], accepted⟩, before⟩ :=
    (answered.tail (.forwarder .look .look)).tail (.forwarder .read taken)
  have delivered : Reachable {} start
      ⟨sent, .looking none, ⟨true, .ofCapacity 8, [], accepted ++ response.toBytes⟩,
        before ++ [.forwarder (.act (.deliver response) (.ok ())) none]⟩ :=
    read.tail (.forwarder .act (.deliver (.whole _)))
  have whole : ∀ x ∈ before ++ [.forwarder (.act (.deliver response) (.ok ())) none],
      ¬ x.fails := by decide
  obtain ⟨_, gives, _, _, spelled, ordered⟩ := two_writers_one_stream delivered whole
  obtain ⟨_, _, acceptance⟩ := ordered before response none [] rfl
  refine ⟨_, before, [], delivered, whole, ?_, spelled.trans (by decide), rfl, ?_⟩
  · exact gives longest _ (Nat.le_refl longest) (Source.steady_ofBytes _) (Source.content_ofBytes _)
  · exact (acceptance (.read (.ok (.frame answer))) 1 (List.mem_of_getLast? rfl)).1

end Connection

end DiagnosticGateway
