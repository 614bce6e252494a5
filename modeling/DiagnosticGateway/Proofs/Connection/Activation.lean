import DiagnosticGateway.Proofs.Connection.Closing
import DiagnosticGateway.Proofs.Connection.Stream
import DiagnosticGateway.Tester

/-! # A tester that asks for routing

A tester that has asked for routing takes the next message for the answer. The forwarder is at work
before the session thread reads the request, so a message of the ECU may come first. Then the tester
fails, although the answer is on its way or in the stream already.
-/

namespace DiagnosticGateway

open Doip (ActivationCode Message Source)
open Threads (Run)

/-! ## The session thread -/

namespace Session

def Call.reply? : Call → Option Message
  | .reply m (.ok ()) => some m
  | _ => none

/-- A message that is read as a request for routing. -/
structure AsksRouting (m : Message) : Prop where
  consistent : m.Consistent
  valid : m.header.isValid
  handled : Point.handling m = .activating

/-- How far a session thread has come whose tester sends this request and nothing else, and what it
has replied. -/
inductive Asked (c : Config) (request : Message) (t : Thread) : List Message → Prop where
  | coming :
    t.point = .looking ∨ t.point = .reading → t.source.Steady →
    t.source.content = request.toBytes → Asked c request t []
  | taken : t.point = .activating → t.source.Steady → t.source.content = [] → Asked c request t []
  | settled {replies} :
    t.point = .looking ∨ t.point = .reading → t.source.Steady → t.source.content = [] →
    replies <+: [activation c] → Asked c request t replies
  | ended {outcome replies} :
    t.point = .ended outcome → replies <+: [activation c] → Asked c request t replies

namespace Asked

variable {c : Config} {request : Message} {t t' : Thread} {replies : List Message}

theorem isPrefix (asked : Asked c request t replies) : replies <+: [activation c] := by
  cases asked with
  | coming | taken => exact List.nil_prefix
  | settled _ _ _ answered | ended _ answered => exact answered

theorem step {call} (asked : Asked c request t replies) (asks : AsksRouting request)
    (step : Thread.Step c t call t') :
    Asked c request t' (replies ++ (call.bind Call.reply?).toList) := by
  obtain ⟨point, state, source, reads⟩ := t
  cases asked with
  | coming between steady content =>
      rcases between with rfl | rfl
      · cases step with
        | @look active =>
            cases active with
            | true => exact .coming (.inr rfl) steady content
            | false => exact .ended rfl List.nil_prefix
      · cases step with
        | read read =>
            obtain ⟨left, taken, leftSteady, leftContent⟩ := Source.exists_readMessage_toBytes
              c.session.maxPayload.toNat asks.consistent asks.valid steady
              (content.trans (List.append_nil _).symm)
            obtain ⟨rfl, rfl⟩ := Prod.mk.inj (read.symm.trans taken)
            split
            · exact .settled (.inl rfl) leftSteady leftContent List.nil_prefix
            · exact .taken asks.handled leftSteady leftContent
  | taken here steady content =>
      cases here
      cases step with
      | @activate outcome =>
          cases outcome with
          | ok => exact .settled (.inl rfl) steady content (List.prefix_refl _)
          | error => exact .ended rfl List.nil_prefix
  | settled between steady content answered =>
      rcases between with rfl | rfl
      · cases step with
        | @look active =>
            change Asked c request _ (replies ++ [])
            rw [List.append_nil]
            cases active with
            | true => exact .settled (.inr rfl) steady content answered
            | false => exact .ended rfl answered
      · cases step with
        | read read =>
            obtain ⟨left, closed⟩ :=
              Source.exists_readMessage_end c.session.maxPayload.toNat steady content
            obtain ⟨rfl, rfl⟩ := Prod.mk.inj (read.symm.trans closed)
            change Asked c request _ (replies ++ [])
            rw [List.append_nil]
            exact .ended rfl answered
  | ended here answered =>
      cases here
      cases step

theorem run {calls} (asked : Asked c request t replies) (asks : AsksRouting request)
    (run : Run (Thread.Step c) t calls t') :
    Asked c request t' (replies ++ calls.filterMap Call.reply?) := by
  induction run generalizing replies with
  | refl => exact (List.append_nil replies).symm ▸ asked
  | @step t call t' calls u next rest ih =>
      have later := ih (asked.step asks next)
      rw [List.append_assoc] at later
      rw [List.filterMap_append]
      cases call <;> exact later

end Asked

/-- A session thread answers a single request for routing at most once, and replies nothing else. -/
theorem replies_of_run {c : Config} {request : Message} {t : Thread} {calls : List Call}
    {source : Source} (asks : AsksRouting request) (steady : source.Steady)
    (content : source.content = request.toBytes)
    (run : Run (Thread.Step c) ⟨.looking, .connected, source, 0⟩ calls t) :
    calls.filterMap Call.reply? <+: [activation c] :=
  have start : Asked c request ⟨.looking, .connected, source, 0⟩ [] :=
    .coming (.inl rfl) steady content
  (start.run asks run).isPrefix

end Session

/-! ## The tester -/

namespace Tester

/-- What a tester that waits for the answer to a request for routing makes of the next message. -/
def activationOutcome (m : Message) : Except Fault ActivationCode :=
  if maxPayload < m.payload.length then .error (.payloadTooLarge m.payload.length maxPayload)
  else activationCode m

theorem exists_awaitActivation {m : Message} {source : Source} {rest : List UInt8}
    (consistent : m.Consistent) (valid : m.header.isValid) (steady : source.Steady)
    (content : source.content = m.toBytes ++ rest) :
    ∃ left : Source, awaitActivation source = (activationOutcome m, left) ∧ left.Steady ∧
      left.content = rest := by
  obtain ⟨left, read, leftSteady, leftContent⟩ :=
    Source.exists_readMessage_toBytes maxPayload consistent valid steady content
  refine ⟨left, ?_, leftSteady, leftContent⟩
  simp only [awaitActivation, receive, read, activationOutcome]
  by_cases large : maxPayload < m.payload.length
  · rw [if_pos large, if_pos large]
    rfl
  · rw [if_neg large, if_neg large]
    rfl

theorem activationOutcome_activation (c : Config) :
    activationOutcome (Session.activation c) = .ok .success :=
  rfl

theorem activationOutcome_message (fw : Forwarder) (data : List UInt8) :
    activationOutcome (fw.message data) =
      .error (if maxPayload < (fw.message data).payload.length then
        .payloadTooLarge (fw.message data).payload.length maxPayload
        else .invalidPayload (.notActivationResponse 0x8001)) := by
  rw [activationOutcome, apply_ite Except.error]
  rfl

theorem asksRouting_activationRequest (tester : Tester) (activationType : UInt8) :
    Session.AsksRouting (tester.activationRequest activationType) where
  consistent := Message.consistent_ofType (by decide : 7 < UInt32.size) (by decide)
  valid := beq_of_eq rfl
  handled := rfl

end Tester

/-! ## The connection -/

namespace Connection

theorem reply?_sessionCalls (history : List Happening) :
    history.filterMap Happening.reply? = (sessionCalls history).filterMap Session.Call.reply? := by
  rw [sessionCalls, List.filterMap_filterMap]
  congr 1
  funext x
  cases x with
  | session _ call =>
      cases call with
      | reply _ outcome => cases outcome <;> rfl
      | look | read | link => rfl
  | forwarder => rfl

variable {c : Config} {s t : State} {source : Source} {relay : Relay} {bus : List Bus.Frame}

/-- If the tester has sent one request for routing and the answer is in the stream, then all other
messages in the stream are those of the forwarder. -/
theorem exists_answer {request : Message} (asks : Session.AsksRouting request)
    (steady : source.Steady) (asked : source.content = request.toBytes)
    (reached : Reachable c (.initial source relay bus) s)
    (answered : Session.activation c ∈ messages s.history) :
    ∃ before after, messages s.history = before ++ Session.activation c :: after ∧
      s.history.filterMap Happening.delivery? = before ++ after := by
  obtain ⟨calls, logged, run, _⟩ := session_run reached
  have calls_eq : sessionCalls s.history = calls := logged
  have replies : s.history.filterMap Happening.reply? <+: [Session.activation c] := by
    rw [reply?_sessionCalls, calls_eq]
    exact Session.replies_of_run asks steady asked run
  have replied : Session.activation c ∈ s.history.filterMap Happening.reply? := by
    obtain ⟨x, member, message⟩ := List.mem_filterMap.mp answered
    refine List.mem_filterMap.mpr ⟨x, member, ?_⟩
    rcases Option.or_eq_some_iff.mp message with reply | ⟨_, delivery⟩
    · exact reply
    · obtain ⟨data, _, same⟩ := delivery?_of_reachable reached _
        (List.mem_filterMap.mpr ⟨x, member, delivery⟩)
      exact nomatch congrArg (·.header.type) same
  have single : s.history.filterMap Happening.reply? = [Session.activation c] := by
    rcases List.prefix_cons_iff.mp replies with none | ⟨rest, one, empty⟩
    · rw [none] at replied
      cases replied
    · rw [one, List.prefix_nil.mp empty]
  have merge := Merge.filterMap Happening.reply?_eq_none_or s.history
  rw [single] at merge
  exact merge.singleton_left

section Exchanges

variable {start : State} {session : Session.Thread} {forwarder : Forwarder.Point}
variable {shared : Shared} {history : List Happening}

theorem Reachable.answer {request : Message} {source left : Source} {reads : Nat}
    (reached : Reachable c start
      ⟨⟨.looking, .connected, source, reads⟩, forwarder, shared, history⟩)
    (active : shared.active = true)
    (read : source.readMessage c.session.maxPayload.toNat = (.ok request, left))
    (asks : Session.Point.handling request = .activating) :
    Reachable c start ⟨⟨.looking, .activated, left, reads + 1⟩, forwarder,
      { shared with out := shared.out ++ (Session.activation c).toBytes },
      history ++ [.session reads (.look true)] ++ [.session (reads + 1) (.read (.ok request))] ++
        [.session (reads + 1) (.reply (Session.activation c) (.ok ()))]⟩ := by
  obtain ⟨_, relay, bus, out⟩ := shared
  cases active
  have looked := reached.tail (.session .look .look)
  have taken := looked.tail (.session (.read read) .read)
  rw [show Session.Point.afterRead (.ok request) = .activating from asks] at taken
  exact taken.tail (.session .activate (.reply (.whole _)))

/-- A forwarder whose next frame completes a message delivers it. -/
theorem Reachable.deliver {signal : Signal} {rest : List Signal} {m : Message}
    {pending next : Option IsoTp.Reassembly}
    (reached : Reachable c start ⟨session, .looking pending, shared, history⟩)
    (active : shared.active = true) (comes : shared.bus = signal :: rest)
    (completes : (Forwarder.ofConfig c).react pending (.frame signal.frame) =
      .ok (.deliver m, next)) :
    Reachable c start ⟨session, .looking next,
      { shared with bus := rest, out := shared.out ++ m.toBytes },
      history ++ [.forwarder (.look true) none] ++
        [.forwarder (.read (.ok (.frame signal.frame))) signal.answers] ++
        [.forwarder (.act (.deliver m) (.ok ())) none]⟩ := by
  obtain ⟨_, relay, bus, out⟩ := shared
  cases active
  have looked := reached.tail (.forwarder .look .look)
  have taken := looked.tail (.forwarder .read (.frame comes))
  rw [Forwarder.Point.afterRead, completes] at taken
  exact taken.tail (.forwarder .act (.deliver (.whole _)))

end Exchanges

/-- The first message in the stream decides whether a tester that has asked for routing succeeds.
It succeeds if the answer comes first. Otherwise it takes a message of the ECU for the answer and
fails, and the answer stays in the stream. -/
theorem first_message_taken_for_answer {reader : Source} {tester : Tester} {activationType : UInt8}
    (steady : source.Steady)
    (asked : source.content = (tester.activationRequest activationType).toBytes)
    (reached : Reachable c (.initial source relay bus) s) (whole : ∀ x ∈ s.history, ¬ x.fails)
    (answered : Session.activation c ∈ messages s.history)
    (readerSteady : reader.Steady) (content : reader.content = s.shared.out) :
    ∃ before after, messages s.history = before ++ Session.activation c :: after ∧
      s.history.filterMap Happening.delivery? = before ++ after ∧
      (before = [] → ∃ left, Tester.awaitActivation reader = (.ok .success, left) ∧ left.Steady ∧
        left.content = after.flatMap Message.toBytes) ∧
      ∀ m more, before = m :: more → ∃ left,
        Tester.awaitActivation reader =
          (.error (if Tester.maxPayload < m.payload.length then
            .payloadTooLarge m.payload.length Tester.maxPayload
            else .invalidPayload (.notActivationResponse 0x8001)), left) ∧
        left.Steady ∧
        left.content = (more ++ Session.activation c :: after).flatMap Message.toBytes := by
  obtain ⟨before, after, split, delivered⟩ := exists_answer
    (tester.asksRouting_activationRequest activationType) steady asked reached answered
  have proper := proper_of_reachable reached
  rw [out_of_reachable reached whole, split] at content
  rw [split] at proper
  refine ⟨before, after, split, delivered, ?_, ?_⟩
  · rintro rfl
    have first := proper _ List.mem_cons_self
    rw [← Tester.activationOutcome_activation c]
    exact Tester.exists_awaitActivation first.consistent (beq_of_eq first.inverse) readerSteady
      content
  · rintro m more rfl
    have first := proper _ List.mem_cons_self
    obtain ⟨data, _, rfl⟩ := delivery?_of_reachable reached m (delivered ▸ List.mem_cons_self)
    rw [← Tester.activationOutcome_message]
    exact Tester.exists_awaitActivation first.consistent (beq_of_eq first.inverse) readerSteady
      content

/-- The answer comes first, then a message of the ECU, which stays in the stream. -/
theorem answer_before_message :
    let request := (Tester.mk ⟨0x0E00⟩).activationRequest 0
    let frame : Bus.Frame := ⟨0x7E8, [0x03, 0x62, 0xF1, 0x90], by decide, by decide⟩
    let message := (Forwarder.ofConfig {}).message [0x62, 0xF1, 0x90]
    ∃ s, Reachable {} (.initial (.ofBytes request.toBytes) (.ofCapacity 8) [frame]) s ∧
      (∀ x ∈ s.history, ¬ x.fails) ∧
      messages s.history = [Session.activation {}, message] ∧
      ∃ left, Tester.awaitActivation (.ofBytes s.shared.out) = (.ok .success, left) ∧
        left.content = message.toBytes := by
  intro request frame message
  let start := State.initial (.ofBytes request.toBytes) (.ofCapacity 8) [frame]
  have read : Source.readMessage ({} : Config).session.maxPayload.toNat (.ofBytes request.toBytes) =
      (.ok request, []) := by cbv
  have completes : (Forwarder.ofConfig {}).react none (.frame frame) =
      .ok (.deliver message, none) := rfl
  have started : Reachable {} start start := .refl
  have delivered := (started.answer rfl read rfl).deliver rfl rfl completes
  refine ⟨_, delivered, by decide, rfl, ?_⟩
  obtain ⟨before, after, split, deliveries, first, _⟩ :=
    first_message_taken_for_answer (Source.steady_ofBytes _) (Source.content_ofBytes _) delivered
      (by decide) List.mem_cons_self (Source.steady_ofBytes _) (Source.content_ofBytes _)
  cases before with
  | nil =>
      obtain ⟨left, accepted, _, content⟩ := first rfl
      have rest : [message] = after := deliveries
      exact ⟨left, accepted, content.trans (rest ▸ List.append_nil _)⟩
  | cons m more =>
      have answer : Session.activation {} = m := (List.cons.inj split).1
      have message : message = m := (List.cons.inj deliveries).1
      have clash := congrArg (·.header.type) (answer.trans message.symm)
      cases clash

/-- A message of the ECU comes before the answer. The answer is in the stream, and the tester fails
all the same. -/
theorem message_before_answer :
    let request := (Tester.mk ⟨0x0E00⟩).activationRequest 0
    let frame : Bus.Frame := ⟨0x7E8, [0x03, 0x62, 0xF1, 0x90], by decide, by decide⟩
    let message := (Forwarder.ofConfig {}).message [0x62, 0xF1, 0x90]
    ∃ s, Reachable {} (.initial (.ofBytes request.toBytes) (.ofCapacity 8) [frame]) s ∧
      (∀ x ∈ s.history, ¬ x.fails) ∧
      messages s.history = [message, Session.activation {}] ∧
      (Tester.awaitActivation (.ofBytes s.shared.out)).1 =
        .error (.invalidPayload (.notActivationResponse 0x8001)) := by
  intro request frame message
  let start := State.initial (.ofBytes request.toBytes) (.ofCapacity 8) [frame]
  have read : Source.readMessage ({} : Config).session.maxPayload.toNat (.ofBytes request.toBytes) =
      (.ok request, []) := by cbv
  have completes : (Forwarder.ofConfig {}).react none (.frame frame) =
      .ok (.deliver message, none) := rfl
  have started : Reachable {} start start := .refl
  have answered := (started.deliver rfl rfl completes).answer rfl read rfl
  have proper : Connection.Proper {} message := .delivery (by decide)
  obtain ⟨left, refused, _⟩ := Tester.exists_awaitActivation proper.consistent
    (beq_of_eq proper.inverse) (Source.steady_ofBytes _)
    (Source.content_ofBytes (message.toBytes ++ (Session.activation {}).toBytes))
  exact ⟨_, answered, by decide, rfl, congrArg Prod.fst refused⟩

end Connection

end DiagnosticGateway
