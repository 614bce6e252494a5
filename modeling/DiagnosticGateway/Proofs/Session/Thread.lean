import DiagnosticGateway.Proofs.IsoTp.FrameCoding
import DiagnosticGateway.Proofs.Session.Transcript
import DiagnosticGateway.Proofs.Threads

/-! # A session thread, call by call

`Session.serve` handles all that comes over a connection at once. Here the same thread is taken apart
into steps of at most one call each, so that other threads can come in between any two of them. A
step knows of the world only what its call was answered, and so the steps say what a session thread
may do in any world. `exists_serve_reaches` says that they are the steps of `serve`.
-/

namespace DiagnosticGateway

open Bus (Frame)
open Doip (Diagnostic Message Source)
open IsoTp (Link Pci Phase Progress Sender firstData maxMessage singleMax)

/-! ## The sender -/

namespace IsoTp

/-- What becomes of a frame that is to be written: a call, if it can be built at all. -/
inductive Put : Except Fault Frame → Option Call → Except Fault Unit → Prop where
  | written {frame outcome} : Put (.ok frame) (some (.write frame outcome)) outcome
  | unbuilt {fault} : Put (.error fault) none (.error fault)

/-- The phase that a write leads to. -/
def Phase.afterPut (outcome : Except Fault Unit) (next : Phase) : Phase :=
  match outcome with
  | .ok () => next
  | .error fault => .finished (.error fault)

/-- A step of the sender of a segmented message. -/
inductive Phase.Step (sender : Sender) : Phase → Option Call → Phase → Prop where
  | cleared {p fc} : Step sender (.awaiting p) (some (.wait (.ok fc))) (.cleared p fc)
  | stranded {p fault} :
    Step sender (.awaiting p) (some (.wait (.error fault))) (.finished (.error fault))
  | put {p room call outcome} :
    p.rest ≠ [] → Put (sender.nextFrame p) call outcome →
    Step sender (.sending p room) call (afterPut outcome (.wrote p room))
  | exhausted {p room} : p.rest = [] → Step sender (.sending p room) none (.finished (.ok ()))

theorem Put.exists_write {built call outcome} (put : Put built (some call) outcome) :
    ∃ frame, built = .ok frame ∧ call = .write frame outcome := by
  cases put
  exact ⟨_, rfl, rfl⟩

theorem Put.built {built frame answer outcome}
    (put : Put built (some (.write frame answer)) outcome) : built = .ok frame := by
  obtain ⟨_, built, same⟩ := put.exists_write
  cases same
  exact built

end IsoTp

namespace Session

/-! ## The thread -/

/-- A call of a session thread, with what it was answered. -/
inductive Call where
  /-- A look at the active flag. -/
  | look (active : Bool)
  | read (result : Except Fault Message)
  | reply (message : Message) (outcome : Except Fault Unit)
  /-- A call of the sender. -/
  | link (call : IsoTp.Call)

/-- The frame that a call puts, or fails to put, on the bus. -/
def Call.frame? : Call → Option Frame
  | .link (.write frame _) => some frame
  | _ => none

/-- Where a session thread stands. -/
inductive Point where
  /-- Between two messages, before a look at the active flag. -/
  | looking
  /-- Within the reading of a message. -/
  | reading
  /-- A read has failed, and the active flag decides whether the session fails with it. -/
  | doubting (fault : Fault)
  | activating
  /-- A diagnostic message with these service bytes is about to be accepted. -/
  | accepting (data : List UInt8)
  | single (data : List UInt8)
  /-- The relay is cleared before a first frame goes out. -/
  | clearing (data : List UInt8)
  | opening (data : List UInt8)
  /-- The first frame is out, or the sender is at its end. -/
  | underway (data : List UInt8) (phase : Phase)
  | refusing
  | ended (outcome : Except Fault Unit)

namespace Point

/-- What the type and the payload of a message call for. -/
def handling (m : Message) : Point :=
  match m.header.type with
  | .routingActivationRequest => .activating
  | .diagnosticMessage =>
    match Diagnostic.ofPayload m.payload with
    | .error _ => .looking
    | .ok request => if request.userData = [] then .looking else .accepting request.userData
  | _ => .looking

def afterRead : Except Fault Message → Point
  | .ok m => handling m
  | .error fault =>
    if fault.isDisconnect then .ended (.ok ())
    else if fault.isFraming then .looking
    else .doubting fault

/-- A reply that fails ends the session. -/
def afterReply (outcome : Except Fault Unit) (next : Point) : Point :=
  match outcome with
  | .ok () => next
  | .error fault => .ended (.error fault)

/-- Where the sending of service bytes starts. -/
def start (data : List UInt8) : Point :=
  if data.length = 0 then .underway data (.finished (.error .emptyPayload))
  else if maxMessage < data.length then
    .underway data (.finished (.error (.payloadTooLarge data.length maxMessage)))
  else if data.length ≤ singleMax then .single data
  else .clearing data

/-- At these points a thread neither has service bytes to send nor is about to get any. -/
def Idle : Point → Prop
  | .looking | .doubting _ | .activating | .refusing | .ended _ => True
  | _ => False

/-- At these points a thread is sending service bytes. -/
def Sending : Point → Prop
  | .single _ | .clearing _ | .opening _ | .underway _ _ => True
  | _ => False

theorem Idle.not_sending {point : Point} (idle : point.Idle) : ¬ point.Sending := by
  cases point <;> first | exact id | exact idle.elim

theorem idle_afterRead_or (result : Except Fault Message) :
    (afterRead result).Idle ∨
      ∃ m data, result = .ok m ∧ handling m = .accepting data ∧
        afterRead result = .accepting data := by
  cases result with
  | error fault =>
      rw [afterRead]
      split
      · exact .inl trivial
      · split <;> exact .inl trivial
  | ok m =>
      rw [afterRead]
      cases handled : handling m with
      | looking | activating => exact .inl trivial
      | accepting data => exact .inr ⟨m, data, rfl, handled, rfl⟩
      | _ =>
          unfold handling at handled
          split at handled
          · cases handled
          · split at handled
            · cases handled
            · split at handled <;> cases handled
          · cases handled

end Point

structure Thread where
  point : Point
  state : SessionState
  source : Source
  /-- How often it has read so far. -/
  reads : Nat

namespace Thread

inductive Step (c : Config) : Thread → Option Call → Thread → Prop where
  | look {active state source reads} :
    Step c ⟨.looking, state, source, reads⟩ (some (.look active))
      ⟨if active then .reading else .ended (.ok ()), state, source, reads⟩
  | read {result left state source reads} :
    source.readMessage c.session.maxPayload.toNat = (result, left) →
    Step c ⟨.reading, state, source, reads⟩ (some (.read result))
      ⟨.afterRead result, state, left, reads + 1⟩
  | doubt {fault active state source reads} :
    Step c ⟨.doubting fault, state, source, reads⟩ (some (.look active))
      ⟨.ended (if active then .error fault else .ok ()), state, source, reads⟩
  | activate {outcome state source reads} :
    Step c ⟨.activating, state, source, reads⟩ (some (.reply (activation c) outcome))
      ⟨.afterReply outcome .looking, if state = .connected then .activated else state, source,
        reads⟩
  | accept {data outcome state source reads} :
    Step c ⟨.accepting data, state, source, reads⟩ (some (.reply (acceptance c) outcome))
      ⟨.afterReply outcome (.start data), state, source, reads⟩
  | single {data call outcome state source reads} :
    IsoTp.Put (Pci.singleFrame (sender c).id data (sender c).padding) call outcome →
    Step c ⟨.single data, state, source, reads⟩ (call.map .link)
      ⟨.underway data (.finished outcome), state, source, reads⟩
  | clear {data state source reads} :
    Step c ⟨.clearing data, state, source, reads⟩ (some (.link .clear))
      ⟨.opening data, state, source, reads⟩
  | first {data call outcome state source reads} :
    IsoTp.Put (Pci.firstFrame (sender c).id data.length data) call outcome →
    Step c ⟨.opening data, state, source, reads⟩ (call.map .link)
      ⟨.underway data (.afterPut outcome (.opened data)), state, source, reads⟩
  | send {data phase call next state source reads} :
    Phase.Step (sender c) phase call next →
    Step c ⟨.underway data phase, state, source, reads⟩ (call.map .link)
      ⟨.underway data next, state, source, reads⟩
  | settle {data outcome state source reads} :
    Step c ⟨.underway data (.finished outcome), state, source, reads⟩ none
      ⟨if refuses c outcome then .refusing else .looking, afterSend state outcome, source, reads⟩
  | refuse {outcome state source reads} :
    Step c ⟨.refusing, state, source, reads⟩ (some (.reply (refusal c) outcome))
      ⟨.afterReply outcome .looking, state, source, reads⟩

variable {c : Config} {t t' : Thread}

theorem Step.link_cases {call} (step : Step c t (some (.link call)) t') :
    ∃ data,
      (t.point = .single data ∧ ∃ outcome,
        IsoTp.Put (Pci.singleFrame (sender c).id data (sender c).padding) (some call) outcome ∧
        t'.point = .underway data (.finished outcome)) ∨
      (t.point = .clearing data ∧ call = .clear ∧ t'.point = .opening data) ∨
      (t.point = .opening data ∧ ∃ outcome,
        IsoTp.Put (Pci.firstFrame (sender c).id data.length data) (some call) outcome ∧
        t'.point = .underway data (.afterPut outcome (.opened data))) ∨
      ∃ phase next, t.point = .underway data phase ∧ Phase.Step (sender c) phase (some call) next ∧
        t'.point = .underway data next := by
  generalize made : some (Call.link call) = label at step
  cases step with
  | look | read | doubt | activate | accept | settle | refuse => cases made
  | clear =>
      cases made
      exact ⟨_, .inr (.inl ⟨rfl, rfl, rfl⟩)⟩
  | single put =>
      obtain ⟨_, rfl, same⟩ := Option.map_eq_some_iff.mp made.symm
      cases same
      exact ⟨_, .inl ⟨rfl, _, put, rfl⟩⟩
  | first put =>
      obtain ⟨_, rfl, same⟩ := Option.map_eq_some_iff.mp made.symm
      cases same
      exact ⟨_, .inr (.inr (.inl ⟨rfl, _, put, rfl⟩))⟩
  | send step =>
      obtain ⟨_, rfl, same⟩ := Option.map_eq_some_iff.mp made.symm
      cases same
      exact ⟨_, .inr (.inr (.inr ⟨_, _, rfl, step, rfl⟩))⟩

theorem Step.reply_cases {m outcome} (step : Step c t (some (.reply m outcome)) t') :
    m = activation c ∨ m = acceptance c ∨ m = refusal c := by
  generalize made : some (Call.reply m outcome) = label at step
  cases step with
  | activate =>
      cases made
      exact .inl rfl
  | accept =>
      cases made
      exact .inr (.inl rfl)
  | refuse =>
      cases made
      exact .inr (.inr rfl)
  | look | read | doubt | clear | settle => cases made
  | single | first | send =>
      obtain ⟨_, _, same⟩ := Option.map_eq_some_iff.mp made.symm
      cases same

/-- A session thread only calls its sender where it is sending. -/
theorem Step.sending_of_link {call} (step : Step c t (some (.link call)) t') :
    t.point.Sending ∧ t'.reads = t.reads := by
  generalize made : some (Call.link call) = label at step
  cases step with
  | look | read | doubt | activate | accept | settle | refuse => cases made
  | single | clear | first | send => exact ⟨trivial, rfl⟩

/-- A session thread only gets to a point where it is sending by an acceptance that is written. -/
theorem Step.sending {call} (step : Step c t call t') (sending : t'.point.Sending) :
    t'.reads = t.reads ∧ (t.point.Sending ∨ call = some (.reply (acceptance c) (.ok ()))) := by
  cases step with
  | @look active => cases active <;> exact sending.elim
  | @read result =>
      rcases Point.idle_afterRead_or result with idle | ⟨_, _, _, _, accepting⟩
      · exact (idle.not_sending sending).elim
      · exact (accepting ▸ sending : (Point.accepting _).Sending).elim
  | doubt => exact sending.elim
  | @activate outcome | @refuse outcome => cases outcome <;> exact sending.elim
  | @accept _ outcome =>
      cases outcome with
      | error => exact sending.elim
      | ok => exact ⟨rfl, .inr rfl⟩
  | single | clear | first | send => exact ⟨rfl, .inl trivial⟩
  | settle =>
      simp only at sending
      split at sending <;> exact sending.elim

/-- A session thread only writes full frames, on the identifier for requests. -/
theorem Step.full {frame answer} (step : Step c t (some (.link (.write frame answer))) t') :
    frame.Full c.can.requestId := by
  obtain ⟨_, ⟨_, _, put, _⟩ | ⟨_, cleared, _⟩ | ⟨_, _, put, _⟩ | ⟨_, _, _, step, _⟩⟩ :=
    step.link_cases
  · exact Pci.full_of_singleFrame put.built
  · cases cleared
  · exact Pci.full_of_firstFrame put.built
  · cases step with
    | put _ put => exact Pci.full_of_consecutiveFrame put.built

end Thread

/-! ## Its world -/

variable {σ : Type}

/-- What a call does to the state of a wiring, and what it is answered there. -/
inductive Wiring.Does (wiring : Wiring σ) (timeout : Span) : σ → Call → σ → Prop where
  | look {s active s'} :
    wiring.isActive s = (active, s') → Does wiring timeout s (.look active) s'
  | read {s result} : Does wiring timeout s (.read result) s
  | reply {s m outcome s'} :
    wiring.reply m s = (outcome, s') → Does wiring timeout s (.reply m outcome) s'
  | write {s frame outcome s'} :
    wiring.write frame s = (outcome, s') → Does wiring timeout s (.link (.write frame outcome)) s'
  | wait {s outcome s'} :
    wiring.wait timeout s = (outcome, s') → Does wiring timeout s (.link (.wait outcome)) s'
  | clear {s} : Does wiring timeout s (.link .clear) (wiring.clear s)

/-- A session thread gets from one point to another while its calls change the state of a wiring. -/
abbrev Reaches (c : Config) (wiring : Wiring σ) : Thread → σ → Thread → σ → Prop :=
  Threads.Reaches (Thread.Step c) (wiring.Does (sender c).timeout)

/-! ## The steps of `serve` -/

section Adequacy

variable (c : Config) (wiring : Wiring σ) (data : List UInt8) (state : SessionState)
  (source : Source) (reads : Nat)

/-- Putting a frame is a step, whether it can be built or not. -/
theorem reaches_of_put {frame : Except Fault Frame} (t : Thread)
    (after : Except Fault Unit → Thread)
    (step : ∀ {call outcome}, IsoTp.Put frame call outcome →
      t.Step c (call.map .link) (after outcome)) (s : σ) :
    Reaches c wiring t s (after (Sender.put wiring.toLink frame s).1)
      (Sender.put wiring.toLink frame s).2 := by
  cases frame with
  | error fault => exact .of_silent (step .unbuilt)
  | ok frame => exact .of_call (step .written) (.write rfl)

theorem reaches_of_run (phase : Phase) (s : σ) :
    Reaches c wiring ⟨.underway data phase, state, source, reads⟩ s
      ⟨.underway data (.finished ((sender c).run wiring.toLink phase s).1), state, source, reads⟩
      ((sender c).run wiring.toLink phase s).2 := by
  induction phase, s using Sender.advance_induction (sender c) wiring.toLink with
  | finished outcome s =>
      rw [Sender.run_finished]
      exact .refl
  | step phase s unfinished ih =>
      rw [Sender.run_advance]
      refine Threads.Reaches.trans ?_ ih
      cases phase with
      | finished => cases unfinished
      | awaiting p =>
          rw [Sender.advance]
          rcases waited : wiring.wait (sender c).timeout s with ⟨_ | fc, s'⟩
          · exact .of_call (.send .stranded) (.wait waited)
          · exact .of_call (.send .cleared) (.wait waited)
      | sending p room =>
          rw [Sender.advance]
          split
          · rename_i empty
            exact .of_silent (.send (.exhausted empty))
          · rename_i more
            have put := reaches_of_put c wiring
              ⟨.underway data (.sending p room), state, source, reads⟩
              (fun outcome =>
                ⟨.underway data (.afterPut outcome (.wrote p room)), state, source, reads⟩)
              (fun put => .send (.put more put)) s
            rcases written : Sender.put wiring.toLink ((sender c).nextFrame p) s with ⟨_ | _, s'⟩
            · rw [written] at put
              exact put
            · rw [written] at put
              exact put

theorem reaches_of_send (s : σ) :
    Reaches c wiring ⟨.start data, state, source, reads⟩ s
      ⟨.underway data (.finished ((sender c).send wiring.toLink data s).1), state, source, reads⟩
      ((sender c).send wiring.toLink data s).2 := by
  unfold Point.start Sender.send
  split
  · exact .refl
  split
  · exact .refl
  split
  · exact reaches_of_put c wiring ⟨.single data, state, source, reads⟩
      (fun outcome => ⟨.underway data (.finished outcome), state, source, reads⟩) .single s
  · refine .call .clear .clear ?_
    have put := reaches_of_put c wiring ⟨.opening data, state, source, reads⟩
      (fun outcome => ⟨.underway data (.afterPut outcome (.opened data)), state, source, reads⟩)
      .first (wiring.clear s)
    rcases written : Sender.put wiring.toLink (Pci.firstFrame (sender c).id data.length data)
        (wiring.clear s) with ⟨_ | _, s'⟩
    · rw [written] at put
      exact put
    · rw [written] at put
      exact put.trans (reaches_of_run c wiring data state source reads _ s')

/-- A thread handles a message as `result` says: a reply may fail, and the session with it. -/
def Handles (t : Thread) (s : σ) (result : Except Fault SessionState × σ) : Prop :=
  ∃ outcome final, result.1 = outcome.map (fun () => final) ∧
    Reaches c wiring t s ⟨.afterReply outcome .looking, final, t.source, t.reads⟩ result.2

variable {c wiring} in
theorem Handles.after {t u : Thread} {s s' : σ} {result} (reaches : Reaches c wiring t s u s')
    (handles : Handles c wiring u s' result) (source : u.source = t.source)
    (reads : u.reads = t.reads) : Handles c wiring t s result := by
  obtain ⟨outcome, final, same, reached⟩ := handles
  rw [source, reads] at reached
  exact ⟨outcome, final, same, reaches.trans reached⟩

theorem handles_ignored (s : σ) :
    Handles c wiring ⟨.looking, state, source, reads⟩ s (.ok state, s) :=
  ⟨.ok (), state, rfl, .refl⟩

theorem handles_sendRequest (s : σ) :
    Handles c wiring ⟨.start data, state, source, reads⟩ s
      (sendRequest c wiring data state s) := by
  have sent := reaches_of_send c wiring data state source reads s
  rw [sendRequest_eq]
  rcases result : (sender c).send wiring.toLink data s with ⟨outcome, s'⟩
  rw [result] at sent
  have settled := sent.trans (.of_silent (.settle (c := c)))
  simp only
  split
  · rename_i refused
    rw [if_pos refused] at settled
    exact ⟨_, _, rfl, settled.trans (.of_call .refuse (.reply rfl))⟩
  · rename_i accepted
    rw [if_neg accepted] at settled
    exact ⟨.ok (), _, rfl, settled⟩

theorem handles_forwardRequest (m : Message) (s : σ)
    (diagnostic : m.header.type = .diagnosticMessage) :
    Handles c wiring ⟨.handling m, state, source, reads⟩ s
      (forwardRequest c wiring m.payload state s) := by
  simp only [Point.handling, diagnostic, forwardRequest]
  cases Diagnostic.ofPayload m.payload with
  | error => exact handles_ignored c wiring state source reads s
  | ok request =>
      simp only
      split
      · exact handles_ignored c wiring state source reads s
      · rcases replied : wiring.reply (acceptance c) s with ⟨outcome, s'⟩
        have answered : answer c wiring (.ack c.addressing.ecu c.addressing.tester) s =
            (outcome, s') := replied
        rw [answered]
        have accepted : Reaches c wiring ⟨.accepting request.userData, state, source, reads⟩ s
            _ s' := .of_call .accept (.reply replied)
        cases outcome with
        | error fault => exact ⟨.error fault, state, rfl, accepted⟩
        | ok =>
            have sent := handles_sendRequest c wiring request.userData state source reads s'
            exact .after accepted sent rfl rfl

theorem handles_activateRouting (s : σ) :
    Handles c wiring ⟨.activating, state, source, reads⟩ s
      (activateRouting c wiring state s) := by
  rcases replied : wiring.reply (activation c) s with ⟨outcome, s'⟩
  have answered : answer c wiring
      (.activationResponse c.addressing.tester c.addressing.ecu .success) s = (outcome, s') :=
    replied
  rw [activateRouting, answered]
  have activated : Reaches c wiring ⟨.activating, state, source, reads⟩ s _ s' :=
    .of_call .activate (.reply replied)
  cases outcome with
  | error fault => exact ⟨.error fault, _, rfl, activated⟩
  | ok => exact ⟨.ok (), _, rfl, activated⟩

theorem handles_handle (m : Message) (s : σ) :
    Handles c wiring ⟨.handling m, state, source, reads⟩ s (handle c wiring m state s) := by
  rw [handle]
  cases type : m.header.type with
  | diagnosticMessage => exact handles_forwardRequest c wiring state source reads m s type
  | routingActivationRequest =>
      rw [Point.handling, type]
      exact handles_activateRouting c wiring state source reads s
  | _ =>
      rw [Point.handling, type]
      exact handles_ignored c wiring state source reads s

/-- A thread serves to its end as `result` says. -/
def Ends (t : Thread) (s : σ) (result : Except Fault SessionState × σ) : Prop :=
  ∃ outcome final left count, result.1 = outcome.map (fun () => final) ∧
    Reaches c wiring t s ⟨.ended outcome, final, left, count⟩ result.2

variable {c wiring} in
theorem Ends.after {t u : Thread} {s s' : σ} {result} (reaches : Reaches c wiring t s u s')
    (ends : Ends c wiring u s' result) : Ends c wiring t s result := by
  obtain ⟨outcome, final, left, count, same, ended⟩ := ends
  exact ⟨outcome, final, left, count, same, reaches.trans ended⟩

section

variable {source left : Source} {s s' : σ} (looked : wiring.isActive s = (true, s'))

include looked

theorem ends_of_message {m}
    (read : source.readMessage c.session.maxPayload.toNat = (.ok m, left))
    (next : ∀ final s,
      Ends c wiring ⟨.looking, final, left, reads⟩ s (serve c wiring left final s)) :
    Ends c wiring ⟨.handling m, state, left, reads⟩ s' (serve c wiring source state s) := by
  obtain ⟨outcome, final, same, handled⟩ := handles_handle c wiring state left reads m s'
  rcases after : handle c wiring m state s' with ⟨result, s''⟩
  rw [after] at same handled
  cases outcome with
  | error fault =>
      cases same
      simp only [serve_eq looked read, after]
      exact ⟨.error fault, _, _, _, rfl, handled⟩
  | ok =>
      cases same
      rw [serve_handled looked read after]
      exact (next final s'').after handled

theorem ends_of_fault {fault}
    (read : source.readMessage c.session.maxPayload.toNat = (.error fault, left))
    (next : fault.isFraming = true →
      Ends c wiring ⟨.looking, state, left, reads⟩ s' (serve c wiring left state s')) :
    Ends c wiring ⟨.afterRead (.error fault), state, left, reads⟩ s'
      (serve c wiring source state s) := by
  rw [Point.afterRead]
  cases gone : fault.isDisconnect with
  | true =>
      rw [serve_closed looked gone read]
      exact ⟨.ok (), _, _, _, rfl, .refl⟩
  | false =>
      cases framing : fault.isFraming with
      | true =>
          rw [serve_dropped looked framing gone read]
          exact next framing
      | false =>
          rcases doubted : wiring.isActive s' with ⟨active, s''⟩
          have ended : Reaches c wiring ⟨.doubting fault, state, left, reads⟩ s' _ s'' :=
            .of_call .doubt (.look doubted)
          simp only [serve_eq looked read, gone, framing, Bool.false_eq_true, if_false, doubted]
          cases active with
          | false => exact ⟨.ok (), _, _, _, rfl, ended⟩
          | true => exact ⟨.error fault, _, _, _, rfl, ended⟩

end

/-- A session ends as its thread does, and leaves what the calls of the thread leave. -/
theorem exists_serve_reaches (s : σ) :
    ∃ outcome final left count,
      (serve c wiring source state s).1 = outcome.map (fun () => final) ∧
      Reaches c wiring ⟨.looking, state, source, reads⟩ s ⟨.ended outcome, final, left, count⟩
        (serve c wiring source state s).2 := by
  induction size : source.size using Nat.strongRecOn generalizing source state reads s with
  | ind size ih =>
      rcases looked : wiring.isActive s with ⟨active, s'⟩
      cases active with
      | false =>
          rw [serve, looked]
          exact ⟨.ok (), _, _, _, rfl, .of_call .look (.look looked)⟩
      | true =>
          rcases read : source.readMessage c.session.maxPayload.toNat with ⟨result, left⟩
          have begun : Reaches c wiring ⟨.looking, state, source, reads⟩ s
              ⟨.afterRead result, state, left, reads + 1⟩ s' :=
            .call .look (.look looked) (.of_call (.read read) .read)
          -- A message that was taken off the stream leaves less of it.
          have shorter := Source.size_readMessage_lt c.session.maxPayload.toNat source
          rw [read, size] at shorter
          cases result with
          | ok m =>
              refine Ends.after begun (ends_of_message c wiring state (reads + 1) looked read ?_)
              have less := shorter fun _ this => by cases this
              exact fun final s => ih left.size less final left (reads + 1) s rfl
          | error fault =>
              refine Ends.after begun (ends_of_fault c wiring state (reads + 1) looked read ?_)
              intro framing
              have less := shorter fun _ this => by cases this; exact framing
              exact ih left.size less state left (reads + 1) s' rfl

end Adequacy

end Session

end DiagnosticGateway
