import DiagnosticGateway.Proofs.Doip.Failures
import DiagnosticGateway.Proofs.Session.Thread

/-! # What can end a session

Nothing that a tester sends can, and nothing that happens on the bus. A session fails with a reply
that cannot be written, or with a read of the connection that fails while the active flag is up.
Otherwise it goes on until the tester is gone or the flag is down.
-/

namespace DiagnosticGateway.Session

open Doip (Message Source)
open Threads (Answers Run)

/-- A call that is made for the message in hand, and after which the session goes on. -/
def Call.Passes : Call → Prop
  | .reply _ (.ok ()) | .link _ => True
  | _ => False

namespace Point

/-- At these points a thread is between two messages or has one in hand. -/
def Busy : Point → Prop
  | .reading | .doubting _ | .ended _ => False
  | _ => True

theorem busy_start (data : List UInt8) : (start data).Busy := by
  unfold start
  split
  · exact trivial
  split
  · exact trivial
  split <;> exact trivial

theorem busy_handling (m : Message) : (handling m).Busy := by
  unfold handling
  split
  · exact trivial
  · split
    · exact trivial
    · split <;> exact trivial
  · exact trivial

theorem afterRead_of_isFraming {fault : Fault} (framing : fault.isFraming = true) :
    afterRead (.error fault) = .looking := by
  simp only [afterRead, Fault.isDisconnect_of_isFraming framing, framing, Bool.false_eq_true,
    if_false, if_true]

theorem afterRead_of_isDisconnect {fault : Fault} (gone : fault.isDisconnect = true) :
    afterRead (.error fault) = .ended (.ok ()) := by
  rw [afterRead, if_pos gone]

theorem afterRead_io {error : IoError} (present : (Fault.io error).isDisconnect = false) :
    afterRead (.error (.io error)) = .doubting (.io error) := by
  simp only [afterRead, present, Fault.isFraming, Bool.false_eq_true, if_false]

end Point

variable {c : Config} {t t' u : Thread} {calls : List Call} {outcome : Except Fault Unit}

namespace Thread

/-- A busy thread looks at the flag, fails to reply, or goes on with what it has in hand. -/
theorem Step.busy_cases {call} (step : Step c t call t') (busy : t.point.Busy) :
    t'.source = t.source ∧
      ((∃ active, call = some (.look active) ∧
          t'.point = if active then .reading else .ended (.ok ())) ∨
        (∃ m fault, call = some (.reply m (.error fault)) ∧ t'.point = .ended (.error fault)) ∨
        t'.point.Busy ∧ ∀ made ∈ call, made.Passes) := by
  cases step with
  | look => exact ⟨rfl, .inl ⟨_, rfl, rfl⟩⟩
  | read | doubt => exact busy.elim
  | @activate outcome | @refuse outcome =>
      cases outcome with
      | error fault => exact ⟨rfl, .inr (.inl ⟨_, _, rfl, rfl⟩)⟩
      | ok => exact ⟨rfl, .inr (.inr ⟨trivial, fun made this => by cases this; exact trivial⟩)⟩
  | @accept data outcome =>
      cases outcome with
      | error fault => exact ⟨rfl, .inr (.inl ⟨_, _, rfl, rfl⟩)⟩
      | ok =>
          exact ⟨rfl, .inr (.inr ⟨Point.busy_start data, fun made this => by
            cases this; exact trivial⟩)⟩
  | clear => exact ⟨rfl, .inr (.inr ⟨trivial, fun made this => by cases this; exact trivial⟩)⟩
  | single | first | send =>
      refine ⟨rfl, .inr (.inr ⟨trivial, fun made this => ?_⟩)⟩
      obtain ⟨_, _, rfl⟩ := Option.map_eq_some_iff.mp this
      exact trivial
  | settle =>
      refine ⟨rfl, .inr (.inr ⟨?_, fun made this => absurd this (Option.not_mem_none made)⟩)⟩
      simp only
      split <;> exact trivial

theorem Step.ended_of_unanswered {m fault} (step : Step c t (some (.reply m (.error fault))) t') :
    t'.point = .ended (.error fault) := by
  generalize made : some (Call.reply m (.error fault)) = label at step
  cases step with
  | look | read | doubt | clear | settle => cases made
  | activate | accept | refuse =>
      cases made
      rfl
  | single | first | send =>
      obtain ⟨_, _, same⟩ := Option.map_eq_some_iff.mp made.symm
      cases same

theorem Step.point_of_read {result} (step : Step c t (some (.read result)) t') :
    t'.point = .afterRead result := by
  generalize made : some (Call.read result) = label at step
  cases step with
  | look | doubt | activate | accept | clear | settle | refuse => cases made
  | read =>
      cases made
      rfl
  | single | first | send =>
      obtain ⟨_, _, same⟩ := Option.map_eq_some_iff.mp made.symm
      cases same

theorem eq_of_ended (run : Run (Step c) t calls u) (ended : t.point = .ended outcome) :
    calls = [] ∧ u = t := by
  obtain ⟨point, state, source, reads⟩ := t
  cases ended
  cases run with
  | refl => exact ⟨rfl, rfl⟩
  | step step => cases step

/-- A busy thread comes to look at the flag, unless a reply fails before. -/
theorem returns_of_run (run : Run (Step c) t calls u) (ended : u.point = .ended outcome) :
    t.point.Busy → ∃ own next rest, calls = own ++ next :: rest ∧ (∀ call ∈ own, call.Passes) ∧
      ((∃ active, next = .look active) ∨ ∃ m fault, next = .reply m (.error fault)) := by
  induction run with
  | refl =>
      intro busy
      rw [ended] at busy
      exact busy.elim
  | @step t call t' calls u step rest ih =>
      intro busy
      obtain ⟨_, ⟨active, rfl, _⟩ | ⟨m, fault, rfl, _⟩ | ⟨busy, passes⟩⟩ := step.busy_cases busy
      · exact ⟨[], _, calls, rfl, List.forall_mem_nil _, .inl ⟨active, rfl⟩⟩
      · exact ⟨[], _, calls, rfl, List.forall_mem_nil _, .inr ⟨m, fault, rfl⟩⟩
      · obtain ⟨own, next, after, rfl, pass, last⟩ := ih ended busy
        refine ⟨call.toList ++ own, next, after, (List.append_assoc _ _ _).symm, ?_, last⟩
        exact List.forall_mem_append.mpr
          ⟨fun made this => passes made (Option.mem_toList.mp this), pass⟩

theorem outcome_of_unanswered (run : Run (Step c) t calls u) (ended : u.point = .ended outcome)
    {m fault} (unanswered : .reply m (.error fault) ∈ calls) : outcome = .error fault := by
  obtain ⟨before, after, split⟩ := List.append_of_mem unanswered
  obtain ⟨v, w, _, step, rest⟩ := run.exists_step split
  obtain ⟨_, rfl⟩ := eq_of_ended rest step.ended_of_unanswered
  exact Point.ended.inj (ended.symm.trans step.ended_of_unanswered)

end Thread

/-! ## The ways to end -/

/-- The last calls of a session, the failures that it has met by then other than interruptions, and
how it ends. -/
inductive Last : List Call → List IoError → Except Fault Unit → Prop where
  /-- The flag is down. -/
  | inactive : Last [.look false] [] (.ok ())
  /-- The stream is at its end, be it within a message. -/
  | closed {fault} : fault.isDisconnect = true → Last [.read (.error fault)] [] (.ok ())
  /-- A read of the connection fails in a way that says that the tester is gone. -/
  | gone {error} :
    (Fault.io error).isDisconnect = true →
    Last [.read (.error (.io error))] [error] (.ok ())
  /-- A read of the connection fails in another way. It is the flag that decides. -/
  | broken {error active} :
    (Fault.io error).isDisconnect = false →
    Last [.read (.error (.io error)), .look active] [error]
      (if active then .error (.io error) else .ok ())
  /-- A reply cannot be written. -/
  | unanswered {m fault} : Last [.reply m (.error fault)] [] (.error fault)

/-- The calls of a session from somewhere on, to its end. -/
def Ending (calls : List Call) (broken : List IoError) (outcome : Except Fault Unit) : Prop :=
  ∃ before last, calls = before ++ last ∧ Last last broken outcome

namespace Ending

variable {broken : List IoError}

theorem of_last (last : Last calls broken outcome) : Ending calls broken outcome :=
  ⟨[], calls, rfl, last⟩

theorem prepend (earlier : List Call) (ending : Ending calls broken outcome) :
    Ending (earlier ++ calls) broken outcome := by
  obtain ⟨before, last, rfl, ends⟩ := ending
  exact ⟨earlier ++ before, last, (List.append_assoc _ _ _).symm, ends⟩

/-- A thread that has tried to read a message goes on, or it ends. -/
theorem of_reading {result left state reads} {source : Source}
    (reading : source.Reading result left)
    (run : Run (Thread.Step c) ⟨.afterRead result, state, left, reads⟩ calls u)
    (ended : u.point = .ended outcome)
    (next : (Point.afterRead result).Busy →
      ∃ broken, Ending calls broken outcome ∧ left.breaks = broken ++ u.source.breaks) :
    ∃ broken, Ending (.read result :: calls) broken outcome ∧
      source.breaks = broken ++ u.source.breaks := by
  cases reading with
  | @message m _ same =>
      obtain ⟨broken, ending, met⟩ := next (Point.busy_handling m)
      exact ⟨broken, ending.prepend [_], same.trans met⟩
  | dropped framing same =>
      obtain ⟨broken, ending, met⟩ := next (Point.afterRead_of_isFraming framing ▸ trivial)
      exact ⟨broken, ending.prepend [_], same.trans met⟩
  | ended atEnd same =>
      have gone := Source.isDisconnect_of_isEnd atEnd
      rw [Point.afterRead_of_isDisconnect gone] at run
      obtain ⟨rfl, rfl⟩ := Thread.eq_of_ended run rfl
      cases ended
      exact ⟨[], .of_last (.closed gone), same⟩
  | @broken error _ met =>
      cases gone : (Fault.io error).isDisconnect with
      | true =>
          rw [Point.afterRead_of_isDisconnect gone] at run
          obtain ⟨rfl, rfl⟩ := Thread.eq_of_ended run rfl
          cases ended
          exact ⟨[error], .of_last (.gone gone), met⟩
      | false =>
          rw [Point.afterRead_io gone] at run
          cases run with
          | refl => cases ended
          | step step rest =>
              cases step with
              | doubt =>
                  obtain ⟨rfl, rfl⟩ := Thread.eq_of_ended rest rfl
                  cases ended
                  exact ⟨[error], .of_last (.broken gone), met⟩

theorem of_run (run : Run (Thread.Step c) t calls u) (ended : u.point = .ended outcome) :
    t.point.Busy ∨ t.point = .reading →
      ∃ broken, Ending calls broken outcome ∧ t.source.breaks = broken ++ u.source.breaks := by
  induction run with
  | refl =>
      intro unfinished
      rw [ended] at unfinished
      rcases unfinished with busy | reading
      · exact busy.elim
      · cases reading
  | @step t call t' calls u step rest ih =>
      intro unfinished
      rcases unfinished with busy | reading
      · obtain ⟨source, ⟨active, rfl, looked⟩ | ⟨m, fault, rfl, failed⟩ | ⟨busy, _⟩⟩ :=
          step.busy_cases busy
        · rw [← source]
          cases active with
          | true =>
              obtain ⟨broken, ending, met⟩ := ih ended (.inr looked)
              exact ⟨broken, ending.prepend [_], met⟩
          | false =>
              obtain ⟨rfl, rfl⟩ := Thread.eq_of_ended rest looked
              cases looked.symm.trans ended
              exact ⟨[], .of_last .inactive, rfl⟩
        · rw [← source]
          obtain ⟨rfl, rfl⟩ := Thread.eq_of_ended rest failed
          cases failed.symm.trans ended
          exact ⟨[], .of_last .unanswered, rfl⟩
        · obtain ⟨broken, ending, met⟩ := ih ended (.inl busy)
          exact ⟨broken, ending.prepend _, source ▸ met⟩
      · obtain ⟨point, state, source, reads⟩ := t
        cases reading
        cases step with
        | @read result left _ _ _ read =>
            have reading := source.reading_readMessage c.session.maxPayload.toNat
            rw [read] at reading
            exact of_reading reading rest ended fun busy => ih ended (.inl busy)

theorem cause_of_error {fault} (ending : Ending calls broken (.error fault)) :
    (∃ m, .reply m (.error fault) ∈ calls) ∨
      ∃ error, fault = .io error ∧ fault.isDisconnect = false ∧ broken = [error] ∧
        calls.getLast? = some (.look true) := by
  obtain ⟨before, last, rfl, ends⟩ := ending
  generalize failed : Except.error fault = outcome at ends
  cases ends with
  | inactive | closed | gone => cases failed
  | @broken error active present =>
      cases active with
      | false => cases failed
      | true =>
          cases failed
          exact .inr ⟨error, rfl, present, rfl, by simp⟩
  | unanswered =>
      cases failed
      exact .inl ⟨_, List.mem_concat_self⟩

/-- A session that finds the flag up after a read has failed fails with that read. -/
theorem error_of_broken {error} (ending : Ending calls [error] outcome)
    (present : (Fault.io error).isDisconnect = false)
    (lookedLast : calls.getLast? = some (.look true)) : outcome = .error (.io error) := by
  obtain ⟨before, last, rfl, ends⟩ := ending
  cases ends with
  | gone gone =>
      rw [gone] at present
      cases present
  | @broken _ active =>
      cases active with
      | true => rfl
      | false => simp at lookedLast

theorem last_of_ok (ending : Ending calls broken (.ok ())) :
    calls.getLast? = some (.look false) ∨
      ∃ fault, fault.isDisconnect = true ∧ calls.getLast? = some (.read (.error fault)) := by
  obtain ⟨before, last, rfl, ends⟩ := ending
  generalize ended : Except.ok () = outcome at ends
  cases ends with
  | inactive => exact .inl List.getLast?_concat
  | closed gone | gone gone => exact .inr ⟨_, gone, List.getLast?_concat⟩
  | @broken error active present =>
      cases active with
      | true => cases ended
      | false => exact .inl (by simp)
  | unanswered => cases ended

end Ending

/-- A session fails exactly with a reply that could not be written, or with a read of the connection
that failed while the flag was up, unless that says that the tester is gone. It ends without a fault
only if the tester is gone or the flag is down. After every message, and after every one that is
dropped, it comes to look at the flag again unless a reply fails, whatever becomes of the message on
the bus. -/
theorem only_connection_ends_session (c : Config) (source : Source) (state : SessionState) :
    (∀ {σ : Type} (wiring : Wiring σ) (s : σ), ∃ calls outcome final left reads,
      (serve c wiring source state s).1 = outcome.map (fun () => final) ∧
      Run (Thread.Step c) ⟨.looking, state, source, 0⟩ calls ⟨.ended outcome, final, left, reads⟩ ∧
      Answers (wiring.Does (sender c).timeout) s calls (serve c wiring source state s).2) ∧
    ∀ calls outcome final left reads,
      Run (Thread.Step c) ⟨.looking, state, source, 0⟩ calls
        ⟨.ended outcome, final, left, reads⟩ →
      (∀ fault, outcome = .error fault ↔
        (∃ m, .reply m (.error fault) ∈ calls) ∨
          ∃ error, fault = .io error ∧ fault.isDisconnect = false ∧
            source.breaks = error :: left.breaks ∧ calls.getLast? = some (.look true)) ∧
      (outcome = .ok () → calls.getLast? = some (.look false) ∨
        ∃ fault, fault.isDisconnect = true ∧ calls.getLast? = some (.read (.error fault))) ∧
      ∀ before result after, calls = before ++ .read result :: after →
        (∀ fault, result = .error fault → fault.isFraming = true) →
        ∃ own next rest, after = own ++ next :: rest ∧ (∀ call ∈ own, call.Passes) ∧
          ((∃ active, next = .look active) ∨ ∃ m fault, next = .reply m (.error fault)) := by
  refine ⟨?_, ?_⟩
  · intro σ wiring s
    obtain ⟨outcome, final, left, reads, served, reaches⟩ :=
      exists_serve_reaches c wiring state source 0 s
    obtain ⟨calls, run, answers⟩ := reaches.exists_run
    exact ⟨calls, outcome, final, left, reads, served, run, answers⟩
  · intro calls outcome final left reads run
    obtain ⟨broken, ending, met⟩ := Ending.of_run run rfl (.inl trivial)
    refine ⟨fun fault => ⟨?_, ?_⟩, ?_, ?_⟩
    · rintro rfl
      refine ending.cause_of_error.imp id ?_
      rintro ⟨error, io, present, rfl, last⟩
      exact ⟨error, io, present, met, last⟩
    · rintro (⟨m, unanswered⟩ | ⟨error, rfl, present, broke, last⟩)
      · exact Thread.outcome_of_unanswered run rfl unanswered
      · rw [broke] at met
        obtain rfl : [error] = broken := List.append_cancel_right met
        exact ending.error_of_broken present last
    · rintro rfl
      exact ending.last_of_ok
    · intro before result after split framing
      obtain ⟨v, w, _, step, rest⟩ := run.exists_step split
      refine Thread.returns_of_run rest rfl ?_
      rw [step.point_of_read]
      cases result with
      | ok m => exact Point.busy_handling m
      | error fault => exact Point.afterRead_of_isFraming (framing fault rfl) ▸ trivial

/-- A session whose bus takes no frame, with a tester that takes every reply. -/
def Wiring.deafBus : Wiring Unit where
  write _ s := (.error (.io ⟨.other, "scripted bus failure"⟩), s)
  wait timeout s := (.error (.flowControlTimeout timeout), s)
  clear s := s
  supply _ := 0
  supply_lt _ _ _ taken := nomatch taken
  reply _ s := (.ok (), s)
  isActive s := (true, s)

/-- A message of an unknown type, one with a wrong second byte, one that is too large, one without
service bytes, a request that cannot be sent, and the start of another one. The session outlasts all
of them. -/
theorem session_outlasts_messages :
    let c : Config := { session := { maxPayload := 5 } }
    let source : Source := [.data [0x02, 0xFD, 0x12, 0x34, 0, 0, 0, 1, 0xAA],
      .data [0x02, 0x02, 0x80, 0x01, 0, 0, 0, 1, 0xAA], .failure ⟨.interrupted, ""⟩,
      .data [0x02, 0xFD, 0x80, 0x01, 0, 0, 0, 6, 1, 2, 3, 4, 5, 6],
      .data [0x02, 0xFD, 0x80, 0x01, 0, 0, 0, 4, 0x0E, 0x00, 0x10, 0x00],
      .data [0x02, 0xFD, 0x80, 0x01, 0, 0, 0, 5, 0x0E, 0x00, 0x10, 0x00, 0x3E],
      .data [0x02, 0xFD, 0x80]]
    ∃ final, (serve c .deafBus source .connected ()).1 = .ok final := by
  intro c source
  obtain ⟨served, causes⟩ := only_connection_ends_session c source .connected
  obtain ⟨calls, outcome, final, left, reads, result, run, answers⟩ := served .deafBus ()
  obtain ⟨failed, _, _⟩ := causes calls outcome final left reads run
  cases outcome with
  | ok => exact ⟨final, result⟩
  | error fault =>
      rcases (failed fault).mp rfl with ⟨m, unanswered⟩ | ⟨error, _, _, broke, _⟩
      · obtain ⟨_, _, replied⟩ := answers.exists_of_mem _ unanswered
        nomatch replied
      · -- Nothing but an interruption is in the stream.
        cases broke

end DiagnosticGateway.Session
