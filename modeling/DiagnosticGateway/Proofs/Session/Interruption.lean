import DiagnosticGateway.Proofs.IsoTp.Blocks
import DiagnosticGateway.Proofs.Session.Thread

/-! # A session thread that is interrupted

Once the active flag is down and the relay is closed, every look at the flag finds it down and every
wait fails. A session thread whose calls are answered like that ends with the message that it is at:
its sender may finish the block for which it has been cleared, or start with one more frame, and then
it waits in vain.
-/

namespace DiagnosticGateway

open Bus (Frame)
open Doip (Message)
open IsoTp (FlowControl Pci Phase Progress Sender)
open Threads (Run)

namespace Session

variable {c : Config} {t t' u : Thread} {calls log : List Call}

/-! ## The block in which a sender is -/

/-- A frame that was written. -/
def Call.wrote (frame : Frame) : Call := .link (.write frame (.ok ()))

/-- The calls of a thread tell how its sender got to a phase of its message. In a block, the latest
calls are the flow control that cleared it and the frames since. -/
inductive Tells (c : Config) (log : List Call) (data : List UInt8) : Phase → Prop where
  | awaiting {p} :
    (sender c).remaining p <:+ (sender c).consecutives data → Tells c log data (.awaiting p)
  | sending {p room older fc first since} :
    (sender c).remaining p <:+ (sender c).consecutives data →
    log = older ++ .link (.wait (.ok fc)) :: since.map Call.wrote →
    fc.status = .continueToSend →
    (sender c).remaining first <:+ (sender c).consecutives data →
    since ++ (sender c).block (.sending p room) = (sender c).clearance first fc →
    Tells c log data (.sending p room)
  | finished {outcome} : Tells c log data (.finished outcome)

namespace Tells

variable {data : List UInt8} {p : Progress} {room : Option Nat} {frame : Frame}

theorem cleared (whole : (sender c).remaining p <:+ (sender c).consecutives data)
    (fc : FlowControl) : Tells c (log ++ [.link (.wait (.ok fc))]) data (.cleared p fc) := by
  cases status : fc.status with
  | continueToSend =>
      have block : (sender c).block (.cleared p fc) = (sender c).clearance p fc :=
        Sender.block_cleared status
      simp only [Phase.cleared, status] at block ⊢
      rw [← List.nil_append (Sender.block _ _)] at block
      exact .sending whole rfl status whole block
  | wait =>
      simp only [Phase.cleared, status]
      exact .awaiting whole
  | overflow | reserved =>
      simp only [Phase.cleared, status]
      exact .finished

theorem wrote (tells : Tells c log data (.sending p room)) (more : p.rest ≠ [])
    (built : (sender c).nextFrame p = .ok frame) :
    Tells c (log ++ [.wrote frame]) data (.wrote p room) := by
  cases tells with
  | @sending _ _ older fc first since whole logged go begun block =>
      rw [Sender.block_wrote more built, List.append_cons] at block
      have shorter : (sender c).remaining p.next <:+ (sender c).consecutives data :=
        .trans ⟨[frame], (Sender.remaining_cons more built).symm⟩ whole
      have longer : log ++ [.wrote frame] =
          older ++ .link (.wait (.ok fc)) :: (since ++ [frame]).map Call.wrote := by
        rw [logged, List.map_append, List.append_assoc, List.cons_append, List.map_singleton]
      by_cases last : p.next.rest = []
      · rw [Phase.wrote_last last]
        exact .finished
      · rw [Phase.wrote_more last] at block ⊢
        have progress := Phase.progress?_counted p.next room
        generalize Phase.counted p.next room = phase at block progress ⊢
        cases phase with
        | finished => exact .finished
        | awaiting =>
            cases progress
            exact .awaiting shorter
        | sending =>
            cases progress
            exact .sending shorter longer go begun block

end Tells

/-- The calls of a thread account for the block in which its sender is, if it is in one. -/
def Accounts (c : Config) (log : List Call) : Point → Prop
  | .underway data phase => Tells c log data phase
  | _ => True

namespace Accounts

theorem idle {point : Point} (idle : point.Idle) : Accounts c log point := by
  cases point <;> first | exact trivial | exact idle.elim

theorem start (data : List UInt8) : Accounts c log (.start data) := by
  unfold Point.start
  split
  · exact .finished
  split
  · exact .finished
  split <;> exact trivial

theorem afterReply {next} (outcome : Except Fault Unit) (accounts : Accounts c log next) :
    Accounts c log (.afterReply outcome next) := by
  cases outcome with
  | ok => exact accounts
  | error => exact trivial

theorem step {call} (accounts : Accounts c log t.point) (step : Thread.Step c t call t') :
    Accounts c (log ++ call.toList) t'.point := by
  cases step with
  | @look active => cases active <;> exact trivial
  | @read result =>
      rcases Point.idle_afterRead_or result with idle | ⟨_, _, _, _, read⟩
      · exact .idle idle
      · simp only [read]
        exact trivial
  | doubt | clear => exact trivial
  | activate | refuse => exact .afterReply _ trivial
  | accept => exact .afterReply _ (.start _)
  | single => exact Tells.finished
  | @first data call outcome =>
      cases outcome with
      | error => exact Tells.finished
      | ok => exact Tells.awaiting List.suffix_rfl
  | send step =>
      cases step with
      | stranded | exhausted => exact Tells.finished
      | cleared =>
          cases accounts with
          | awaiting whole => exact .cleared whole _
      | @put p room call outcome more put =>
          generalize built : (sender c).nextFrame p = frame at put
          cases put with
          | unbuilt => exact Tells.finished
          | written =>
              cases outcome with
              | error => exact Tells.finished
              | ok => exact Tells.wrote accounts more built
  | settle =>
      simp only
      split <;> exact trivial

end Accounts

/-! ## After the close -/

/-- What a call is answered once the flag is down and the relay is closed. -/
def Call.Late : Call → Prop
  | .look active => active = false
  | .link (.wait outcome) => outcome = .error .relayClosed
  | _ => True

/-- The frame with which the sending of service bytes starts. -/
def Opens (c : Config) (data : List UInt8) (frame : Frame) : Prop :=
  Pci.singleFrame (sender c).id data (sender c).padding = .ok frame ∨
    Pci.firstFrame (sender c).id data.length data = .ok frame

namespace Thread

/-- A thread has these service bytes in hand, or is about to read them, and no frame of them was
sent. -/
def Unsent (c : Config) (t : Thread) (data : List UInt8) : Prop :=
  match t.point with
  | .reading => ∃ m, (t.source.readMessage c.session.maxPayload.toNat).1 = .ok m ∧
      Point.handling m = .accepting data
  | .accepting own | .single own | .clearing own | .opening own => own = data
  | _ => False

/-- A thread whose calls are all answered late may still try to write these frames. -/
def Permits (c : Config) (t : Thread) (frames : List Frame) : Prop :=
  match t.point with
  | .underway _ phase => frames <+: (sender c).block phase
  | _ => frames = [] ∨ ∃ data frame, t.Unsent c data ∧ Opens c data frame ∧ frames = [frame]

namespace Permits

variable {frames : List Frame} {data : List UInt8} {state : SessionState} {source : Doip.Source}
  {reads : Nat}

theorem nil (t : Thread) : t.Permits c [] := by
  unfold Permits
  split
  · exact List.nil_prefix
  · exact .inl rfl

theorem eq_nil_of_idle (permits : t.Permits c frames) (idle : t.point.Idle) : frames = [] := by
  obtain ⟨point, state, source, reads⟩ := t
  cases point <;> first
    | exact idle.elim
    | exact permits.resolve_right fun ⟨_, _, unsent, _⟩ => unsent

theorem eq_nil_of_block {phase}
    (permits : Permits c ⟨.underway data phase, state, source, reads⟩ frames)
    (nothing : (sender c).block phase = []) : frames = [] := by
  have within : frames <+: (sender c).block phase := permits
  rwa [nothing, List.prefix_nil] at within

theorem eq_nil_of_afterReply {outcome}
    (permits : Permits c ⟨.afterReply outcome .looking, state, source, reads⟩ frames) :
    frames = [] := by
  refine permits.eq_nil_of_idle ?_
  cases outcome <;> exact trivial

/-- Where the sending of service bytes starts, one frame of them may be sent. -/
theorem start (permits : Permits c ⟨.start data, state, source, reads⟩ frames) :
    frames = [] ∨ ∃ frame, Opens c data frame ∧ frames = [frame] := by
  unfold Point.start at permits
  split at permits
  · exact .inl (permits.eq_nil_of_block rfl)
  split at permits
  · exact .inl (permits.eq_nil_of_block rfl)
  split at permits
  · exact permits.imp id fun ⟨_, frame, own, opens, only⟩ => ⟨frame, own ▸ opens, only⟩
  · exact permits.imp id fun ⟨_, frame, own, opens, only⟩ => ⟨frame, own ▸ opens, only⟩

theorem step {call} (permits : t'.Permits c frames) (step : Step c t call t')
    (late : ∀ made ∈ call, made.Late) :
    t.Permits c ((call.bind Call.frame?).toList ++ frames) := by
  cases step with
  | @look active =>
      cases active with
      | true => cases late _ rfl
      | false =>
          rw [permits.eq_nil_of_idle trivial]
          exact .nil _
  | @read result _ _ _ _ read =>
      rcases Point.idle_afterRead_or result with idle | ⟨m, data, rfl, handled, accepting⟩
      · rw [permits.eq_nil_of_idle idle]
        exact .nil _
      · rw [accepting] at permits
        refine permits.imp id fun ⟨own, frame, same, opens, only⟩ => ?_
        exact ⟨own, frame, ⟨m, congrArg Prod.fst read, same ▸ handled⟩, opens, only⟩
  | doubt =>
      rw [permits.eq_nil_of_idle trivial]
      exact .nil _
  | activate | refuse =>
      rw [permits.eq_nil_of_afterReply]
      exact .nil _
  | @accept data outcome =>
      cases outcome with
      | error =>
          rw [permits.eq_nil_of_idle trivial]
          exact .nil _
      | ok => exact permits.start.imp id fun ⟨frame, opens, only⟩ => ⟨data, frame, rfl, opens, only⟩
  | @single data _ _ _ _ _ put =>
      rw [permits.eq_nil_of_block rfl]
      generalize built : Pci.singleFrame (sender c).id data (sender c).padding = frame at put
      cases put with
      | unbuilt => exact .nil _
      | written => exact .inr ⟨data, _, rfl, .inl built, rfl⟩
  | clear => exact permits
  | @first data _ outcome _ _ _ put =>
      rw [permits.eq_nil_of_block (by cases outcome <;> rfl)]
      generalize built : Pci.firstFrame (sender c).id data.length data = frame at put
      cases put with
      | unbuilt => exact .nil _
      | written => exact .inr ⟨data, _, rfl, .inr built, rfl⟩
  | send step =>
      cases step with
      | cleared => cases late _ rfl
      | stranded | exhausted =>
          rw [permits.eq_nil_of_block rfl]
          exact .nil _
      | @put p room _ outcome more put =>
          generalize built : (sender c).nextFrame p = frame at put
          cases put with
          | unbuilt =>
              rw [permits.eq_nil_of_block rfl]
              exact .nil _
          | @written frame =>
              change frame :: frames <+: (sender c).block (.sending p room)
              rw [Sender.block_wrote more built, List.cons_prefix_cons]
              cases outcome with
              | ok => exact ⟨rfl, permits⟩
              | error =>
                  rw [permits.eq_nil_of_block rfl]
                  exact ⟨rfl, List.nil_prefix⟩
  | settle =>
      rw [permits.eq_nil_of_idle (by simp only; split <;> exact trivial)]
      exact .nil _

end Permits

/-- What a thread whose calls are answered late still tries to write. -/
theorem permits_of_run (run : Run (Step c) t calls u) (late : ∀ call ∈ calls, call.Late) :
    t.Permits c (calls.filterMap Call.frame?) := by
  induction run with
  | refl => exact .nil _
  | @step _ call _ _ _ step _ ih =>
      rw [List.forall_mem_append] at late
      have permits := (ih late.2).step step fun made this => late.1 made (Option.mem_toList.mpr this)
      rw [List.filterMap_append]
      cases call <;> exact permits

/-- Only a look at a raised flag leads to another read. -/
theorem Step.point_ne_reading {call} (step : Step c t call t')
    (late : ∀ made ∈ call, made.Late) : t'.point ≠ .reading := by
  cases step with
  | @look active =>
      cases active with
      | true => cases late _ rfl
      | false => nofun
  | @read result =>
      rcases Point.idle_afterRead_or result with idle | ⟨_, _, _, _, accepting⟩
      · intro reading
        exact (reading ▸ idle : Point.Idle .reading)
      · rw [accepting]
        nofun
  | @activate outcome | @refuse outcome => cases outcome <;> nofun
  | @accept data outcome =>
      cases outcome with
      | error => nofun
      | ok =>
          change Point.start data ≠ .reading
          unfold Point.start
          split
          · nofun
          · split
            · nofun
            · split <;> nofun
  | doubt | single | clear | first | send => nofun
  | settle =>
      simp only
      split <;> nofun

theorem Step.reads_eq {call} (step : Step c t call t') :
    t'.reads = t.reads ∨ t.point = .reading ∧ t'.reads = t.reads + 1 := by
  cases step with
  | read => exact .inr ⟨rfl, rfl⟩
  | _ => exact .inl rfl

/-- A thread whose calls are answered late only reads one more message if it is about to. -/
theorem reads_of_run (run : Run (Step c) t calls u) (late : ∀ call ∈ calls, call.Late) :
    u.reads = t.reads ∨ t.point = .reading ∧ u.reads = t.reads + 1 := by
  induction run with
  | refl => exact .inl rfl
  | step step _ ih =>
      rw [List.forall_mem_append] at late
      have left := step.point_ne_reading fun made this => late.1 made (Option.mem_toList.mpr this)
      have same := (ih late.2).resolve_right fun again => left again.1
      rw [same]
      exact step.reads_eq

/-- The points of a thread that is on its way out, its sender interrupted by the close. -/
inductive Leaving : Point → Prop where
  | interrupted {data} : Leaving (.underway data (.finished (.error .relayClosed)))
  | looking : Leaving .looking
  | ended : Leaving (.ended (.ok ()))

theorem Leaving.step {call} (leaving : Leaving t.point) (step : Step c t call t')
    (late : ∀ made ∈ call, made.Late) :
    Leaving t'.point ∧ ∀ made ∈ call, made = .look false := by
  obtain ⟨point, state, source, reads⟩ := t
  cases leaving with
  | interrupted =>
      cases step with
      | settle => exact ⟨.looking, fun made this => absurd this (Option.not_mem_none made)⟩
      | send step => cases step
  | looking =>
      cases step with
      | @look active =>
          cases active with
          | true => cases late _ rfl
          | false => exact ⟨.ended, fun made this => by cases this; rfl⟩
  | ended => cases step

/-- A thread on its way out finds the flag down, if it comes to look at it. -/
theorem leaving_of_run (run : Run (Step c) t calls u) (late : ∀ call ∈ calls, call.Late)
    (leaving : Leaving t.point) : Leaving u.point ∧ ∀ call ∈ calls, call = .look false := by
  induction run with
  | refl => exact ⟨leaving, List.forall_mem_nil _⟩
  | step step _ ih =>
      rw [List.forall_mem_append] at late ⊢
      have ⟨goesOn, looked⟩ :=
        leaving.step step fun made this => late.1 made (Option.mem_toList.mpr this)
      have ⟨left, rest⟩ := ih late.2 goesOn
      exact ⟨left, fun made this => looked made (Option.mem_toList.mp this), rest⟩

theorem Step.leaving (step : Step c t (some (.link (.wait (.error .relayClosed)))) t') :
    Leaving t'.point := by
  obtain ⟨_, ⟨_, _, put, _⟩ | ⟨_, cleared, _⟩ | ⟨_, _, put, _⟩ | ⟨_, _, _, step, left⟩⟩ :=
    step.link_cases
  · nomatch put.exists_write
  · cases cleared
  · nomatch put.exists_write
  · cases step with
    | stranded =>
        rw [left]
        exact .interrupted
    | put _ put => nomatch put.exists_write

/-- A wait that is interrupted by the close is the last thing that a thread does, apart from a look at
the flag. -/
theorem leaves_of_interrupted (run : Run (Step c) t calls u) (late : ∀ call ∈ calls, call.Late) :
    ∀ {sent rest}, calls = sent ++ .link (.wait (.error .relayClosed)) :: rest →
      Leaving u.point ∧ ∀ call ∈ rest, call = .look false := by
  induction run with
  | refl =>
      intro sent rest split
      cases sent <;> cases split
  | @step t call t' calls u step run ih =>
      intro sent rest split
      rw [List.forall_mem_append] at late
      cases call with
      | none => exact ih late.2 split
      | some call =>
          cases sent with
          | cons first sent =>
              exact ih late.2 (List.cons.inj split).2
          | nil =>
              obtain ⟨rfl, rfl⟩ := List.cons.inj split
              exact leaving_of_run run late.2 step.leaving

end Thread

theorem accounts_of_run (run : Run (Thread.Step c) t calls u) :
    ∀ {log}, Accounts c log t.point → Accounts c (log ++ calls) u.point := by
  induction run with
  | refl =>
      intro log accounts
      rwa [List.append_nil]
  | step step _ ih =>
      intro log accounts
      rw [← List.append_assoc]
      exact ih (accounts.step step)

end Session

end DiagnosticGateway
