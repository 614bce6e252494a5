import DiagnosticGateway.Proofs.Forwarder.Provenance
import DiagnosticGateway.Proofs.Threads

/-! # A forwarder thread, call by call

Each read of the bus takes a forwarder three calls: it looks at the active flag, reads, and does what
the event calls for. `exists_forward_reaches` says that these are the steps of `Forwarder.forward` for
as long as the flag is up.
-/

namespace DiagnosticGateway

open Bus (Frame)
open IsoTp (FlowControl Pci Reassembly Receiver Receipt)

/-! ## The frames of a receiver -/

namespace IsoTp.Receiver

variable {receiver : Receiver} {state : Reassembly} {frame reply : Frame} {reception : Reception}

theorem full_of_paced (paced : receiver.paced state = .ok ⟨reception, some reply⟩) :
    reply.Full receiver.id := by
  unfold Receiver.paced at paced
  cases built : receiver.flowControl.toFrame receiver.id receiver.padding with
  | error fault =>
      rw [built] at paced
      cases paced
  | ok frame =>
      rw [built] at paced
      cases paced
      exact FlowControl.full_of_toFrame built

theorem full_of_count (counted : receiver.count state = .ok ⟨reception, some reply⟩) :
    reply.Full receiver.id := by
  unfold count at counted
  split at counted
  · cases counted
  · split at counted
    · exact full_of_paced counted
    · cases counted

theorem full_of_start (started : receiver.start frame = .ok ⟨reception, some reply⟩) :
    reply.Full receiver.id := by
  unfold start at started
  cases read : Pci.ofData frame.data with
  | error fault =>
      rw [read] at started
      cases started
  | ok pci =>
      rw [read] at started
      cases pci with
      | single | consecutive | flowControl => cases started
      | first total data =>
          simp only [bind, Except.bind] at started
          split at started
          · cases started
          · split at started
            · cases started
            · exact full_of_paced started

theorem full_of_extend (extended : receiver.extend state frame = .ok ⟨reception, some reply⟩) :
    reply.Full receiver.id := by
  cases read : Pci.ofData frame.data with
  | error fault =>
      rw [extend, read] at extended
      cases extended
  | ok pci =>
      cases pci with
      | single | first | flowControl =>
          rw [extend, read] at extended
          cases extended
      | consecutive sequence bytes =>
          by_cases expected : sequence = state.expected
          · rw [expected] at read
            rw [extend_consecutive read] at extended
            split at extended
            · cases extended
            · exact full_of_count extended
          · simp only [extend, read, bind, Except.bind, ne_eq, expected, not_false_eq_true,
              if_true] at extended
            cases extended

end IsoTp.Receiver

namespace Forwarder

variable {fw : Forwarder} {pending next : Option Reassembly} {event : Event} {frame : Frame}

/-- What a reaction writes to the bus is a full frame on the identifier for requests. -/
theorem full_of_react (reacted : fw.react pending event = .ok (.write frame, next)) :
    frame.Full fw.requestId := by
  cases event with
  | timeout => cases reacted
  | frame arrived =>
      simp only [react] at reacted
      split at reacted
      · cases reacted
      · split at reacted
        · split at reacted <;> cases reacted
        · cases received : fw.receive pending arrived with
          | error fault =>
              rw [received] at reacted
              simp only at reacted
              split at reacted <;> cases reacted
          | ok receipt =>
              rw [received] at reacted
              rcases receipt with ⟨_ | state, _ | reply⟩ <;> cases reacted
              unfold receive at received
              split at received
              · split at received
                · exact Receiver.full_of_extend received
                · exact Receiver.full_of_start received
              · exact Receiver.full_of_start received

/-! ## The thread -/

/-- A call of a forwarder thread, with what it was answered. -/
inductive Call where
  /-- A look at the active flag. -/
  | look (active : Bool)
  | read (result : Except Fault Event)
  /-- What an event calls for is done. -/
  | act (action : Action) (outcome : Except Fault Unit)

/-- The frame that a call puts, or fails to put, on the bus. -/
def Call.frame? : Call → Option Frame
  | .act (.write frame) _ => some frame
  | _ => none

/-- Where a forwarder thread stands. Until it has ended it keeps the message in progress. -/
inductive Point where
  | looking (pending : Option Reassembly)
  | reading (pending : Option Reassembly)
  | acting (action : Action) (pending : Option Reassembly)
  | ended (outcome : Except Fault Unit)

namespace Point

def afterRead (fw : Forwarder) (pending : Option Reassembly) : Except Fault Event → Point
  | .error fault => .ended (.error fault)
  | .ok event =>
    match fw.react pending event with
    | .error fault => .ended (.error fault)
    | .ok (action, next) => .acting action next

/-- The point at which a forwarder has handled its reads so far, or failed. -/
def final : Except Fault (Option Reassembly) → Point
  | .ok pending => .looking pending
  | .error fault => .ended (.error fault)

inductive Step (fw : Forwarder) : Point → Option Call → Point → Prop where
  | look {active pending} :
    Step fw (.looking pending) (some (.look active))
      (if active then .reading pending else .ended (.ok ()))
  | read {result pending} :
    Step fw (.reading pending) (some (.read result)) (afterRead fw pending result)
  | act {action outcome pending} :
    Step fw (.acting action pending) (some (.act action outcome))
      (final (conclude action pending outcome))

end Point

variable {σ : Type}

/-- What a call does to the reads to come and to the state of a wiring, while the flag is up. -/
inductive Wiring.Does (wiring : Wiring σ) :
    List (Except Fault Event) × σ → Call → List (Except Fault Event) × σ → Prop where
  | look {x} : Does wiring x (.look true) x
  | read {result reads s} : Does wiring (result :: reads, s) (.read result) (reads, s)
  | act {reads s action outcome s'} :
    perform wiring action s = (outcome, s') →
    Does wiring (reads, s) (.act action outcome) (reads, s')

/-- A forwarder thread gets from one point to another while its calls change the state of a wiring. -/
abbrev Reaches (fw : Forwarder) (wiring : Wiring σ) :
    Point → List (Except Fault Event) × σ → Point → List (Except Fault Event) × σ → Prop :=
  Threads.Reaches (Point.Step fw) wiring.Does

/-- One read of the bus is three steps of the thread. -/
theorem reaches_of_step {wiring : Wiring σ} (read : Except Fault Event)
    (reads : List (Except Fault Event)) (s : σ) :
    Reaches fw wiring (.looking pending) (read :: reads, s)
      (.final (fw.step wiring pending read s).1) (reads, (fw.step wiring pending read s).2) := by
  have begun : Reaches fw wiring (.looking pending) (read :: reads, s)
      (.afterRead fw pending read) (reads, s) :=
    .call .look .look (.of_call .read .read)
  refine begun.trans ?_
  cases read with
  | error fault => exact .refl
  | ok event =>
      simp only [step, Point.afterRead]
      cases fw.react pending event with
      | error fault => exact .refl
      | ok reaction =>
          obtain ⟨action, next⟩ := reaction
          have acted : Reaches fw wiring (.acting action next) (reads, s)
              (.final (conclude action next (perform wiring action s).1))
              (reads, (perform wiring action s).2) :=
            .of_call .act (.act rfl)
          exact acted

/-- A forwarder ends as its thread does, and leaves what the calls of the thread leave. -/
theorem exists_forward_reaches {wiring : Wiring σ} (reads : List (Except Fault Event)) :
    ∀ {pending s}, ∃ rest, Reaches fw wiring (.looking pending) (reads, s)
      (.final (fw.forward wiring pending reads s).1)
      (rest, (fw.forward wiring pending reads s).2) := by
  induction reads with
  | nil => intro pending s; exact ⟨[], .refl⟩
  | cons read reads ih =>
      intro pending s
      have stepped : Reaches fw wiring (.looking pending) _ _ _ := reaches_of_step read reads s
      rw [forward]
      rcases after : fw.step wiring pending read s with ⟨outcome, s'⟩
      rw [after] at stepped
      cases outcome with
      | error fault => exact ⟨reads, stepped⟩
      | ok next =>
          obtain ⟨rest, handled⟩ := ih
          exact ⟨rest, stepped.trans handled⟩

/-- A forwarder thread is only about to write full frames, on the identifier for requests. -/
def Point.Sound (fw : Forwarder) : Point → Prop
  | .acting (.write frame) _ => frame.Full fw.requestId
  | _ => True

theorem Point.Step.sound {point next : Point} {call} (step : Point.Step fw point call next) :
    next.Sound fw := by
  cases step with
  | @look active =>
      cases active <;> exact trivial
  | @read result pending =>
      unfold afterRead
      cases result with
      | error => exact trivial
      | ok event =>
          cases reacted : fw.react pending event with
          | error => simp only [reacted]; exact trivial
          | ok reaction =>
              obtain ⟨action, next⟩ := reaction
              simp only [reacted]
              cases action with
              | none | relay | deliver => exact trivial
              | write frame => exact full_of_react reacted
  | @act action outcome pending =>
      cases conclude action pending outcome with
      | error | ok => exact trivial

/-! ## What a thread has heard -/

def Call.event? : Call → Option Event
  | .read (.ok event) => some event
  | _ => none

/-- These events account for what a forwarder thread is about to do. -/
def Point.Tracks (fw : Forwarder) (past : List Event) : Point → Prop
  | .looking pending | .reading pending => fw.Tracked past pending
  | .acting action pending => fw.Accounted past (action, pending)
  | .ended _ => True

theorem Accounted.tracked {past action} (accounted : fw.Accounted past (action, pending)) :
    fw.Tracked past pending := by
  cases accounted with
  | delivery => exact .none
  | silence _ tracked => exact tracked

theorem Point.Tracks.step {past point next call} (tracks : Point.Tracks fw past point)
    (step : Point.Step fw point (some call) next) :
    Point.Tracks fw (past ++ call.event?.toList) next := by
  cases step with
  | @look active =>
      cases active with
      | true => exact (List.append_nil past).symm ▸ tracks
      | false => exact trivial
  | @read result pending =>
      cases result with
      | error => exact trivial
      | ok event =>
          unfold afterRead
          have accounted := accounted_respond (tracks : fw.Tracked past pending) event
          unfold respond at accounted
          cases reacted : fw.react pending event with
          | error => simp only [reacted]; exact trivial
          | ok reaction =>
              rw [reacted] at accounted
              simp only [reacted]
              exact accounted
  | @act action outcome pending =>
      have nothing : past ++ (Call.act action outcome).event?.toList = past := List.append_nil past
      rw [nothing]
      cases outcome with
      | ok => exact Accounted.tracked tracks
      | error fault =>
          rcases conclude_error action pending fault with ⟨_, ended⟩ | ⟨_, _, dropped⟩
          · rw [ended]
            exact trivial
          · rw [dropped]
            exact .none

/-- What a thread is about to deliver is spelled by frames that it has heard. -/
theorem Point.Tracks.exists_passage {past m pending}
    (tracks : Point.Tracks fw past (.acting (.deliver m) pending)) :
    ∃ passage : Passage,
      past = passage.events ∧ passage.Sound fw ∧ m = fw.message passage.data := by
  have accounted : fw.Accounted past (.deliver m, pending) := tracks
  cases accounted with
  | delivery passage heard sound => exact ⟨passage, heard, sound, rfl⟩
  | silence quiet => cases quiet

end Forwarder

end DiagnosticGateway
