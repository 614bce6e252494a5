import DiagnosticGateway.Relay

/-! # The operations of a relay

The users of a relay call it one after the other: a lock makes each call a step of its own, and a
wait that sleeps while another call is made acts like a wait before or after that call.
-/

namespace DiagnosticGateway
namespace Relay

open IsoTp (FlowControl)

inductive Operation where
  | push (fc : FlowControl)
  | wait (timeout : Span)
  | clear
  | close
deriving Repr, DecidableEq

def Event.operation : Event → Operation
  | .push fc => .push fc
  | .close => .close

/-- A call of a relay with its answer. -/
inductive Use where
  | push (fc : FlowControl) (accepted : Bool)
  | wait (timeout : Span) (outcome : Except Fault FlowControl)
  | clear (dropped : Nat)
  | close

namespace Use

def accepted? : Use → Option FlowControl
  | .push fc true => some fc
  | _ => none

def returned? : Use → Option FlowControl
  | .wait _ (.ok fc) => some fc
  | _ => none

/-- The frames that some of the uses are about, each with the number of its use. -/
def numbered (pick : Use → Option FlowControl) (uses : List Use) : List (FlowControl × Nat) :=
  uses.zipIdx.filterMap fun (use, n) => (pick use).map (·, n)

theorem numbered_concat (pick : Use → Option FlowControl) (uses : List Use) (use : Use) :
    numbered pick (uses ++ [use]) =
      numbered pick uses ++ ((pick use).map (·, uses.length)).toList := by
  cases picked : pick use <;> simp [numbered, List.zipIdx_append, picked]

end Use

def apply (relay : Relay) : Operation → Use × Relay
  | .push fc => (.push fc (relay.push fc).1, (relay.push fc).2)
  | .wait timeout => (.wait timeout (relay.wait timeout).1, (relay.wait timeout).2)
  | .clear => (.clear relay.clear.1, relay.clear.2)
  | .close => (.close, relay.close)

def run (relay : Relay) : List Operation → Relay
  | [] => relay
  | op :: ops => (relay.apply op).2.run ops

def uses (relay : Relay) : List Operation → List Use
  | [] => []
  | op :: ops => (relay.apply op).1 :: (relay.apply op).2.uses ops

theorem run_concat (relay : Relay) (ops : List Operation) (op : Operation) :
    relay.run (ops ++ [op]) = ((relay.run ops).apply op).2 := by
  induction ops generalizing relay with
  | nil => rfl
  | cons first ops ih => exact ih (relay.apply first).2

theorem uses_concat (relay : Relay) (ops : List Operation) (op : Operation) :
    relay.uses (ops ++ [op]) = relay.uses ops ++ [((relay.run ops).apply op).1] := by
  induction ops generalizing relay with
  | nil => rfl
  | cons first ops ih => exact congrArg _ (ih (relay.apply first).2)

@[simp]
theorem length_uses (relay : Relay) (ops : List Operation) :
    (relay.uses ops).length = ops.length := by
  induction ops generalizing relay with
  | nil => rfl
  | cons first ops ih => exact congrArg _ (ih (relay.apply first).2)

inductive Exit where
  | taken
  | cleared
  | displaced
deriving Repr, DecidableEq

/-- The frames that a use takes out of a relay, and how. -/
inductive Leaves (relay : Relay) : Use → List FlowControl → Exit → Prop where
  | taken {timeout fc} : Leaves relay (.wait timeout (.ok fc)) [fc] .taken
  | cleared : Leaves relay (.clear relay.frames.length) relay.frames .cleared
  | displaced {first later} :
    relay.capacity ≤ relay.frames.length → Leaves relay (.push later true) [first] .displaced
  | none {use exit} :
    use.returned? = none → (∀ count, use ≠ .clear count) → Leaves relay use [] exit

/-- A use takes frames from the front and adds at most one at the end. -/
def Changes (relay : Relay) (use : Use) (later : Relay) : Prop :=
  ∃ out kept exit, relay.frames = out ++ kept ∧
    later.frames = kept ++ use.accepted?.toList ∧ Leaves relay use out exit

theorem changes_push (relay : Relay) (roomy : 0 < relay.capacity) (fc : FlowControl) :
    Changes relay (.push fc (relay.push fc).1) (relay.push fc).2 := by
  obtain ⟨capacity, frames, _ | _⟩ := relay
  · by_cases full : capacity ≤ frames.length
    · obtain ⟨first, rest, rfl⟩ := List.exists_cons_of_length_pos (Nat.lt_of_lt_of_le roomy full)
      have pushed : push ⟨capacity, first :: rest, false⟩ fc =
          (true, ⟨capacity, rest ++ [fc], false⟩) := by
        simpa [push] using full
      rw [pushed]
      exact ⟨[first], rest, .displaced, rfl, rfl, .displaced full⟩
    · have pushed : push ⟨capacity, frames, false⟩ fc =
          (true, ⟨capacity, frames ++ [fc], false⟩) := by
        simp [push, full]
      rw [pushed]
      exact ⟨[], frames, .displaced, rfl, rfl, .none rfl nofun⟩
  · exact ⟨[], frames, .displaced, rfl, (List.append_nil _).symm, .none rfl nofun⟩

theorem changes_wait (relay : Relay) (timeout : Span) :
    Changes relay (.wait timeout (relay.wait timeout).1) (relay.wait timeout).2 := by
  obtain ⟨capacity, frames, _ | _⟩ := relay
  · cases frames with
    | nil => exact ⟨[], [], .taken, rfl, rfl, .none rfl nofun⟩
    | cons first rest =>
        exact ⟨[first], rest, .taken, rfl, (List.append_nil _).symm, .taken⟩
  · exact ⟨[], frames, .taken, rfl, (List.append_nil _).symm, .none rfl nofun⟩

theorem changes_apply (relay : Relay) (roomy : 0 < relay.capacity) (op : Operation) :
    Changes relay (relay.apply op).1 (relay.apply op).2 := by
  cases op with
  | push fc => exact changes_push relay roomy fc
  | wait timeout => exact changes_wait relay timeout
  | clear => exact ⟨relay.frames, [], .cleared, (List.append_nil _).symm, rfl, .cleared⟩
  | close => exact ⟨[], relay.frames, .taken, rfl, (List.append_nil _).symm, .none rfl nofun⟩

@[simp]
theorem capacity_apply (relay : Relay) (op : Operation) :
    (relay.apply op).2.capacity = relay.capacity := by
  obtain ⟨capacity, frames, closed⟩ := relay
  cases op with
  | push fc =>
      by_cases full : capacity ≤ frames.length <;> cases closed <;> simp [apply, push, full]
  | wait timeout => cases closed <;> cases frames <;> rfl
  | clear | close => rfl

@[simp]
theorem closed_apply (relay : Relay) (op : Operation) :
    (relay.apply op).2.closed = (relay.closed || op = .close) := by
  obtain ⟨capacity, frames, closed⟩ := relay
  cases op with
  | push fc =>
      by_cases full : capacity ≤ frames.length <;> cases closed <;> simp [apply, push, full]
  | wait timeout => cases closed <;> cases frames <;> simp [apply, wait]
  | clear | close => simp [apply, clear, close]

@[simp]
theorem capacity_run (relay : Relay) (ops : List Operation) :
    (relay.run ops).capacity = relay.capacity := by
  induction ops generalizing relay with
  | nil => rfl
  | cons op ops ih => exact (ih (relay.apply op).2).trans (capacity_apply relay op)

/-- A relay is closed from the first close on. -/
theorem closed_run (relay : Relay) (ops : List Operation) :
    (relay.run ops).closed = (relay.closed || decide (.close ∈ ops)) := by
  induction ops generalizing relay with
  | nil => simp [run]
  | cons op ops ih =>
      refine (ih (relay.apply op).2).trans ?_
      simp [Bool.or_assoc, eq_comm]

/-- A wait that another call overlaps is a wait before that call or after it. -/
theorem waitDuring_cases (relay : Relay) (timeout : Span) (event : Event) :
    ∃ order, (order = [.wait timeout, event.operation] ∨
        order = [event.operation, .wait timeout]) ∧
      .wait timeout (relay.waitDuring timeout event).1 ∈ relay.uses order ∧
      (relay.waitDuring timeout event).2 = relay.run order := by
  obtain ⟨capacity, frames, _ | _⟩ := relay
  · cases frames with
    | nil =>
        refine ⟨_, .inr rfl, ?_⟩
        cases event <;> exact ⟨.tail _ (.head _), rfl⟩
    | cons first rest =>
        refine ⟨_, .inl rfl, ?_⟩
        cases event <;> exact ⟨.head _, rfl⟩
  · refine ⟨_, .inl rfl, ?_⟩
    cases event <;> exact ⟨.head _, rfl⟩

end Relay
end DiagnosticGateway
