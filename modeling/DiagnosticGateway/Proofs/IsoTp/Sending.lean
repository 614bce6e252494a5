import DiagnosticGateway.Proofs.IsoTp.Blocks

/-! # The course of a send

`Course` says which calls a sender makes with frames left to write, one constructor for each call,
and how it ends. Everything that can be said about the order of the calls follows from it, for any
bus and any flow control: what is written, where a block ends, and what a fault leads to.
-/

namespace DiagnosticGateway.IsoTp

open Bus (Frame)

/-! ## What a message is cut into -/

namespace Sender

variable {σ : Type} {sender : Sender} {link : Link σ} {s : σ}

end Sender

/-! ## What calls mean -/

def Call.clearance? : Call → Option FlowControl
  | .wait (.ok fc) => if fc.status = .continueToSend then some fc else none
  | _ => none

/-- The fault with which a call makes the sender give up. -/
def Call.cause? : Call → Option Fault
  | .write _ (.error fault) => some fault
  | .wait (.error fault) => some fault
  | .wait (.ok fc) =>
    match fc.status with
    | .continueToSend | .wait => none
    | status => some (.flowControlAborted status)
  | _ => none

/-! ## The course of the calls -/

/-- What a sender may do with the frames that are left. -/
inductive Pace where
  /-- It drops the flow control from before the message. -/
  | starting
  /-- It needs clearance. -/
  | awaiting
  /-- It may write this many frames, or any number. -/
  | sending (room : Option Nat)

namespace Pace

def afterWrite : Option Nat → Pace
  | none => .sending none
  | some room => if room ≤ 1 then .awaiting else .sending (some (room - 1))

/-- The first frame goes out as a block of its own. -/
def afterStart : Pace := .sending (some 1)

def afterClearance (fc : FlowControl) : Pace :=
  .sending (if fc.blockSize = 0 then none else some fc.blockSize.toNat)

end Pace

/-- The calls of a sender that has these frames left to write, and how it ends. -/
inductive Course : Pace → List Frame → List Call → Except Fault Unit → Prop where
  | began {frames calls outcome} :
    Course .afterStart frames calls outcome → Course .starting frames (.clear :: calls) outcome
  | stranded {frames answer fault} :
    (Call.wait answer).cause? = some fault →
    Course .awaiting frames [.wait answer] (.error fault)
  | paused {frames fc calls outcome} :
    fc.status = .wait → Course .awaiting frames calls outcome →
    Course .awaiting frames (.wait (.ok fc) :: calls) outcome
  | cleared {frames fc calls outcome} :
    fc.status = .continueToSend → Course (.afterClearance fc) frames calls outcome →
    Course .awaiting frames (.wait (.ok fc) :: calls) outcome
  | broken {room frame frames fault} :
    Course (.sending room) (frame :: frames) [.write frame (.error fault)] (.error fault)
  | last {room frame} : Course (.sending room) [frame] [.write frame (.ok ())] (.ok ())
  | wrote {room frame frames calls outcome} :
    frames ≠ [] → Course (.afterWrite room) frames calls outcome →
    Course (.sending room) (frame :: frames) (.write frame (.ok ()) :: calls) outcome

namespace Course

variable {pace : Pace} {frames : List Frame} {calls before block after : List Call} {call : Call}
variable {outcome : Except Fault Unit} {fault : Fault}

/-- From every call on, the course goes on in its own right. -/
theorem suffix (course : Course pace frames calls outcome)
    (split : calls = before ++ call :: after) :
    ∃ pace frames, Course pace frames (call :: after) outcome := by
  induction before generalizing pace frames calls with
  | nil =>
      subst split
      exact ⟨pace, frames, course⟩
  | cons first before ih =>
      have nothing_follows : [] ≠ before ++ call :: after := by simp
      cases course with
      | stranded | broken | last => exact absurd (List.cons.inj split).2 nothing_follows
      | began rest | paused _ rest | cleared _ rest | wrote _ rest =>
          exact ih rest (List.cons.inj split).2

theorem stops (course : Course pace frames calls outcome) (split : calls = before ++ call :: after)
    (cause : call.cause? = some fault) : after = [] ∧ outcome = .error fault := by
  obtain ⟨pace, frames, here⟩ := course.suffix split
  cases here with
  | stranded found =>
      rw [found] at cause
      cases cause
      exact ⟨rfl, rfl⟩
  | broken =>
      cases cause
      exact ⟨rfl, rfl⟩
  | began | last | wrote => cases cause
  | paused status | cleared status => simp only [Call.cause?, status, reduceCtorEq] at cause

/-- The calls up to the next clearance, or up to the end: none of them gets one. -/
structure Uncleared (calls block after : List Call) : Prop where
  split : calls = block ++ after
  uncleared : ∀ call ∈ block, call.clearance? = none
  next : ∀ call ∈ after.head?, call.clearance? ≠ none

theorem Uncleared.uncons {first : Call} (parts : Uncleared (first :: calls) block after) :
    (block = [] ∧ first.clearance? ≠ none) ∨
      ∃ rest, block = first :: rest ∧ first.clearance? = none ∧ Uncleared calls rest after := by
  obtain ⟨split, uncleared, next⟩ := parts
  obtain ⟨rfl, rfl⟩ | ⟨rest, rfl, there⟩ := List.cons_eq_append_iff.mp split
  · exact .inl ⟨rfl, next first rfl⟩
  · obtain ⟨here, later⟩ := List.forall_mem_cons.mp uncleared
    exact .inr ⟨rest, rfl, here, there, later, next⟩

/-- The send is at its end after these calls, by a success or by a failure of the bus. -/
def Ends (outcome : Except Fault Unit) (block after : List Call) : Prop :=
  after = [] ∧
    (outcome = .ok () ∨ ∃ frame fault, block.getLast? = some (.write frame (.error fault)))

theorem Ends.cons (ends : Ends outcome block after) (call : Call) :
    Ends outcome (call :: block) after := by
  obtain ⟨rfl, sent | ⟨frame, fault, last⟩⟩ := ends
  · exact ⟨rfl, .inl sent⟩
  · exact ⟨rfl, .inr ⟨frame, fault, by rw [List.getLast?_cons, last]; rfl⟩⟩

end Course

/-! ## The course of a run -/

namespace Sender

variable {σ : Type} {sender : Sender} {link : Link σ} {s : σ} {data : List UInt8}

end Sender

/-! ## All that a sender does -/

namespace Sender

variable {σ : Type} {sender : Sender} {link : Link σ} {data : List UInt8}

end Sender

end DiagnosticGateway.IsoTp
