import DiagnosticGateway.Proofs.Relay.Operations

/-! # What becomes of the frames of a relay

A push that is accepted begins the stay of its frame, and an operation after it may end the stay.
The account of a relay lists the stays in the order in which they begin. Frames leave from the front
only, so those that have ended always come before those that go on.
-/

namespace DiagnosticGateway
namespace Relay

open IsoTp (FlowControl)

/-- The time that a frame spends in a relay. Both ends are numbers of operations. -/
structure Stay where
  frame : FlowControl
  /-- The push that brought the frame in. -/
  since : Nat
  /-- The operation that took it out, unless it is still there. -/
  left : Option (Nat × Exit)
deriving Repr, DecidableEq

namespace Stay

/-- Whether the frame is in the relay when the first `n` operations are over. -/
def covers (stay : Stay) (n : Nat) : Bool := stay.since < n && stay.left.all (n ≤ ·.1)

def leave (n : Nat) (exit : Exit) (stay : Stay) : Stay := { stay with left := some (n, exit) }

/-- The frame and the number of the wait that returned it. -/
def taken? (stay : Stay) : Option (FlowControl × Nat) :=
  match stay.left with
  | some (n, .taken) => some (stay.frame, n)
  | _ => none

/-- No other frame has been in the relay for longer when the first `n` operations are over. -/
def IsOldest (stays : List Stay) (n : Nat) (stay : Stay) : Prop :=
  ∀ other ∈ stays, other.covers n → stay.since ≤ other.since

end Stay

/-- The operation number `n` is one by which the frame could leave. -/
def Explains (start : Relay) (ops : List Operation) (stays : List Stay) (stay : Stay) (n : Nat) :
    Exit → Prop
  | .taken => (∃ timeout, (start.uses ops)[n]? = some (.wait timeout (.ok stay.frame))) ∧
      stay.IsOldest stays n
  | .cleared => ∃ count, (start.uses ops)[n]? = some (.clear count)
  | .displaced => (∃ later, (start.uses ops)[n]? = some (.push later true)) ∧
      start.capacity ≤ (start.run (ops.take n)).frames.length ∧ stay.IsOldest stays n

/-- A full account of the frames that come into a relay. -/
structure Account (start : Relay) (ops : List Operation) (stays : List Stay) : Prop where
  /-- Every accepted push begins a stay. -/
  accepted : stays.map (fun stay => (stay.frame, stay.since)) =
    Use.numbered Use.accepted? (start.uses ops)
  /-- At every moment the relay holds the frames that have come and not left, the oldest first. -/
  frames : ∀ n ≤ ops.length,
    (start.run (ops.take n)).frames = (stays.filter (·.covers n)).map Stay.frame
  /-- A frame leaves after it came and for one of three reasons. -/
  explained : ∀ stay ∈ stays, ∀ n exit, stay.left = some (n, exit) →
    stay.since < n ∧ Explains start ops stays stay n exit
  /-- What the waits return are the frames that have left that way. -/
  returned : stays.filterMap Stay.taken? = Use.numbered Use.returned? (start.uses ops)
  /-- A clear returns the number of frames that it removes. -/
  counted : ∀ n count, (start.uses ops)[n]? = some (.clear count) →
    count = stays.countP (·.left == some (n, .cleared))

namespace Stay

variable {stay : Stay} {n m : Nat} {exit : Exit}

theorem covers_of_held (held : stay.left = none) : stay.covers n = decide (stay.since < n) := by
  simp [covers, held]

theorem covers_leave (held : stay.left = none) (early : n ≤ m) :
    (stay.leave m exit).covers n = stay.covers n := by
  simp only [covers, leave, held, Option.all_some, Option.all_none, early, decide_true]
  rfl

theorem not_covers_of_left (left : stay.left = some (m, exit)) (late : m < n) :
    stay.covers n = false := by
  simp [covers, left, late]

theorem filterMap_taken? {stays : List Stay} (goesOn : ∀ stay ∈ stays, stay.left = none) :
    stays.filterMap taken? = [] :=
  List.filterMap_eq_nil_iff.mpr fun stay member => by simp [taken?, goesOn stay member]

end Stay

/-- Stays after `n` operations: first those that have ended, then those that go on. The account
carries no order of its own, and this is the order that the proofs rest on. -/
structure Lineup (n : Nat) (gone held : List Stay) : Prop where
  ended : ∀ stay ∈ gone, ∃ m exit, stay.left = some (m, exit) ∧ m < n
  goesOn : ∀ stay ∈ held, stay.left = none
  begun : ∀ stay ∈ gone ++ held, stay.since < n
  ordered : (gone ++ held).Pairwise (·.since < ·.since)

/-- The stay that the operation number `n` begins if it brings a frame in. -/
def Stay.arrival (n : Nat) (fc : Option FlowControl) : List Stay :=
  (fc.map (Stay.mk · n none)).toList

theorem Stay.of_mem_arrival {stay : Stay} {n : Nat} {fc : Option FlowControl}
    (member : stay ∈ Stay.arrival n fc) : stay.since = n ∧ stay.left = none := by
  obtain ⟨frame, _, rfl⟩ := Option.map_eq_some_iff.mp (Option.mem_toList.mp member)
  exact ⟨rfl, rfl⟩

theorem Stay.not_covers_of_mem_arrival {stay : Stay} {n m : Nat} {fc : Option FlowControl}
    (member : stay ∈ Stay.arrival m fc) (early : n ≤ m) : stay.covers n = false := by
  obtain ⟨since, left⟩ := Stay.of_mem_arrival member
  rw [Stay.covers_of_held left, since]
  exact decide_eq_false (Nat.not_lt_of_le early)

/-- The stays after the operation number `n`: those of `out` end and a new one may begin. -/
def Stay.advance (gone out kept : List Stay) (n : Nat) (exit : Exit) (fc : Option FlowControl) :
    List Stay :=
  (gone ++ out.map (Stay.leave n exit)) ++ (kept ++ Stay.arrival n fc)

namespace Lineup

variable {gone held out kept : List Stay} {n m : Nat} {exit : Exit} {fc : Option FlowControl}

theorem nil : Lineup 0 [] [] :=
  ⟨List.forall_mem_nil _, List.forall_mem_nil _, List.forall_mem_nil _, .nil⟩

theorem filter_covers (lineup : Lineup n gone held) :
    (gone ++ held).filter (·.covers n) = held := by
  have none_covers : gone.filter (·.covers n) = [] := by
    rw [List.filter_eq_nil_iff]
    intro stay member
    obtain ⟨m, exit, left, early⟩ := lineup.ended stay member
    simp [Stay.not_covers_of_left left early]
  have all_cover : held.filter (·.covers n) = held := by
    rw [List.filter_eq_self]
    intro stay member
    rw [Stay.covers_of_held (lineup.goesOn stay member)]
    exact decide_eq_true (lineup.begun stay (List.mem_append_right _ member))
  rw [List.filter_append, none_covers, all_cover, List.nil_append]

/-- The oldest stay that goes on is the first of them. -/
theorem isOldest_of_cons {first : Stay} (lineup : Lineup n gone (first :: kept)) :
    first.IsOldest (gone ++ (first :: kept)) n := by
  intro other member covers
  have still : other ∈ first :: kept := by
    rw [← lineup.filter_covers]
    exact List.mem_filter.mpr ⟨member, covers⟩
  rcases List.mem_cons.mp still with rfl | later
  · exact Nat.le_refl _
  · have ordered := (List.pairwise_append.mp lineup.ordered).2.1
    exact Nat.le_of_lt ((List.pairwise_cons.mp ordered).1 other later)

theorem leaving (lineup : Lineup n gone (out ++ kept)) : ∀ stay ∈ out, stay.left = none :=
  fun stay member => lineup.goesOn stay (List.mem_append_left _ member)

theorem staying (lineup : Lineup n gone (out ++ kept)) :
    ∀ stay ∈ kept ++ Stay.arrival n fc, stay.left = none := by
  intro stay member
  rcases List.mem_append.mp member with member | member
  · exact lineup.goesOn stay (List.mem_append_right _ member)
  · exact (Stay.of_mem_arrival member).2

theorem map_since_advance :
    (Stay.advance gone out kept n exit fc).map Stay.since =
      (gone ++ (out ++ kept)).map Stay.since ++ (Stay.arrival n fc).map Stay.since := by
  simp [Stay.advance, Stay.leave, Function.comp_def]

theorem advance (lineup : Lineup n gone (out ++ kept)) (exit : Exit) (fc : Option FlowControl) :
    Lineup (n + 1) (gone ++ out.map (Stay.leave n exit)) (kept ++ Stay.arrival n fc) where
  ended := by
    intro stay member
    rcases List.mem_append.mp member with member | member
    · obtain ⟨m, exit, left, early⟩ := lineup.ended stay member
      exact ⟨m, exit, left, Nat.lt_succ_of_lt early⟩
    · obtain ⟨before, _, rfl⟩ := List.mem_map.mp member
      exact ⟨n, exit, rfl, Nat.lt_succ_self n⟩
  goesOn := lineup.staying
  begun := by
    intro stay member
    have since : stay.since ∈ (Stay.advance gone out kept n exit fc).map Stay.since :=
      List.mem_map_of_mem member
    rw [map_since_advance, List.mem_append, List.mem_map, List.mem_map] at since
    rcases since with ⟨before, member, since_eq⟩ | ⟨new, member, since_eq⟩
    · exact since_eq ▸ Nat.lt_succ_of_lt (lineup.begun before member)
    · exact since_eq ▸ (Stay.of_mem_arrival member).1 ▸ Nat.lt_succ_self n
  ordered := by
    have ordered := lineup.ordered
    rw [← List.pairwise_map] at ordered
    have later : ((Stay.advance gone out kept n exit fc).map Stay.since).Pairwise (· < ·) := by
      rw [map_since_advance, List.pairwise_append]
      refine ⟨ordered, by cases fc <;> simp [Stay.arrival], ?_⟩
      intro first before second now
      obtain ⟨stay, member, rfl⟩ := List.mem_map.mp before
      obtain ⟨new, comes, rfl⟩ := List.mem_map.mp now
      exact (Stay.of_mem_arrival comes).1 ▸ lineup.begun stay member
    exact List.pairwise_map.mp later

/-- One more operation changes nothing about the moments before it. -/
theorem filter_advance (lineup : Lineup m gone (out ++ kept)) (early : n ≤ m) :
    ((Stay.advance gone out kept m exit fc).filter (·.covers n)).map Stay.frame =
      ((gone ++ (out ++ kept)).filter (·.covers n)).map Stay.frame := by
  have same : (out.map (Stay.leave m exit)).filter (·.covers n) =
      (out.filter (·.covers n)).map (Stay.leave m exit) := by
    rw [List.filter_map]
    exact congrArg _ (List.filter_congr fun stay member =>
      Stay.covers_leave (lineup.leaving stay member) early)
  have not_yet : (Stay.arrival m fc).filter (·.covers n) = [] :=
    List.filter_eq_nil_iff.mpr fun stay member =>
      Bool.eq_false_iff.mp (Stay.not_covers_of_mem_arrival member early)
  simp only [Stay.advance, List.filter_append, List.map_append, same, not_yet, List.map_map,
    List.append_nil, List.append_assoc]
  rfl

theorem isOldest_advance {stay : Stay} (lineup : Lineup m gone (out ++ kept)) (early : n ≤ m)
    (oldest : stay.IsOldest (gone ++ (out ++ kept)) n) :
    stay.IsOldest (Stay.advance gone out kept m exit fc) n := by
  intro other member covers
  simp only [Stay.advance, List.mem_append, List.mem_map] at member
  rcases member with (member | ⟨before, member, rfl⟩) | member | member
  · exact oldest other (by simp [member]) covers
  · rw [Stay.covers_leave (lineup.leaving before member) early] at covers
    exact oldest before (by simp [member]) covers
  · exact oldest other (by simp [member]) covers
  · rw [Stay.not_covers_of_mem_arrival member early] at covers
    cases covers

end Lineup

namespace Account

variable {start : Relay} {ops : List Operation} {gone held out kept : List Stay}
variable {op : Operation} {use : Use} {later : Relay} {exit : Exit}

theorem nil (empty : start.frames = []) : Account start [] [] where
  accepted := rfl
  frames := fun _ _ => by simpa [run] using empty
  explained := List.forall_mem_nil _
  returned := rfl
  counted := fun _ _ found => by simp [uses] at found

/-- What the relay holds are the frames whose stays go on. -/
theorem frames_now (account : Account start ops (gone ++ held))
    (lineup : Lineup ops.length gone held) : (start.run ops).frames = held.map Stay.frame := by
  have frames := account.frames ops.length (Nat.le_refl _)
  rwa [List.take_length, lineup.filter_covers] at frames

theorem explains_before {stay : Stay} {n : Nat} {reason : Exit}
    (lineup : Lineup ops.length gone (out ++ kept)) (early : n < ops.length)
    (explains : Explains start ops (gone ++ (out ++ kept)) stay n reason) (fc) :
    Explains start (ops ++ [op]) (Stay.advance gone out kept ops.length exit fc) stay n reason := by
  have use_eq : (start.uses (ops ++ [op]))[n]? = (start.uses ops)[n]? := by
    rw [uses_concat, List.getElem?_append_left (by simpa using early)]
  have take_eq : (ops ++ [op]).take n = ops.take n :=
    List.take_append_of_le_length (Nat.le_of_lt early)
  cases reason with
  | taken =>
      obtain ⟨returned, oldest⟩ := explains
      exact ⟨use_eq ▸ returned, lineup.isOldest_advance (Nat.le_of_lt early) oldest⟩
  | cleared =>
      obtain ⟨count, cleared⟩ := explains
      exact ⟨count, use_eq.trans cleared⟩
  | displaced =>
      obtain ⟨pushed, full, oldest⟩ := explains
      exact ⟨use_eq ▸ pushed, take_eq ▸ full, lineup.isOldest_advance (Nat.le_of_lt early) oldest⟩

theorem explains_now (lineup : Lineup ops.length gone (out ++ kept))
    (done : ((start.run ops).apply op).1 = use)
    (leaves : Leaves (start.run ops) use (out.map Stay.frame) exit) :
    ∀ stay ∈ out, Explains start (ops ++ [op])
      (Stay.advance gone out kept ops.length exit use.accepted?) (stay.leave ops.length exit)
      ops.length exit := by
  have use_eq : (start.uses (ops ++ [op]))[ops.length]? = some use := by
    simp [uses_concat, done]
  intro stay member
  generalize front : out.map Stay.frame = frames at leaves
  cases leaves with
  | taken =>
      obtain ⟨first, rfl, rfl⟩ := List.map_eq_singleton_iff.mp front
      cases List.mem_singleton.mp member
      exact ⟨⟨_, use_eq⟩, lineup.isOldest_advance (Nat.le_refl _) lineup.isOldest_of_cons⟩
  | cleared => exact ⟨_, use_eq⟩
  | displaced full =>
      obtain ⟨first, rfl, rfl⟩ := List.map_eq_singleton_iff.mp front
      cases List.mem_singleton.mp member
      refine ⟨⟨_, use_eq⟩, ?_, lineup.isOldest_advance (Nat.le_refl _) lineup.isOldest_of_cons⟩
      simpa using full
  | none =>
      cases List.map_eq_nil_iff.mp front
      cases member

theorem accepted_advance (account : Account start ops (gone ++ (out ++ kept))) :
    (Stay.advance gone out kept ops.length exit use.accepted?).map
        (fun stay => (stay.frame, stay.since)) =
      Use.numbered Use.accepted? (start.uses ops ++ [use]) := by
  rw [Use.numbered_concat, ← account.accepted, length_uses]
  cases use.accepted? <;> simp [Stay.advance, Stay.arrival, Stay.leave, Function.comp_def]

theorem returned_advance (account : Account start ops (gone ++ (out ++ kept)))
    (lineup : Lineup ops.length gone (out ++ kept))
    (leaves : Leaves (start.run ops) use (out.map Stay.frame) exit) :
    (Stay.advance gone out kept ops.length exit use.accepted?).filterMap Stay.taken? =
      Use.numbered Use.returned? (start.uses ops ++ [use]) := by
  have before : gone.filterMap Stay.taken? = Use.numbered Use.returned? (start.uses ops) := by
    rw [← account.returned, List.filterMap_append, Stay.filterMap_taken? lineup.goesOn,
      List.append_nil]
  have now : (out.map (Stay.leave ops.length exit)).filterMap Stay.taken? =
      (use.returned?.map (·, ops.length)).toList := by
    generalize front : out.map Stay.frame = frames at leaves
    cases leaves with
    | taken =>
        obtain ⟨first, rfl, rfl⟩ := List.map_eq_singleton_iff.mp front
        rfl
    | cleared => simp [Stay.taken?, Stay.leave, Use.returned?]
    | displaced full =>
        obtain ⟨first, rfl, rfl⟩ := List.map_eq_singleton_iff.mp front
        rfl
    | none quiet =>
        cases List.map_eq_nil_iff.mp front
        simp [quiet]
  rw [Stay.advance, List.filterMap_append, List.filterMap_append, before, now,
    Stay.filterMap_taken? lineup.staying, List.append_nil, Use.numbered_concat, length_uses]

/-- The stays that a clear ends are all in the part that leaves then. -/
theorem countP_advance (lineup : Lineup ops.length gone (out ++ kept)) (fc) (n : Nat) :
    (Stay.advance gone out kept ops.length exit fc).countP (·.left == some (n, .cleared)) =
      gone.countP (·.left == some (n, .cleared)) +
        if ops.length = n ∧ exit = .cleared then out.length else 0 := by
  have now : (out.map (Stay.leave ops.length exit)).countP (·.left == some (n, .cleared)) =
      if ops.length = n ∧ exit = .cleared then out.length else 0 := by
    split <;> simp_all [Stay.leave, Function.comp_def]
  have after : (kept ++ Stay.arrival ops.length fc).countP (·.left == some (n, .cleared)) = 0 :=
    List.countP_eq_zero.mpr fun stay member => by simp [lineup.staying stay member]
  rw [Stay.advance, List.countP_append, List.countP_append, now, after, Nat.add_zero]

theorem counted_advance (account : Account start ops (gone ++ (out ++ kept)))
    (lineup : Lineup ops.length gone (out ++ kept))
    (leaves : Leaves (start.run ops) use (out.map Stay.frame) exit) (n count : Nat)
    (cleared : (start.uses ops ++ [use])[n]? = some (.clear count)) :
    count = (Stay.advance gone out kept ops.length exit use.accepted?).countP
      (·.left == some (n, .cleared)) := by
  rw [countP_advance lineup]
  by_cases early : n < ops.length
  · rw [List.getElem?_append_left (by simpa using early)] at cleared
    have none_held : (out ++ kept).countP (·.left == some (n, .cleared)) = 0 :=
      List.countP_eq_zero.mpr fun stay member => by simp [lineup.goesOn stay member]
    have counted := account.counted n count cleared
    rw [List.countP_append, none_held] at counted
    simpa [Nat.ne_of_gt early] using counted
  · rw [List.getElem?_append_right (by simpa using early)] at cleared
    obtain ⟨rfl, rfl⟩ : n = ops.length ∧ use = .clear count := by
      have inside := (List.getElem?_eq_some_iff.mp cleared).1
      simp only [length_uses, List.length_singleton] at inside
      obtain rfl : n = ops.length := by omega
      simpa using cleared
    have none_gone : gone.countP (·.left == some (ops.length, .cleared)) = 0 := by
      rw [List.countP_eq_zero]
      intro stay member
      obtain ⟨m, reason, left, before⟩ := lineup.ended stay member
      simp [left, Nat.ne_of_lt before]
    -- No stay that has ended before can be counted for this operation.
    generalize front : out.map Stay.frame = frames at leaves
    cases leaves with
    | cleared => rw [none_gone, if_pos ⟨rfl, rfl⟩, ← front, List.length_map, Nat.zero_add]
    | none _ other => exact absurd rfl (other count)

theorem step (account : Account start ops (gone ++ (out ++ kept)))
    (lineup : Lineup ops.length gone (out ++ kept))
    (done : (start.run ops).apply op = (use, later))
    (frames : later.frames = kept.map Stay.frame ++ use.accepted?.toList)
    (leaves : Leaves (start.run ops) use (out.map Stay.frame) exit) :
    Account start (ops ++ [op]) (Stay.advance gone out kept ops.length exit use.accepted?) := by
  have uses_eq : start.uses (ops ++ [op]) = start.uses ops ++ [use] := by
    rw [uses_concat, done]
  refine ⟨uses_eq ▸ account.accepted_advance, ?frames, ?explained,
    uses_eq ▸ account.returned_advance lineup leaves,
    fun n count cleared => account.counted_advance lineup leaves n count (uses_eq ▸ cleared)⟩
  case frames =>
    intro n early
    by_cases before : n ≤ ops.length
    · rw [List.take_append_of_le_length before, account.frames n before,
        lineup.filter_advance before]
    · obtain rfl : n = (ops ++ [op]).length := by simp at early ⊢; omega
      have now := (lineup.advance exit use.accepted?).filter_covers
      rw [List.take_length, run_concat, done, frames, Stay.advance, List.length_append,
        List.length_singleton, now]
      cases use.accepted? <;> simp [Stay.arrival]
  case explained =>
    intro stay member n reason left
    simp only [Stay.advance, List.mem_append, List.mem_map] at member
    rcases member with (member | ⟨before, member, rfl⟩) | member
    · have earlier := account.explained stay (List.mem_append_left _ member) n reason left
      obtain ⟨m, exit, ended, early⟩ := lineup.ended stay member
      obtain ⟨rfl, rfl⟩ : m = n ∧ exit = reason := by simpa [ended] using left
      exact ⟨earlier.1, explains_before lineup early earlier.2 _⟩
    · cases left
      exact ⟨lineup.begun before (by simp [member]),
        explains_now lineup (by rw [done]) leaves before member⟩
    · rw [lineup.staying stay (List.mem_append.mpr member)] at left
      cases left

theorem extend (account : Account start ops (gone ++ held)) (roomy : 0 < start.capacity)
    (more : List Operation) (lineup : Lineup ops.length gone held) :
    ∃ gone held, Account start (ops ++ more) (gone ++ held) ∧
      Lineup (ops ++ more).length gone held := by
  induction more generalizing ops gone held with
  | nil => exact ⟨gone, held, by simpa using account, by simpa using lineup⟩
  | cons op more ih =>
      -- The frames that leave are those of the first stays that go on.
      have here := account.frames_now lineup
      obtain ⟨front, back, exit, split, frames, leaves⟩ :=
        changes_apply (start.run ops) (by simpa using roomy) op
      obtain ⟨out, kept, rfl, rfl, rfl⟩ := List.map_eq_append_iff.mp (here.symm.trans split)
      rw [List.append_cons]
      refine ih (account.step lineup rfl frames leaves) ?_
      simpa using lineup.advance exit _

end Account

end Relay
end DiagnosticGateway
