import DiagnosticGateway.Doip.Sink

/-! # What a write leaves behind

Writing goes on until all bytes are taken or a call fails, and that call is the last. So what a
connection has taken is always the start of the message, and the payload is not offered to it before
it has taken the whole header.
-/

namespace DiagnosticGateway.Doip

namespace Sink

/-- One call of a sink. -/
structure Call where
  offered : List UInt8
  answer : Except IoError Nat

namespace Call

/-- The bytes that the call has put out. -/
def taken (call : Call) : List UInt8 :=
  match call.answer with
  | .ok n => call.offered.take n
  | .error _ => []

/-- The fault with which writing ends at this call. There is none if writing goes on. -/
def fault? (call : Call) : Option Fault :=
  match call.answer with
  | .ok 0 => some (.io ⟨.writeZero, "failed to write whole buffer"⟩)
  | .ok (_ + 1) => none
  | .error error => if error.kind = .interrupted then none else some (.io error)

theorem taken_isPrefix (call : Call) : call.taken <+: call.offered := by
  unfold taken
  split
  · exact List.take_prefix _ _
  · exact List.nil_prefix

theorem taken_of_fault? {call : Call} {fault : Fault} (fails : call.fault? = some fault) :
    call.taken = [] := by
  unfold fault? at fails
  unfold taken
  split at fails <;> rename_i answer <;> rw [answer]
  · exact List.take_zero
  · cases fails

end Call

variable {σ : Type} {sink : Sink σ}

/-! ## One call -/

theorem drop_length_take (bytes : List UInt8) (n : Nat) :
    bytes.drop (bytes.take n).length = bytes.drop n := by
  grind [List.drop_eq_nil_of_le]

section Call

variable {bytes : List UInt8} {s after : σ} {answer : Except IoError Nat}

theorem writeAll_of_fault {fault : Fault} (more : bytes ≠ [])
    (called : sink.accept bytes s = (answer, after))
    (fails : (Call.mk bytes answer).fault? = some fault) :
    sink.writeAll bytes s = ([], .error fault, after) := by
  cases bytes with
  | nil => exact absurd rfl more
  | cons b rest =>
      rw [writeAll]
      split <;> rename_i again <;> rw [called] at again <;> cases again
      · cases fails
        rfl
      · cases fails
      · simp only [Call.fault?] at fails
        split at fails
        · cases fails
        · rename_i final
          cases fails
          rw [dif_neg final]

theorem writeAll_of_further (more : bytes ≠ [])
    (called : sink.accept bytes s = (answer, after))
    (goesOn : (Call.mk bytes answer).fault? = none) :
    sink.writeAll bytes s =
      ((Call.mk bytes answer).taken ++
        (sink.writeAll (bytes.drop (Call.mk bytes answer).taken.length) after).1,
        (sink.writeAll (bytes.drop (Call.mk bytes answer).taken.length) after).2) := by
  cases bytes with
  | nil => exact absurd rfl more
  | cons b rest =>
      rw [writeAll]
      split <;> rename_i again <;> rw [called] at again <;> cases again
      · cases goesOn
      · rename_i n
        simp only [Call.taken, drop_length_take]
        rfl
      · simp only [Call.fault?] at goesOn
        split at goesOn
        · rename_i interrupted
          rw [dif_pos interrupted]
          rfl
        · cases goesOn

end Call

/-! ## All calls -/

/-- The sink that also lists its calls. -/
def recording (sink : Sink σ) : Sink (σ × List Call) where
  accept bytes s :=
    let (answer, after) := sink.accept bytes s.1
    (answer, after, s.2 ++ [⟨bytes, answer⟩])
  interruptions s := sink.interruptions s.1
  interruptions_lt bytes s := sink.interruptions_lt bytes s.1

/-- The calls with which these bytes are written, and how that ends. Each call offers what is left. -/
inductive Course : List UInt8 → List Call → Except Fault Unit → Prop where
  | complete : Course [] [] (.ok ())
  | broken {call fault} :
    call.offered ≠ [] → call.fault? = some fault → Course call.offered [call] (.error fault)
  | further {call calls outcome} :
    call.offered ≠ [] → call.fault? = none →
    Course (call.offered.drop call.taken.length) calls outcome →
    Course call.offered (call :: calls) outcome

/-- Writing these bytes makes these calls, and puts out what they take. -/
structure Makes (sink : Sink σ) (bytes : List UInt8) (s : σ) (calls : List Call)
    (out : List UInt8) (outcome : Except Fault Unit) (after : σ) : Prop where
  written : sink.writeAll bytes s = (out, outcome, after)
  recorded : ∀ log, sink.recording.writeAll bytes (s, log) = (out, outcome, after, log ++ calls)
  taken : out = calls.flatMap Call.taken
  course : Course bytes calls outcome

theorem accept_recording {bytes : List UInt8} {s after : σ} {answer : Except IoError Nat}
    (called : sink.accept bytes s = (answer, after)) (log : List Call) :
    sink.recording.accept bytes (s, log) = (answer, after, log ++ [⟨bytes, answer⟩]) := by
  simp only [recording, called]

theorem Makes.of_fault {bytes : List UInt8} {s after : σ} {answer : Except IoError Nat}
    {fault : Fault} (more : bytes ≠ []) (called : sink.accept bytes s = (answer, after))
    (fails : (Call.mk bytes answer).fault? = some fault) :
    Makes sink bytes s [⟨bytes, answer⟩] [] (.error fault) after where
  written := writeAll_of_fault more called fails
  recorded log := writeAll_of_fault more (accept_recording called log) fails
  taken := by rw [List.flatMap_singleton, Call.taken_of_fault? fails]
  course := .broken more fails

theorem Makes.of_further {bytes out : List UInt8} {s after final : σ}
    {answer : Except IoError Nat} {calls : List Call} {outcome : Except Fault Unit}
    (more : bytes ≠ []) (called : sink.accept bytes s = (answer, after))
    (goesOn : (Call.mk bytes answer).fault? = none)
    (rest : Makes sink (bytes.drop (Call.mk bytes answer).taken.length) after calls out outcome
      final) :
    Makes sink bytes s (⟨bytes, answer⟩ :: calls) ((Call.mk bytes answer).taken ++ out) outcome
      final where
  written := by rw [writeAll_of_further more called goesOn, rest.written]
  recorded log := by
    rw [writeAll_of_further more (accept_recording called log) goesOn, rest.recorded,
      List.append_assoc]
    rfl
  taken := by rw [List.flatMap_cons, ← rest.taken]
  course := .further more goesOn rest.course

theorem exists_makes (sink : Sink σ) (bytes : List UInt8) (s : σ) :
    ∃ calls out outcome after, Makes sink bytes s calls out outcome after := by
  fun_induction writeAll sink bytes s with
  | case1 s =>
      refine ⟨[], [], .ok (), s, ?_, ?_, rfl, .complete⟩
      · rw [writeAll]
      · intro log
        rw [writeAll, List.append_nil]
  | case2 s b rest after accepted =>
      exact ⟨_, _, _, _, .of_fault (List.cons_ne_nil b rest) accepted rfl⟩
  | case3 s b rest n after accepted out outcome final more ih =>
      obtain ⟨_, _, _, _, makes⟩ := ih
      have left : (b :: rest).drop ((b :: rest).take (n + 1)).length = rest.drop n :=
        drop_length_take _ _
      rw [← left] at makes
      exact ⟨_, _, _, _, .of_further (List.cons_ne_nil b rest) accepted rfl makes⟩
  | case4 s b rest error after accepted interrupted progress ih =>
      obtain ⟨_, _, _, _, makes⟩ := ih
      exact ⟨_, _, _, _, .of_further (List.cons_ne_nil b rest) accepted (if_pos interrupted) makes⟩
  | case5 s b rest error after accepted broken =>
      exact ⟨_, _, _, _, .of_fault (List.cons_ne_nil b rest) accepted (if_neg broken)⟩

/-! ## What the calls put out -/

/-- How writing ends: no call fails, or the last one does and no other. -/
inductive Ends : List Call → Except Fault Unit → Prop where
  | complete {calls} : (∀ call ∈ calls, call.fault? = none) → Ends calls (.ok ())
  | broken {before call fault} :
    (∀ call ∈ before, call.fault? = none) → call.fault? = some fault →
    Ends (before ++ [call]) (.error fault)

theorem Ends.prepend {before calls : List Call} {outcome : Except Fault Unit}
    (goOn : ∀ call ∈ before, call.fault? = none) (ends : Ends calls outcome) :
    Ends (before ++ calls) outcome := by
  cases ends with
  | complete rest => exact .complete (List.forall_mem_append.mpr ⟨goOn, rest⟩)
  | broken rest fails =>
      rw [← List.append_assoc]
      exact .broken (List.forall_mem_append.mpr ⟨goOn, rest⟩) fails

namespace Course

variable {bytes : List UInt8} {calls : List Call} {outcome : Except Fault Unit}

theorem ends (course : Course bytes calls outcome) : Ends calls outcome := by
  induction course with
  | complete => exact .complete (List.forall_mem_nil _)
  | broken _ fails => exact .broken (List.forall_mem_nil _) fails
  | further _ goesOn _ ih => exact ih.prepend (List.forall_mem_singleton.mpr goesOn)

/-- Each call offers just what the calls before it have left. -/
theorem offered (course : Course bytes calls outcome) :
    ∀ before call after, calls = before ++ call :: after →
      before.flatMap Call.taken ++ call.offered = bytes ∧ call.offered ≠ [] := by
  induction course with
  | complete =>
      intro before call after split
      cases before <;> cases split
  | broken more _ =>
      intro before call after split
      cases before with
      | nil =>
          cases split
          exact ⟨rfl, more⟩
      | cons first before =>
          cases before <;> cases split
  | @further first calls outcome more _ _ ih =>
      intro before call after split
      cases before with
      | nil =>
          cases split
          exact ⟨rfl, more⟩
      | cons other before =>
          obtain ⟨rfl, later⟩ := List.cons.inj split
          obtain ⟨left, rest⟩ := ih before call after later
          refine ⟨?_, rest⟩
          rw [List.flatMap_cons, List.append_assoc, left]
          exact List.prefix_iff_eq_append.mp first.taken_isPrefix

theorem isPrefix (course : Course bytes calls outcome) : calls.flatMap Call.taken <+: bytes := by
  induction course with
  | complete => exact List.prefix_rfl
  | @broken call _ _ _ =>
      rw [List.flatMap_singleton]
      exact call.taken_isPrefix
  | @further first calls outcome _ _ _ ih =>
      have whole := List.prefix_iff_eq_append.mp first.taken_isPrefix
      rw [List.flatMap_cons]
      conv => rhs; rw [← whole]
      exact (List.prefix_append_right_inj _).mpr ih

theorem ok_iff (course : Course bytes calls outcome) :
    outcome = .ok () ↔ calls.flatMap Call.taken = bytes := by
  induction course with
  | complete => exact iff_of_true rfl rfl
  | @broken call fault more fails =>
      rw [List.flatMap_singleton, Call.taken_of_fault? fails]
      exact iff_of_false nofun more.symm
  | @further first calls outcome _ _ _ ih =>
      have whole := List.prefix_iff_eq_append.mp first.taken_isPrefix
      rw [ih, List.flatMap_cons]
      conv => rhs; rhs; rw [← whole]
      exact (List.append_right_inj _).symm

/-- A failure leaves something out. -/
theorem ne_append {fault : Fault} (course : Course bytes calls (.error fault))
    (rest : List UInt8) : calls.flatMap Call.taken ≠ bytes ++ rest := by
  intro whole
  have all : bytes <+: calls.flatMap Call.taken := whole ▸ List.prefix_append _ _
  have same : calls.flatMap Call.taken = bytes := course.isPrefix.eq_of_length_le all.length_le
  exact nomatch course.ok_iff.mpr same

end Course

theorem Ends.goOn_of_ok {calls : List Call} (ends : Ends calls (.ok ())) :
    ∀ call ∈ calls, call.fault? = none := by
  cases ends with
  | complete goOn => exact goOn

/-- An entry of two lists in a row is in the first or in the second. -/
theorem append_cases {first second before after : List Call} {call : Call}
    (split : first ++ second = before ++ call :: after) :
    (∃ rest, first = before ++ call :: rest) ∨
      ∃ rest, before = first ++ rest ∧ second = rest ++ call :: after := by
  rcases List.append_eq_append_iff.mp split with later | ⟨rest, begun, ended⟩
  · exact .inr later
  · cases rest with
    | nil => exact .inr ⟨[], by simpa using begun.symm, ended.symm⟩
    | cons other rest =>
        cases ended
        exact .inl ⟨rest, begun⟩

/-- What a sink has taken of a message is its start, whatever the sink answers. Writing succeeds
exactly if that is the whole message. Otherwise it ends at the first call that fails, with the fault
of that call, and the payload is not offered before the header is out. -/
theorem failed_write_leaves_prefix (sink : Sink σ) (m : Message) (s : σ) :
    ∃ out outcome after calls, sink.writeMessage m s = (out, outcome, after) ∧
      sink.recording.writeMessage m (s, []) = (out, outcome, after, calls) ∧
      out = calls.flatMap Call.taken ∧ out <+: m.toBytes ∧
      (outcome = .ok () ↔ out = m.toBytes) ∧ Ends calls outcome ∧
      ∀ before call later, calls = before ++ call :: later → call.offered ≠ [] ∧
        (before.flatMap Call.taken ++ call.offered = m.header.toBytes ∨
          m.header.toBytes <+: before.flatMap Call.taken ∧
            before.flatMap Call.taken ++ call.offered = m.toBytes) := by
  obtain ⟨first, out, outcome, after, written, recorded, rfl, course⟩ :=
    exists_makes sink m.header.toBytes s
  cases outcome with
  | error fault =>
      refine ⟨_, .error fault, after, first, ?_, ?_, rfl, ?_, ?_, course.ends, ?_⟩
      · simp only [writeMessage, written]
      · simp only [writeMessage, recorded, List.nil_append]
      · exact course.isPrefix.trans (List.prefix_append _ _)
      · exact iff_of_false nofun (course.ne_append m.payload)
      · intro before call later split
        obtain ⟨left, nonempty⟩ := course.offered before call later split
        exact ⟨nonempty, .inl left⟩
  | ok =>
      have sent : first.flatMap Call.taken = m.header.toBytes := course.ok_iff.mp rfl
      obtain ⟨second, more, outcome, final, writtenRest, recordedRest, rfl, courseRest⟩ :=
        exists_makes sink m.payload after
      refine ⟨_, outcome, final, first ++ second, ?_, ?_, List.flatMap_append.symm, ?_, ?_,
        courseRest.ends.prepend course.ends.goOn_of_ok, ?_⟩
      · simp only [writeMessage, written, writtenRest]
      · simp only [writeMessage, recorded, List.nil_append, recordedRest]
      · rw [sent, Message.toBytes, List.prefix_append_right_inj]
        exact courseRest.isPrefix
      · rw [sent, Message.toBytes, List.append_right_inj]
        exact courseRest.ok_iff
      · intro before call later split
        rcases append_cases split with ⟨_, inHeader⟩ | ⟨put, rfl, inPayload⟩
        · obtain ⟨left, nonempty⟩ := course.offered before call _ inHeader
          exact ⟨nonempty, .inl left⟩
        · obtain ⟨left, nonempty⟩ := courseRest.offered put call later inPayload
          rw [List.flatMap_append, sent, List.append_assoc, left, Message.toBytes]
          exact ⟨nonempty, .inr ⟨List.prefix_append _ _, rfl⟩⟩

/-- A connection that takes five bytes a call breaks after nine of them. The last call offers what
is left of the payload, and fails. -/
theorem nine_bytes_left :
    let meter : Meter := ⟨some 5, some ⟨.brokenPipe, ""⟩, by decide⟩
    let m := Message.diagnostic ⟨0x0E00⟩ ⟨0x1000⟩ [0x3E]
    let broken : Except Fault Unit := .error (.io ⟨.brokenPipe, ""⟩)
    m.header.toBytes ++ [0x0E] <+: m.toBytes ∧
      ∃ calls, meter.sink.recording.writeMessage m (some 9, []) =
        (m.header.toBytes ++ [0x0E], broken, some 0, calls) ∧ Ends calls broken := by
  intro meter m broken
  have written : meter.sink.writeMessage m (some 9) =
      (m.header.toBytes ++ [0x0E], broken, some 0) := by cbv
  obtain ⟨out, outcome, after, calls, same, recorded, _, start, _, ends, _⟩ :=
    failed_write_leaves_prefix meter.sink m (some 9)
  cases written.symm.trans same
  exact ⟨start, calls, recorded, ends⟩

end Sink

end DiagnosticGateway.Doip
