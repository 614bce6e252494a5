import DiagnosticGateway.Proofs.Doip.Alignment
import DiagnosticGateway.Proofs.Doip.Failures

/-! # Reading again after a failure

Some failures say that the same read may simply be tried again. That holds between two messages, and
of an interruption anywhere. Within a message the bytes that had been taken by then are gone, so the
next reading starts in the middle of the message and takes what it finds there for a header.
-/

namespace DiagnosticGateway.Doip

/-- Where a stream of messages is after these bytes: some whole messages, and a part of the next. -/
structure Wire.Position (messages : List Wire) (front : List UInt8) (count : Nat)
    (part : List UInt8) : Prop where
  count_le : count ≤ messages.length
  front : front = (messages.take count).flatMap Wire.bytes ++ part
  within : part ≠ [] →
    ∃ w missing, messages[count]? = some w ∧ part ++ missing = w.bytes ∧ missing ≠ []

theorem Wire.Position.next {w : Wire} {messages : List Wire} {front part : List UInt8} {count : Nat}
    (position : Position messages front count part) :
    Position (w :: messages) (w.bytes ++ front) (count + 1) part where
  count_le := Nat.succ_le_succ position.count_le
  front := by
    rw [List.take_succ_cons, List.flatMap_cons, List.append_assoc, ← position.front]
  within := position.within

/-- The part is cut off a message. No bytes are cut off any of them. -/
theorem Wire.Position.exists_cut {messages : List Wire} {front part : List UInt8} {count : Nat}
    (position : Position messages front count part) :
    ∃ (w : Wire) (missing : List UInt8), part ++ missing = w.bytes ∧ missing ≠ [] := by
  by_cases begun : part = []
  · have any : Wire := ⟨0, 0, 0, [], by decide⟩
    exact ⟨any, any.bytes, by rw [begun, List.nil_append], List.cons_ne_nil _ _⟩
  · obtain ⟨w, missing, _, cut⟩ := position.within begun
    exact ⟨w, missing, cut⟩

theorem Wire.exists_position (messages : List Wire) :
    ∀ {front back : List UInt8}, front ++ back = messages.flatMap Wire.bytes →
      ∃ count part, Position messages front count part := by
  induction messages with
  | nil =>
      intro front back whole
      obtain ⟨rfl, _⟩ := List.append_eq_nil_iff.mp whole
      exact ⟨0, [], Nat.le_refl 0, rfl, fun more => absurd rfl more⟩
  | cons w messages ih =>
      intro front back whole
      rw [List.flatMap_cons] at whole
      rcases List.append_eq_append_iff.mp whole with ⟨missing, split, rest⟩ | ⟨more, rfl, rest⟩
      · cases missing with
        | nil =>
            rw [List.append_nil] at split
            obtain ⟨count, part, position⟩ := ih (List.nil_append _)
            have next := position.next (w := w)
            rw [List.append_nil, split] at next
            exact ⟨count + 1, part, next⟩
        | cons b missing =>
            refine ⟨0, front, Nat.zero_le _, rfl, fun _ => ?_⟩
            exact ⟨w, b :: missing, rfl, split.symm, List.cons_ne_nil b missing⟩
      · obtain ⟨count, part, position⟩ := ih rest.symm
        exact ⟨count + 1, part, position.next⟩

namespace Source

/-! ## Calls that are repeated -/

theorem breaks_eq_nil {source : Source} (steady : source.Steady) : source.breaks = [] := by
  induction source with
  | nil => rfl
  | cons arrival source ih =>
      obtain ⟨first, rest⟩ := steady_cons.mp steady
      cases arrival with
      | data bytes => exact ih rest
      | failure error => exact (if_pos first).trans (ih rest)

/-- A failure that says to try again is one that the stream has delivered. -/
theorem breaks_of_recoverable {source left : Source} {limit : Nat} {fault : Fault}
    (read : source.readMessage limit = (.error fault, left))
    (recoverable : fault.isRecoverable = true) :
    ∃ error, source.breaks = error :: left.breaks := by
  have reading := reading_readMessage limit source
  rw [read] at reading
  cases reading with
  | dropped framing _ =>
      rw [Fault.isRecoverable_of_isFraming framing] at recoverable
      cases recoverable
  | ended atEnd _ =>
      rw [Fault.isRecoverable_of_isDisconnect (isDisconnect_of_isEnd atEnd)] at recoverable
      cases recoverable
  | broken met => exact ⟨_, met⟩

/-- Reads a message, and again after each failure that says so. -/
def retry (limit : Nat) (source : Source) : Except Fault Message × Source :=
  match _read : source.readMessage limit with
  | (.error fault, left) =>
    if _recoverable : fault.isRecoverable = true then retry limit left else (.error fault, left)
  | (.ok m, left) => (.ok m, left)
termination_by source.breaks.length
decreasing_by
  obtain ⟨error, met⟩ := breaks_of_recoverable _read _recoverable
  simp [met]

/-- The outcomes of so many calls, one after the other. -/
def outcomes {α : Type} (read : Source → α × Source) : Nat → Source → List α
  | 0, _ => []
  | calls + 1, source => (read source).1 :: outcomes read calls (read source).2

theorem take_outcomes {α : Type} (read : Source → α × Source) (calls more : Nat)
    (source : Source) : (outcomes read (calls + more) source).take calls =
      outcomes read calls source := by
  induction calls generalizing source with
  | zero => exact List.take_zero
  | succ calls ih => rw [Nat.succ_add, outcomes, outcomes, List.take_succ_cons, ih]

variable {source left : Source} {limit : Nat}

theorem retry_of_recoverable {fault : Fault}
    (read : source.readMessage limit = (.error fault, left))
    (recoverable : fault.isRecoverable = true) : source.retry limit = left.retry limit := by
  rw [retry]
  split <;> rename_i again <;> rw [read] at again <;> cases again
  exact dif_pos recoverable

theorem retry_of_final {outcome : Except Fault Message}
    (read : source.readMessage limit = (outcome, left))
    (final : ∀ fault, outcome = .error fault → fault.isRecoverable = false) :
    source.retry limit = (outcome, left) := by
  rw [retry]
  split <;> rename_i again <;> rw [read] at again <;> cases again
  · exact dif_neg (by simp [final _ rfl])
  · rfl

/-- Without failures there is nothing to be tried again. -/
theorem retry_of_steady (steady : source.Steady) :
    source.retry limit = source.readMessage limit := by
  rcases read : source.readMessage limit with ⟨outcome, left⟩
  apply retry_of_final read
  rintro fault rfl
  cases recoverable : fault.isRecoverable with
  | false => rfl
  | true =>
      obtain ⟨error, met⟩ := breaks_of_recoverable read recoverable
      rw [breaks_eq_nil steady] at met
      cases met

/-! ## Streams without failures -/

theorem Alike.outcomes {a b : Source} (alike : Alike a b) (limit calls : Nat) :
    Source.outcomes (Source.readMessage limit) calls a =
      Source.outcomes (Source.readMessage limit) calls b := by
  induction calls generalizing a b with
  | zero => rfl
  | succ calls ih =>
      obtain ⟨outcome, _, _, read, otherRead, left⟩ := alike.readMessage limit
      simp only [Source.outcomes, read, otherRead, ih left]

theorem steady_readMessage (steady : source.Steady) : (source.readMessage limit).2.Steady := by
  obtain ⟨_, _, _, read, _, left⟩ := Alike.readMessage ⟨steady, steady, rfl⟩ limit
  rw [read]
  exact left.left

theorem outcomes_retry_of_steady (steady : source.Steady) (calls : Nat) :
    outcomes (retry limit) calls source = outcomes (readMessage limit) calls source := by
  induction calls generalizing source with
  | zero => rfl
  | succ calls ih =>
      simp only [outcomes, retry_of_steady steady, ih (steady_readMessage steady)]

/-! ## Streams with a failure -/

section Failure

variable {error : IoError} {after : Source}

/-- A failure that comes before enough bytes takes them with it. -/
theorem fill_broken {n : Nat} (steady : source.Steady) (short : source.content.length < n)
    (final : error.kind ≠ .interrupted) :
    fill n (source ++ .failure error :: after) = (.failed error, after) := by
  fun_induction fill n source with
  | case1 source => exact absurd short (Nat.not_lt_zero _)
  | case2 n => exact if_neg final
  | case3 n other rest interrupted ih =>
      rw [List.cons_append, fill, if_pos interrupted]
      exact ih (steady_cons.mp steady).2 short
  | case4 n other rest broken => exact absurd (steady_cons.mp steady).1 broken
  | case5 n rest => exact absurd rfl (steady_cons.mp steady).1
  | case6 n b bytes rest within =>
      simp only [content, List.length_append, List.length_cons] at short
      omega
  | case7 n b bytes rest beyond outcome left filled ih =>
      simp only [content, List.length_append, List.length_cons] at short
      have broken := ih (steady_cons.mp steady).2 (by omega)
      rw [List.cons_append, fill, if_neg beyond, broken]
      rfl

/-- A failure within a message, or before it, ends the reading. What comes behind the failure is
left, and what came before it is gone. -/
theorem readMessage_broken {w : Wire} {missing : List UInt8} (steady : source.Steady)
    (cut : source.content ++ missing = w.bytes) (more : missing ≠ [])
    (final : error.kind ≠ .interrupted) :
    readMessage limit (source ++ .failure error :: after) = (.error (.io error), after) := by
  rcases Wire.cut_cases cut more with early | ⟨arrived, content, short⟩
  · rw [readMessage, readHeader, fill_broken steady early final]
  · obtain ⟨payload, payloadSteady, payloadContent, header⟩ :=
      exists_readHeader_append steady content
    have broken : fill _ (payload ++ .failure error :: after) = _ :=
      fill_broken payloadSteady (payloadContent ▸ short) final
    simp only [readMessage, header, Wire.toNat_length, skip, readPayload, broken]
    split <;> rfl

end Failure

theorem Wire.isRecoverable_outcome {w : Wire} {fault : Fault}
    (refused : w.outcome limit = .error fault) : fault.isRecoverable = false := by
  unfold Wire.outcome at refused
  split at refused
  · cases refused
    rfl
  · split at refused <;> cases refused
    rfl

theorem retry_of_outcome {w : Wire} (read : source.readMessage limit = (w.outcome limit, left)) :
    source.retry limit = (w.outcome limit, left) :=
  retry_of_final read fun _ => Wire.isRecoverable_outcome

theorem Yields.outcomes_append {α : Type} {read : Source → α × Source} {results : List α}
    (yields : Yields read source results left) (calls : Nat) :
    outcomes read (results.length + calls) source = results ++ outcomes read calls left := by
  induction yields with
  | nil => rw [List.length_nil, Nat.zero_add, List.nil_append]
  | cons first _ ih => rw [List.length_cons, Nat.succ_add, outcomes, first, ih, List.cons_append]

theorem exists_outcomes_append {read : Source → Except Fault Message × Source}
    (reads : ∀ {source left : Source} {w : Wire},
      source.readMessage limit = (w.outcome limit, left) → read source = (w.outcome limit, left))
    {part : List UInt8} (messages : List Wire) {source : Source} (steady : source.Steady)
    (content : source.content = messages.flatMap Wire.bytes ++ part) :
    ∃ left : Source, left.Steady ∧ left.content = part ∧ ∀ (rest : Source) (calls : Nat),
      outcomes read (messages.length + calls) (source ++ rest) =
        messages.map (·.outcome limit) ++ outcomes read calls (left ++ rest) := by
  obtain ⟨left, leftSteady, leftContent, yields⟩ :=
    exists_yields_append reads messages steady content
  refine ⟨left, leftSteady, leftContent, fun rest calls => ?_⟩
  have all := (yields rest).outcomes_append calls
  rwa [List.length_map] at all

section Position

variable {before after : Source} {error : IoError} {messages : List Wire} {count : Nat}
variable {part : List UInt8}

/-- An interruption changes nothing. -/
theorem outcomes_of_interrupted (beforeSteady : before.Steady) (afterSteady : after.Steady)
    (interrupted : error.kind = .interrupted) (calls : Nat) :
    outcomes (retry limit) calls (before ++ .failure error :: after) =
      outcomes (readMessage limit) calls (before ++ after) := by
  have steady : Steady (before ++ .failure error :: after) :=
    steady_append.mpr ⟨beforeSteady, steady_cons.mpr ⟨interrupted, afterSteady⟩⟩
  have same : content (before ++ .failure error :: after) = content (before ++ after) := by
    simp only [content_append, content]
  have alike : Alike (before ++ .failure error :: after) (before ++ after) :=
    ⟨steady, steady_append.mpr ⟨beforeSteady, afterSteady⟩, same⟩
  rw [outcomes_retry_of_steady steady, alike.outcomes]

/-- Any other failure loses the part of a message that came before it. -/
theorem outcomes_of_broken (beforeSteady : before.Steady) (afterSteady : after.Steady)
    (recoverable : (Fault.io error).isRecoverable = true) (final : error.kind ≠ .interrupted)
    (position : Wire.Position messages before.content count part) (calls : Nat) :
    outcomes (retry limit) (count + calls) (before ++ .failure error :: after) =
      (messages.take count).map (·.outcome limit) ++ outcomes (readMessage limit) calls after := by
  obtain ⟨left, leftSteady, leftContent, whole⟩ :=
    exists_outcomes_append retry_of_outcome (messages.take count) beforeSteady position.front
  rw [List.length_take_of_le position.count_le] at whole
  rw [whole, ← outcomes_retry_of_steady afterSteady]
  obtain ⟨w, missing, cut, more⟩ := position.exists_cut
  rw [← leftContent] at cut
  have broken : readMessage limit (left ++ .failure error :: after) = (.error (.io error), after) :=
    readMessage_broken leftSteady cut more final
  cases calls with
  | zero => rfl
  | succ calls => simp only [outcomes, retry_of_recoverable broken recoverable]

/-- Between two messages nothing is lost. -/
theorem outcomes_of_boundary (beforeSteady : before.Steady) (afterSteady : after.Steady)
    (recoverable : (Fault.io error).isRecoverable = true) (final : error.kind ≠ .interrupted)
    (position : Wire.Position messages before.content count []) (calls : Nat) :
    outcomes (retry limit) calls (before ++ .failure error :: after) =
      outcomes (readMessage limit) calls (before ++ after) := by
  obtain ⟨left, leftSteady, leftContent, whole⟩ :=
    exists_outcomes_append id (messages.take count) beforeSteady position.front
  rw [List.length_take_of_le position.count_le] at whole
  have alike : Alike (left ++ after) after :=
    ⟨steady_append.mpr ⟨leftSteady, afterSteady⟩, afterSteady,
      by rw [content_append, leftContent, List.nil_append]⟩
  have broken : outcomes (retry limit) _ _ = _ :=
    outcomes_of_broken beforeSteady afterSteady recoverable final position calls
  have plain := whole after calls
  rw [alike.outcomes] at plain
  -- a run of so many calls is the start of a longer one
  rw [← take_outcomes (retry limit) calls count, ← take_outcomes (readMessage limit) calls count,
    Nat.add_comm, broken, plain]

end Position

/-- A failure that says to try again comes after some whole messages and a part of the next one. If
it is an interruption, or there is no such part, trying again gives what a stream without the
failure gives. Otherwise the part is lost, and the next message is looked for in what comes after. -/
theorem retried_calls_resume {before after : Source} {error : IoError} {messages : List Wire}
    (limit : Nat) (beforeSteady : before.Steady) (afterSteady : after.Steady)
    (content : content (before ++ after) = messages.flatMap Wire.bytes)
    (recoverable : (Fault.io error).isRecoverable = true) :
    ∃ count part, Wire.Position messages before.content count part ∧
      (error.kind = .interrupted ∨ part = [] → ∀ calls,
        outcomes (retry limit) calls (before ++ .failure error :: after) =
          outcomes (readMessage limit) calls (before ++ after)) ∧
      (error.kind ≠ .interrupted → ∀ calls,
        outcomes (retry limit) (count + calls) (before ++ .failure error :: after) =
          (messages.take count).map (·.outcome limit) ++
            outcomes (readMessage limit) calls after) := by
  rw [content_append] at content
  obtain ⟨count, part, position⟩ := Wire.exists_position messages content
  refine ⟨count, part, position, ?_, ?_⟩
  · intro resumes calls
    by_cases interrupted : error.kind = .interrupted
    · exact outcomes_of_interrupted beforeSteady afterSteady interrupted calls
    · obtain rfl := resumes.resolve_left interrupted
      exact outcomes_of_boundary beforeSteady afterSteady recoverable interrupted position calls
  · intro final calls
    exact outcomes_of_broken beforeSteady afterSteady recoverable final position calls

/-- A timeout between two messages costs nothing. -/
theorem timeout_between_messages :
    let w : Wire := ⟨0x02, 0xFD, 0x8001, [0x0E], by decide⟩
    let timeout : IoError := ⟨.timedOut, ""⟩
    outcomes (retry 4) 3 [.data w.bytes, .failure timeout, .data w.bytes] =
      [.ok w.message, .ok w.message, .error .connectionClosed] := by
  intro w timeout
  have steady : Source.Steady [.data w.bytes] := steady_ofBytes w.bytes
  have content : content ([.data w.bytes] ++ [.data w.bytes]) = [w, w].flatMap Wire.bytes := rfl
  have recoverable : (Fault.io timeout).isRecoverable = true := rfl
  obtain ⟨count, part, position, resumes, _⟩ :=
    retried_calls_resume 4 steady steady content recoverable
  have boundary : part = [] := by
    refine Decidable.byContradiction fun begun => ?_
    obtain ⟨next, missing, here, cut, more⟩ := position.within begun
    match count, here, position.front with
    | 0, rfl, front =>
        have whole : part = w.bytes := front.symm
        rw [whole] at cut
        exact more (List.append_right_eq_self.mp cut)
    | 1, rfl, front => exact begun (List.append_right_eq_self.mp front.symm)
  have first : readMessage 4 [.data w.bytes, .data w.bytes] = (.ok w.message, [.data w.bytes]) := by
    cbv
  have second : readMessage 4 [.data w.bytes] = (.ok w.message, []) := by cbv
  have last : readMessage 4 [] = (.error .connectionClosed, []) := rfl
  calc outcomes (retry 4) 3 [.data w.bytes, .failure timeout, .data w.bytes]
      _ = outcomes (readMessage 4) 3 [.data w.bytes, .data w.bytes] := resumes (.inr boundary) 3
      _ = [.ok w.message, .ok w.message, .error .connectionClosed] := by
        simp only [outcomes, first, second, last]

/-- A timeout between the header and the payload of a message. The payload is taken for a message,
which nobody has sent, and that in place of the message itself. -/
theorem timeout_within_message_misleads :
    let w : Wire := ⟨0x02, 0xFD, 0x8001, [0x02, 0xFD, 0x00, 0x05, 0, 0, 0, 0], by decide⟩
    let forged : Message := ⟨⟨0x02, 0xFD, .routingActivationRequest, 0⟩, []⟩
    let timeout : IoError := ⟨.timedOut, ""⟩
    (Fault.io timeout).isRecoverable = true ∧
      content [.data w.headerBytes, .data w.payload] = w.bytes ∧
      outcomes (readMessage 8) 1 [.data w.headerBytes, .data w.payload] = [.ok w.message] ∧
      outcomes (retry 8) 1 [.data w.headerBytes, .failure timeout, .data w.payload] =
        [.ok forged] := by
  intro w forged timeout
  have whole : readMessage 8 [.data w.headerBytes, .data w.payload] = (.ok w.message, []) := by cbv
  have misled : retry 8 [.data w.headerBytes, .failure timeout, .data w.payload] =
      (.ok forged, []) := by
    cbv
  refine ⟨rfl, rfl, ?_, ?_⟩
  · simp only [outcomes, whole]
  · simp only [outcomes, misled]

end Source

end DiagnosticGateway.Doip
