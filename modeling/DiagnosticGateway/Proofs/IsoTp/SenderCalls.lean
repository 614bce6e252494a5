import DiagnosticGateway.IsoTp.Sender

/-! # The calls of a sender

A sender acts on the world through the calls of its link. `Sender.advance` is one phase of a sender
with at most one call, and `Sender.run` is nothing but one such step after another. A link that
takes notes of its calls changes nothing that the sender can see, so `Sender.calls` tells what
happened during any run, whatever the link is.
-/

namespace DiagnosticGateway.IsoTp

open Bus (Frame)

/-- A call of a link, with what came of it. -/
inductive Call where
  | write (frame : Frame) (outcome : Except Fault Unit)
  | wait (outcome : Except Fault FlowControl)
  | clear

def Call.written? : Call → Option Frame
  | .write frame (.ok ()) => some frame
  | _ => none

variable {σ : Type}

/-- The same link, which also takes notes of its calls. -/
def Link.noting {α : Type} (link : Link σ) (note : Call → List α) : Link (List α × σ) where
  write frame s :=
    ((link.write frame s.2).1, s.1 ++ note (.write frame (link.write frame s.2).1),
      (link.write frame s.2).2)
  wait timeout s :=
    ((link.wait timeout s.2).1, s.1 ++ note (.wait (link.wait timeout s.2).1),
      (link.wait timeout s.2).2)
  clear s := (s.1 ++ note .clear, link.clear s.2)
  supply s := link.supply s.2
  supply_lt timeout s fc taken := link.supply_lt timeout s.2 fc taken

def Link.recording (link : Link σ) : Link (List Call × σ) := link.noting fun call => [call]

/-- What a phase still has to send. -/
def Phase.progress? : Phase → Option Progress
  | .awaiting p => some p
  | .sending p _ => some p
  | .finished _ => none

namespace Sender

/-! ## One step -/

def nextFrame (sender : Sender) (p : Progress) : Except Fault Frame :=
  Pci.consecutiveFrame sender.id p.sequence (p.rest.take consecutiveMax) sender.padding

/-- The phase after the next call of a sender, and what the call leaves. -/
def advance (sender : Sender) (link : Link σ) : Phase → σ → Phase × σ
  | .finished outcome, s => (.finished outcome, s)
  | .awaiting p, s =>
    match link.wait sender.timeout s with
    | (.error fault, s) => (.finished (.error fault), s)
    | (.ok fc, s) => (.cleared p fc, s)
  | .sending p room, s =>
    if p.rest = [] then (.finished (.ok ()), s)
    else
      match put link (sender.nextFrame p) s with
      | (.error fault, s) => (.finished (.error fault), s)
      | (.ok (), s) => (.wrote p room, s)

/-- The call in which a frame is written, if it can be built. -/
def putCalls (link : Link σ) (frame : Except Fault Frame) (s : σ) : List Call :=
  match frame with
  | .ok frame => [.write frame (link.write frame s).1]
  | .error _ => []

/-- The call of one step. -/
def stepCalls (sender : Sender) (link : Link σ) : Phase → σ → List Call
  | .finished _, _ => []
  | .awaiting _, s => [.wait (link.wait sender.timeout s).1]
  | .sending p _, s => if p.rest = [] then [] else putCalls link (sender.nextFrame p) s

variable {sender : Sender} {link : Link σ} {phase : Phase} {s : σ}

@[simp]
theorem run_finished {outcome} : sender.run link (.finished outcome) s = (outcome, s) := by
  rw [run]

/-- A run goes on after each step as if it had started there. -/
theorem run_advance :
    sender.run link phase s =
      sender.run link (sender.advance link phase s).1 (sender.advance link phase s).2 := by
  cases phase with
  | finished outcome => rfl
  | awaiting p =>
      rw [run, advance]
      split <;> rename_i waited <;> simp only [waited, run_finished]
  | sending p room =>
      rw [run, advance]
      by_cases empty : p.rest = []
      · simp only [empty, dif_pos, if_pos, run_finished]
      · rw [dif_neg empty, if_neg empty, nextFrame]
        cases put link (Pci.consecutiveFrame sender.id p.sequence (p.rest.take consecutiveMax)
            sender.padding) s with
        | mk outcome s' => cases outcome <;> simp only [run_finished]

/-- To prove something of every phase, prove it of a phase from the one that its next step leads
to. Every run ends, because waiting uses up the supply of flow control and writing the message. -/
theorem advance_induction (sender : Sender) (link : Link σ) {motive : Phase → σ → Prop}
    (finished : ∀ outcome s, motive (.finished outcome) s)
    (step : ∀ phase s, phase.progress?.isSome →
      motive (sender.advance link phase s).1 (sender.advance link phase s).2 → motive phase s)
    (phase : Phase) (s : σ) : motive phase s := by
  induction phase, s using Sender.run.induct sender link with
  | case1 s outcome => exact finished outcome s
  | case2 s p fault s' waited =>
      refine step _ s rfl ?_
      simp only [advance, waited]
      exact finished _ _
  | case3 s p fc s' waited supply ih =>
      refine step _ s rfl ?_
      simp only [advance, waited]
      exact ih
  | case4 s p room empty =>
      refine step _ s rfl ?_
      simp only [advance, empty, if_pos]
      exact finished _ _
  | case5 s p room more fault s' wrote =>
      refine step _ s rfl ?_
      simp only [advance, nextFrame, more, if_neg, wrote, not_false_eq_true]
      exact finished _ _
  | case6 s p room more s' wrote ih =>
      refine step _ s rfl ?_
      simp only [advance, nextFrame, more, if_neg, wrote, not_false_eq_true]
      exact ih

def steps (sender : Sender) (link : Link σ) : Nat → Phase → σ → Phase × σ
  | 0, phase, s => (phase, s)
  | n + 1, phase, s =>
    sender.steps link n (sender.advance link phase s).1 (sender.advance link phase s).2

theorem run_of_steps (n : Nat) {outcome s'} :
    ∀ {phase s}, sender.steps link n phase s = (.finished outcome, s') →
      sender.run link phase s = (outcome, s') := by
  induction n with
  | zero =>
      intro phase s ended
      cases ended
      exact run_finished
  | succ n ih =>
      intro phase s ended
      rw [run_advance]
      exact ih ended

theorem exists_steps (sender : Sender) (link : Link σ) (phase : Phase) (s : σ) :
    ∃ n, sender.steps link n phase s =
      (.finished (sender.run link phase s).1, (sender.run link phase s).2) := by
  induction phase, s using advance_induction sender link with
  | finished outcome s => exact ⟨0, by rw [run_finished, steps]⟩
  | step phase s _ ih =>
      obtain ⟨n, ended⟩ := ih
      exact ⟨n + 1, by rw [run_advance, steps, ended]⟩

/-! ## Taking notes -/

section Noting

variable {α : Type} {note : Call → List α}

theorem put_noting {frame} (log : List α) :
    put (link.noting note) frame (log, s) =
      ((put link frame s).1, log ++ (putCalls link frame s).flatMap note,
        (put link frame s).2) := by
  cases frame with
  | error fault => simp only [put, putCalls, List.flatMap_nil, List.append_nil]
  | ok frame => simp only [put, putCalls, List.flatMap_singleton, Link.noting]

theorem advance_noting (log : List α) :
    sender.advance (link.noting note) phase (log, s) =
      ((sender.advance link phase s).1, log ++ (sender.stepCalls link phase s).flatMap note,
        (sender.advance link phase s).2) := by
  cases phase with
  | finished outcome => simp only [advance, stepCalls, List.flatMap_nil, List.append_nil]
  | awaiting p =>
      simp only [advance, stepCalls, Link.noting, List.flatMap_singleton]
      cases link.wait sender.timeout s with
      | mk outcome s' => cases outcome <;> rfl
  | sending p room =>
      simp only [advance, stepCalls, put_noting]
      split
      · simp only [List.flatMap_nil, List.append_nil]
      · cases put link (sender.nextFrame p) s with
        | mk outcome s' => cases outcome <;> rfl

end Noting

/-- The calls of a run that starts in a phase. -/
def runCalls (sender : Sender) (link : Link σ) (phase : Phase) (s : σ) : List Call :=
  (sender.run link.recording phase ([], s)).2.1

theorem run_noting {α : Type} {note : Call → List α} (log : List α) :
    sender.run (link.noting note) phase (log, s) =
      ((sender.run link phase s).1, log ++ (sender.runCalls link phase s).flatMap note,
        (sender.run link phase s).2) := by
  have some_calls : ∃ calls : List Call, ∀ {α : Type} (note : Call → List α) (log : List α),
      sender.run (link.noting note) phase (log, s) =
        ((sender.run link phase s).1, log ++ calls.flatMap note, (sender.run link phase s).2) := by
    induction phase, s using advance_induction sender link with
    | finished outcome s =>
        exact ⟨[], fun note log => by simp only [run_finished, List.flatMap_nil, List.append_nil]⟩
    | step phase s _ ih =>
        obtain ⟨calls, noted⟩ := ih
        refine ⟨sender.stepCalls link phase s ++ calls, fun note log => ?_⟩
        rw [run_advance, advance_noting, noted, ← run_advance, List.flatMap_append,
          List.append_assoc]
  obtain ⟨calls, noted⟩ := some_calls
  have these : sender.runCalls link phase s = calls := by
    rw [runCalls, Link.recording, noted, List.nil_append, List.flatMap_singleton']
  rw [noted, these]

@[simp]
theorem runCalls_finished {outcome} : sender.runCalls link (.finished outcome) s = [] := by
  rw [runCalls, run_finished]

theorem runCalls_advance :
    sender.runCalls link phase s = sender.stepCalls link phase s ++
      sender.runCalls link (sender.advance link phase s).1 (sender.advance link phase s).2 := by
  have recorded : sender.run link.recording phase ([], s) =
      ((sender.run link phase s).1, sender.stepCalls link phase s ++
        sender.runCalls link (sender.advance link phase s).1 (sender.advance link phase s).2,
        (sender.run link phase s).2) := by
    rw [Link.recording, run_advance, advance_noting, run_noting, ← run_advance,
      List.flatMap_singleton', List.flatMap_singleton', List.nil_append]
  exact congrArg (fun r => r.2.1) recorded

def calls (sender : Sender) (link : Link σ) (data : List UInt8) (s : σ) : List Call :=
  (sender.send link.recording data ([], s)).2.1

variable {data : List UInt8}

theorem send_single (nonempty : data ≠ []) (small : data.length ≤ singleMax) :
    sender.send link data s = put link (Pci.singleFrame sender.id data sender.padding) s := by
  have positive := List.length_pos_iff.mpr nonempty
  have fits : ¬ maxMessage < data.length := by
    simp only [singleMax, maxMessage] at *
    omega
  rw [send, if_neg (by omega), if_neg fits, if_pos small]

theorem send_segmented (large : singleMax < data.length) (small : data.length ≤ maxMessage) :
    sender.send link data s =
      match put link (Pci.firstFrame sender.id data.length data) (link.clear s) with
      | (.error fault, s) => (.error fault, s)
      | (.ok (), s) => sender.run link (.opened data) s := by
  unfold send
  exact (if_neg (by omega)).trans ((if_neg (by omega)).trans (if_neg (by omega)))

theorem calls_single (nonempty : data ≠ []) (small : data.length ≤ singleMax) :
    sender.calls link data s =
      putCalls link (Pci.singleFrame sender.id data sender.padding) s := by
  rw [calls, Link.recording, send_single nonempty small, put_noting, List.nil_append,
    List.flatMap_singleton']

theorem calls_segmented (large : singleMax < data.length) (small : data.length ≤ maxMessage) :
    sender.calls link data s =
      .clear :: (putCalls link (Pci.firstFrame sender.id data.length data) (link.clear s) ++
        match put link (Pci.firstFrame sender.id data.length data) (link.clear s) with
        | (.error _, _) => []
        | (.ok (), s) => sender.runCalls link (.opened data) s) := by
  have cleared : link.recording.clear ([], s) = ([.clear], link.clear s) := rfl
  rw [calls, send_segmented large small, cleared, Link.recording, put_noting,
    List.flatMap_singleton']
  cases put link (Pci.firstFrame sender.id data.length data) (link.clear s) with
  | mk outcome s' =>
      cases outcome with
      | error fault => rw [List.append_nil]; rfl
      | ok =>
          simp only [run_noting, List.flatMap_singleton', List.nil_append, List.cons_append]

/-- Taking notes shows in the notes only. -/
theorem send_noting {α : Type} {note : Call → List α} (data : List UInt8) (log : List α) :
    sender.send (link.noting note) data (log, s) =
      ((sender.send link data s).1, log ++ (sender.calls link data s).flatMap note,
        (sender.send link data s).2) := by
  by_cases empty : data.length = 0
  · simp only [calls, send, empty, if_pos, List.flatMap_nil, List.append_nil]
  by_cases large : maxMessage < data.length
  · simp only [calls, send, empty, large, if_pos, if_neg, not_false_eq_true, List.flatMap_nil,
      List.append_nil]
  by_cases single : data.length ≤ singleMax
  · have nonempty : data ≠ [] := fun none => empty (List.length_eq_zero_iff.mpr none)
    rw [send_single nonempty single, send_single nonempty single, calls_single nonempty single,
      put_noting]
  · have long : singleMax < data.length := by omega
    have short : data.length ≤ maxMessage := by omega
    have cleared : (link.noting note).clear (log, s) = (log ++ note .clear, link.clear s) := rfl
    rw [send_segmented long short, send_segmented long short, calls_segmented long short, cleared,
      put_noting]
    cases put link (Pci.firstFrame sender.id data.length data) (link.clear s) with
    | mk outcome s' =>
        cases outcome with
        | error fault =>
            simp only [List.flatMap_cons, List.append_assoc, List.append_nil]
        | ok =>
            simp only [run_noting, List.flatMap_cons, List.flatMap_append, List.append_assoc]

def written (sender : Sender) (link : Link σ) (data : List UInt8) (s : σ) : List Frame :=
  (sender.calls link data s).filterMap Call.written?

end Sender

end DiagnosticGateway.IsoTp
