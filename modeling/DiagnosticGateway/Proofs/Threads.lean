/-! # Threads that make calls

A thread takes steps of at most one call each. A step only knows of the rest of the world what its
call was answered, so everything that other threads do can happen between any two steps. A world
gives each call the answers that it may have there.
-/

namespace DiagnosticGateway.Threads

variable {τ κ σ : Type}

/-- A number of steps of a thread, with the calls that it makes. -/
inductive Run (step : τ → Option κ → τ → Prop) : τ → List κ → τ → Prop where
  | refl {t} : Run step t [] t
  | step {t call t' calls u} :
    step t call t' → Run step t' calls u → Run step t (call.toList ++ calls) u

namespace Run

variable {step : τ → Option κ → τ → Prop} {t t' u : τ} {calls more : List κ}

theorem trans (first : Run step t calls t') (second : Run step t' more u) :
    Run step t (calls ++ more) u := by
  induction first with
  | refl => exact second
  | step next _ ih =>
      rw [List.append_assoc]
      exact .step next (ih second)

/-- Every call of a run is made in a step between two parts of the run. -/
theorem exists_step {call after} (run : Run step t calls u) :
    ∀ {before}, calls = before ++ call :: after →
      ∃ v w, Run step t before v ∧ step v (some call) w ∧ Run step w after u := by
  induction run with
  | refl =>
      intro before split
      cases before <;> cases split
  | @step t made t' calls u next rest ih =>
      intro before split
      cases made with
      | none =>
          obtain ⟨v, w, start, there, goesOn⟩ := ih split
          exact ⟨v, w, .step next start, there, goesOn⟩
      | some made =>
          cases before with
          | nil =>
              obtain ⟨rfl, rfl⟩ := List.cons.inj split
              exact ⟨t, t', .refl, next, rest⟩
          | cons first before =>
              obtain ⟨rfl, later⟩ := List.cons.inj split
              obtain ⟨v, w, start, there, goesOn⟩ := ih later
              exact ⟨v, w, .step next start, there, goesOn⟩

end Run

/-- The states that a world goes through with calls that are made one after the other. -/
inductive Answers (does : σ → κ → σ → Prop) : σ → List κ → σ → Prop where
  | nil {s} : Answers does s [] s
  | cons {s call s' calls s''} :
    does s call s' → Answers does s' calls s'' → Answers does s (call :: calls) s''

theorem Answers.exists_of_mem {does : σ → κ → σ → Prop} {s s' : σ} {calls : List κ}
    (answers : Answers does s calls s') : ∀ call ∈ calls, ∃ t t', does t call t' := by
  induction answers with
  | nil => exact List.forall_mem_nil _
  | cons done _ ih => exact List.forall_mem_cons.mpr ⟨⟨_, _, done⟩, ih⟩

/-- A thread gets from one point to another while its calls change the state of a world. -/
inductive Reaches (step : τ → Option κ → τ → Prop) (does : σ → κ → σ → Prop) :
    τ → σ → τ → σ → Prop where
  | refl {t s} : Reaches step does t s t s
  | silent {t t' u s s'} :
    step t none t' → Reaches step does t' s u s' → Reaches step does t s u s'
  | call {t t' u call s s' s''} :
    step t (some call) t' → does s call s' → Reaches step does t' s' u s'' →
    Reaches step does t s u s''

namespace Reaches

variable {step : τ → Option κ → τ → Prop} {does : σ → κ → σ → Prop} {t t' u : τ} {s s' s'' : σ}

theorem trans (first : Reaches step does t s t' s') (second : Reaches step does t' s' u s'') :
    Reaches step does t s u s'' := by
  induction first with
  | refl => exact second
  | silent next _ ih => exact .silent next (ih second)
  | call next done _ ih => exact .call next done (ih second)

/-- What is reached is reached by a run whose calls the world answers. -/
theorem exists_run (reaches : Reaches step does t s u s') :
    ∃ calls, Run step t calls u ∧ Answers does s calls s' := by
  induction reaches with
  | refl => exact ⟨[], .refl, .nil⟩
  | silent next _ ih =>
      obtain ⟨calls, run, answers⟩ := ih
      exact ⟨calls, .step next run, answers⟩
  | call next done _ ih =>
      obtain ⟨calls, run, answers⟩ := ih
      exact ⟨_, .step next run, .cons done answers⟩

theorem of_silent (next : step t none u) : Reaches step does t s u s := .silent next .refl

theorem of_call {call} (next : step t (some call) u) (done : does s call s') :
    Reaches step does t s u s' :=
  .call next done .refl

end Reaches

end DiagnosticGateway.Threads
