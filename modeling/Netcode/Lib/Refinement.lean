/-
**Refinement of operations that return a result.**

A machine takes operations one by one and returns a result for each. `run` collects the results of a
whole sequence. If every operation keeps a relation between two machines and returns the same on both
(`Step`), then no sequence of operations tells them apart (`run_eq`).

Where operations may fail, the specification is a relation that says which operations it answers for
(`Runs`). If the machine follows it one operation at a time (`Forward`), then it follows every run of
it, without a failure (`Forward.runs`).
-/

import Mathlib.Data.List.Basic

namespace Refinement

variable {σ τ ω ρ : Type}

/-- The state after a sequence of operations, and what each of them returned. -/
def run (step : σ → ω → σ × ρ) : σ → List ω → σ × List ρ
  | s, [] => (s, [])
  | s, op :: ops =>
    let after := run step (step s op).1 ops
    (after.1, (step s op).2 :: after.2)

/-- One operation on related states returns the same and leaves related states. -/
def Step (R : σ → τ → Prop) (step : σ → ω → σ × ρ) (step' : τ → ω → τ × ρ) : Prop :=
  ∀ s t op, R s t → (step s op).2 = (step' t op).2 ∧ R (step s op).1 (step' t op).1

/-- **Sequences of operations return the same**, and leave related states. -/
theorem Step.run_eq {R : σ → τ → Prop} {step : σ → ω → σ × ρ} {step' : τ → ω → τ × ρ}
    (each : Step R step step') (ops : List ω) :
    ∀ s t, R s t → (run step s ops).2 = (run step' t ops).2 ∧
      R (run step s ops).1 (run step' t ops).1 := by
  induction ops with
  | nil =>
    intro s t related
    exact ⟨rfl, related⟩
  | cons op ops ih =>
    intro s t related
    obtain ⟨result, next⟩ := each s t op related
    obtain ⟨results, last⟩ := ih _ _ next
    refine ⟨?_, last⟩
    show (step s op).2 :: _ = (step' t op).2 :: _
    rw [result, results]

/-! ### Operations that may fail -/

/-- The state after a sequence of operations that may fail, and what each of them returned. -/
def runM (step : σ → ω → Option (σ × ρ)) : σ → List ω → Option (σ × List ρ)
  | s, [] => some (s, [])
  | s, op :: ops =>
    (step s op).bind fun after =>
      (runM step after.1 ops).map fun last => (last.1, after.2 :: last.2)

/-- A run of a specification. -/
inductive Runs (spec : τ → ω → τ → ρ → Prop) : τ → List ω → τ → List ρ → Prop
  | nil (t : τ) : Runs spec t [] t []
  | cons {t t' t'' : τ} {op : ω} {ops : List ω} {result : ρ} {results : List ρ}
      (first : spec t op t' result) (rest : Runs spec t' ops t'' results) :
      Runs spec t (op :: ops) t'' (result :: results)

/-- One operation that the specification answers for succeeds on related states, returns the same
and leaves related states. -/
def Forward (R : σ → τ → Prop) (step : σ → ω → Option (σ × ρ)) (spec : τ → ω → τ → ρ → Prop) :
    Prop :=
  ∀ s t op t' result, R s t → spec t op t' result →
    ∃ s', step s op = some (s', result) ∧ R s' t'

/-- **Every run of the specification is followed.** -/
theorem Forward.runs {R : σ → τ → Prop} {step : σ → ω → Option (σ × ρ)}
    {spec : τ → ω → τ → ρ → Prop} (each : Forward R step spec) {t t' : τ} {ops : List ω}
    {results : List ρ} (runs : Runs spec t ops t' results) :
    ∀ s, R s t → ∃ s', runM step s ops = some (s', results) ∧ R s' t' := by
  induction runs with
  | nil t => exact fun s related => ⟨s, rfl, related⟩
  | cons first _ ih =>
    intro s related
    obtain ⟨middle, steps, related'⟩ := each s _ _ _ _ related first
    obtain ⟨s', rest, last⟩ := ih middle related'
    refine ⟨s', ?_, last⟩
    simp only [runM, steps, Option.bind_some, rest, Option.map_some]

end Refinement
