import Mathlib.Tactic.Common

/-- Finite runs of a labelled step relation, labels oldest first. -/
inductive Run {σ α : Type} (step : σ → α → σ → Prop) : σ → List α → σ → Prop where
  | nil (s : σ) : Run step s [] s
  | cons {s t u : σ} {label : α} {labels : List α} :
      step s label t → Run step t labels u → Run step s (label :: labels) u

namespace Run

variable {σ α : Type} {step : σ → α → σ → Prop} {s t u : σ} {label : α} {labels : List α}

theorem invariant {holds : σ → Prop} (run : Run step s labels t)
    (preserved : ∀ {s label t}, holds s → step s label t → holds t) (start : holds s) : holds t := by
  induction run with
  | nil => exact start
  | cons first _ ih => exact ih (preserved start first)

theorem append {more : List α} (run : Run step s labels t) (rest : Run step t more u) :
    Run step s (labels ++ more) u := by
  induction run with
  | nil => exact rest
  | cons first _ ih => exact .cons first (ih rest)

theorem mono {wider : σ → α → σ → Prop} (run : Run step s labels t)
    (weaker : ∀ {s label t}, step s label t → wider s label t) : Run wider s labels t := by
  induction run with
  | nil => exact .nil _
  | cons first _ ih => exact .cons (weaker first) ih

end Run

/-- The step relation cut down to the steps whose starting state and label meet a condition. -/
def Guarded {σ α : Type} (condition : σ → α → Prop) (step : σ → α → σ → Prop) : σ → α → σ → Prop :=
  fun s label t => condition s label ∧ step s label t

def Steps {σ α : Type} (next : σ → α → Option σ) : σ → α → σ → Prop :=
  fun s label t => next s label = some t

def runFrom {σ α : Type} (next : σ → α → Option σ) : σ → List α → Option σ
  | s, [] => some s
  | s, label :: labels =>
    match next s label with
    | some t => runFrom next t labels
    | none => none

theorem run_of_runFrom {σ α : Type} {next : σ → α → Option σ} {s t : σ} {labels : List α}
    (ends : runFrom next s labels = some t) : Run (Steps next) s labels t := by
  induction labels generalizing s with
  | nil =>
    cases ends
    exact .nil _
  | cons label labels ih =>
    simp only [runFrom] at ends
    split at ends
    · rename_i first
      exact .cons first (ih ends)
    · cases ends

theorem run_guarded_of_runFrom {σ α : Type} {next : σ → α → Option σ} {condition : σ → α → Prop}
    [∀ s label, Decidable (condition s label)] {s t : σ} {labels : List α}
    (ends : runFrom (fun s label => if condition s label then next s label else none) s labels = some t) :
    Run (Guarded condition (Steps next)) s labels t := by
  refine (run_of_runFrom ends).mono ?_
  intro s label t step
  simp only [Steps] at step
  split at step
  · rename_i met
    exact ⟨met, step⟩
  · cases step
