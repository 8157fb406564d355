import Mathlib.Tactic.Common

/-! Loops that turn until one turn ends them, and how many turns they take. -/

namespace Loops

inductive Turn (σ β : Type) where
  | done (s : σ)
  | again (result : β) (s : σ)

variable {σ β : Type}

/-- The results of the turns before the one that ends the loop and the state it ends in, when at most `turns` turns
    are needed and each of them comes back. -/
def repeatFor (turn : σ → Option (Turn σ β)) : Nat → σ → Option (List β × σ)
  | 0, _ => none
  | turns + 1, s =>
    match turn s with
    | none => none
    | some (.done t) => some ([], t)
    | some (.again result t) => (repeatFor turn turns t).map fun (results, last) => (result :: results, last)

/-- From a state where `holds` does, a turn comes back, and unless it ends the loop it keeps `holds` and takes `amount`
    off the size. -/
structure Shrinks (turn : σ → Option (Turn σ β)) (holds : σ → Prop) (size : σ → Nat) (amount : Nat) : Prop where
  comesBack : ∀ {s}, holds s → turn s ≠ none
  smaller : ∀ {s result t}, holds s → turn s = some (.again result t) → holds t ∧ size t + amount ≤ size s

namespace Shrinks

variable {turn : σ → Option (Turn σ β)} {holds : σ → Prop} {size : σ → Nat} {amount turns : Nat} {s : σ}

theorem ends_of_lt (shrinks : Shrinks turn holds size amount) (start : holds s) (enough : size s < amount * turns) :
    ∃ results t, repeatFor turn turns s = some (results, t) ∧ amount * results.length ≤ size s := by
  induction turns generalizing s with
  | zero => exact absurd enough (Nat.not_lt_zero _)
  | succ turns ih =>
    rw [repeatFor]
    cases next : turn s with
    | none => exact absurd next (shrinks.comesBack start)
    | some given =>
      cases given with
      | done t => exact ⟨[], t, rfl, Nat.zero_le _⟩
      | again result t =>
        obtain ⟨kept, smaller⟩ := shrinks.smaller start next
        rw [Nat.mul_succ] at enough
        obtain ⟨results, last, ended, bound⟩ := ih kept (by omega)
        refine ⟨result :: results, last, ?_, ?_⟩
        · simp only [ended, Option.map_some]
        · rw [List.length_cons, Nat.mul_succ]
          omega

theorem ends_within (shrinks : Shrinks turn holds size amount) (positive : 0 < amount) (start : holds s) :
    ∃ results t, repeatFor turn (size s / amount + 1) s = some (results, t) ∧ results.length ≤ size s / amount := by
  obtain ⟨results, t, ended, bound⟩ := shrinks.ends_of_lt start (Nat.lt_mul_div_succ (size s) positive)
  refine ⟨results, t, ended, (Nat.le_div_iff_mul_le positive).mpr ?_⟩
  rw [Nat.mul_comm]
  exact bound

end Shrinks

end Loops
