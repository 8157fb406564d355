import Mathlib.Tactic.Common

/-- What a call does: return a value, return an error, abort the thread, or never return. -/
inductive Outcome (ε α : Type) where
  | ok (value : α)
  | error (reason : ε)
  | panic
  | hang
  deriving DecidableEq

namespace Outcome

variable {ε α β : Type}

instance : Monad (Outcome ε) where
  pure := .ok
  bind
    | .ok value, next => next value
    | .error reason, _ => .error reason
    | .panic, _ => .panic
    | .hang, _ => .hang

@[simp] theorem pure_eq (value : α) : (pure value : Outcome ε α) = .ok value := rfl

@[simp] theorem ok_bind (value : α) (next : α → Outcome ε β) : (Outcome.ok value >>= next) = next value := rfl

@[simp] theorem error_bind (reason : ε) (next : α → Outcome ε β) :
    (Outcome.error reason >>= next) = .error reason := rfl

@[simp] theorem panic_bind (next : α → Outcome ε β) : ((.panic : Outcome ε α) >>= next) = .panic := rfl

@[simp] theorem hang_bind (next : α → Outcome ε β) : ((.hang : Outcome ε α) >>= next) = .hang := rfl

theorem bind_eq_ok {outcome : Outcome ε α} {next : α → Outcome ε β} {value : β} :
    (outcome >>= next) = .ok value ↔ ∃ first, outcome = .ok first ∧ next first = .ok value := by
  cases outcome <;> simp

theorem beside_eq_ok {σ : Type} {outcome : Outcome ε σ} {only value : β} {after : σ} (unique : only = value) :
    (do
      let after ← outcome
      .ok (only, after)) = .ok (value, after) ↔ outcome = .ok after := by
  cases outcome <;> simp [unique]

/-- `let (value, n) = outcome?; Ok((tag(value), n))` -/
def tagged {σ : Type} (tag : α → β) (outcome : Outcome ε (α × σ)) : Outcome ε (β × σ) := do
  let (value, after) ← outcome
  .ok (tag value, after)

theorem tagged_eq_ok {σ : Type} {tag : α → β} {outcome : Outcome ε (α × σ)} {value : β} {after : σ} :
    outcome.tagged tag = .ok (value, after) ↔ ∃ given, outcome = .ok (given, after) ∧ tag given = value := by
  rw [tagged]
  cases outcome with
  | ok result =>
    obtain ⟨given, _⟩ := result
    simp only [ok_bind, ok.injEq, Prod.mk.injEq]
    constructor
    · intro both
      exact ⟨given, ⟨rfl, both.2⟩, both.1⟩
    · intro some
      obtain ⟨_, ⟨rfl, rfl⟩, rfl⟩ := some
      exact ⟨rfl, rfl⟩
  | error reason => simp
  | panic => simp
  | hang => simp

def okOr : Option α → ε → Outcome ε α
  | some value, _ => .ok value
  | none, reason => .error reason

def mapError {ε' : Type} (change : ε → ε') : Outcome ε α → Outcome ε' α
  | .ok value => .ok value
  | .error reason => .error (change reason)
  | .panic => .panic
  | .hang => .hang

def ofExcept : Except ε α → Outcome ε α
  | .ok value => .ok value
  | .error reason => .error reason

/-- A call that comes back, with a value or with an error. -/
def Returns : Outcome ε α → Prop
  | .ok _ | .error _ => True
  | .panic | .hang => False

theorem returns_iff {outcome : Outcome ε α} :
    outcome.Returns ↔ ∃ result : Except ε α, outcome = ofExcept result := by
  constructor
  · cases outcome with
    | ok value => exact fun _ => ⟨.ok value, rfl⟩
    | error reason => exact fun _ => ⟨.error reason, rfl⟩
    | panic => exact False.elim
    | hang => exact False.elim
  · rintro ⟨result, rfl⟩
    cases result <;> exact True.intro

@[simp] theorem ofExcept_eq_ok {result : Except ε α} {value : α} :
    ofExcept result = .ok value ↔ result = .ok value := by
  cases result <;> simp [ofExcept]

@[simp] theorem ofExcept_eq_error {result : Except ε α} {reason : ε} :
    ofExcept result = .error reason ↔ result = .error reason := by
  cases result <;> simp [ofExcept]

theorem mapError_eq_ok {ε' : Type} {change : ε → ε'} {outcome : Outcome ε α} {value : α} :
    outcome.mapError change = .ok value ↔ outcome = .ok value := by
  cases outcome <;> simp [mapError]

theorem tagged_returns {σ : Type} {tag : α → β} {outcome : Outcome ε (α × σ)} :
    (outcome.tagged tag).Returns ↔ outcome.Returns := by
  cases outcome <;> exact Iff.rfl

end Outcome
