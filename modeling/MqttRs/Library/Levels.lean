import Mathlib.Tactic.Common

/-! Text cut into levels by a separator, and marks that may only stand alone in a level. -/

namespace Levels

variable {α : Type} {sep mark : α} {level rest : List α}

def Starts (sep : α) (before : List α) : Prop := before = [] ∨ before.getLast? = some sep

/-- A level ends in front of `after`. -/
def Ends (sep : α) (after : List α) : Prop := after = [] ∨ after.head? = some sep

/-- Every `mark` is bounded on both sides by `sep` or an end of the text. -/
def Fills (sep mark : α) (text : List α) : Prop :=
  ∀ before after, text = before ++ mark :: after → Starts sep before ∧ Ends sep after

/-- Every `mark` is the last element, and behind `sep` or alone. -/
def Closes (sep mark : α) (text : List α) : Prop :=
  ∀ before after, text = before ++ mark :: after → after = [] ∧ Starts sep before

theorem induction {motive : List α → Prop} (single : ∀ level, sep ∉ level → motive level)
    (more : ∀ level rest, sep ∉ level → motive rest → motive (level ++ sep :: rest)) (text : List α) : motive text := by
  induction length : text.length using Nat.strongRecOn generalizing text with
  | ind n ih =>
    by_cases member : sep ∈ text
    · obtain ⟨level, rest, rfl, absent⟩ := List.eq_append_cons_of_mem member
      apply more level rest absent
      apply ih rest.length _ rest rfl
      rw [← length, List.length_append, List.length_cons]
      omega
    · exact single text member

theorem starts_of_absent {before : List α} (absent : sep ∉ before) : Starts sep before ↔ before = [] := by
  constructor
  · intro starts
    rcases starts with nothing | last
    · exact nothing
    · exact absurd (List.mem_of_getLast? last) absent
  · exact .inl

theorem ends_of_absent {after : List α} (absent : sep ∉ after) : Ends sep after ↔ after = [] := by
  constructor
  · intro ends
    rcases ends with nothing | first
    · exact nothing
    · exact absurd (List.mem_of_head? first) absent
  · exact .inl

theorem starts_behind (level front : List α) : Starts sep (level ++ sep :: front) ↔ Starts sep front := by
  cases front with
  | nil => simp [Starts]
  | cons first front => simp [Starts, List.getLast?_append, List.getLast?_cons_cons]

theorem ends_before (tail rest : List α) (absent : sep ∉ tail) : Ends sep (tail ++ sep :: rest) ↔ tail = [] := by
  cases tail with
  | nil => simp [Ends]
  | cons first tail =>
    have other : first ≠ sep := fun same => absent (same ▸ List.mem_cons_self)
    simp [Ends, other]

theorem occurs_iff {before after : List α} (different : mark ≠ sep) :
    level ++ sep :: rest = before ++ mark :: after ↔
      (∃ tail, level = before ++ mark :: tail ∧ after = tail ++ sep :: rest) ∨
        ∃ front, before = level ++ sep :: front ∧ rest = front ++ mark :: after := by
  rw [List.append_eq_append_iff]
  constructor
  · intro parts
    rcases parts with ⟨middle, same, behind⟩ | ⟨middle, same, behind⟩
    · cases middle with
      | nil => exact absurd (List.cons.inj behind).1.symm different
      | cons first front =>
        obtain ⟨rfl, more⟩ := List.cons.inj behind
        exact .inr ⟨front, same, more⟩
    · cases middle with
      | nil => exact absurd (List.cons.inj behind).1 different
      | cons first tail =>
        obtain ⟨rfl, more⟩ := List.cons.inj behind
        exact .inl ⟨tail, same, more⟩
  · intro parts
    rcases parts with ⟨tail, rfl, rfl⟩ | ⟨front, rfl, rfl⟩
    · exact .inr ⟨mark :: tail, rfl, rfl⟩
    · exact .inl ⟨sep :: front, rfl, rfl⟩

theorem fills_single (absent : sep ∉ level) : Fills sep mark level ↔ (mark ∈ level → level = [mark]) := by
  constructor
  · intro fills member
    obtain ⟨before, after, rfl⟩ := List.append_of_mem member
    obtain ⟨starts, ends⟩ := fills before after rfl
    rw [List.mem_append, List.mem_cons, not_or, not_or] at absent
    rw [(starts_of_absent absent.1).mp starts, (ends_of_absent absent.2.2).mp ends]
    rfl
  · intro alone before after here
    subst here
    have same := alone (List.mem_append_right _ List.mem_cons_self)
    rw [List.append_eq_singleton_iff] at same
    rcases same with ⟨rfl, behind⟩ | ⟨-, wrong⟩
    · cases behind
      exact ⟨.inl rfl, .inl rfl⟩
    · cases wrong

theorem fills_append (absent : sep ∉ level) (different : mark ≠ sep) :
    Fills sep mark (level ++ sep :: rest) ↔ (mark ∈ level → level = [mark]) ∧ Fills sep mark rest := by
  rw [← fills_single absent]
  constructor
  · intro fills
    constructor
    · intro before tail here
      subst here
      obtain ⟨starts, ends⟩ := fills before (tail ++ sep :: rest) (List.append_assoc _ _ _)
      rw [List.mem_append, List.mem_cons, not_or, not_or] at absent
      exact ⟨starts, .inl ((ends_before tail rest absent.2.2).mp ends)⟩
    · intro front after later
      subst later
      obtain ⟨starts, ends⟩ := fills (level ++ sep :: front) after (by rw [List.append_assoc]; rfl)
      exact ⟨(starts_behind level front).mp starts, ends⟩
  · intro both before after same
    rcases (occurs_iff different).mp same with ⟨tail, here, rfl⟩ | ⟨front, rfl, later⟩
    · obtain ⟨starts, ends⟩ := both.1 before tail here
      subst here
      rw [List.mem_append, List.mem_cons, not_or, not_or] at absent
      rw [ends_of_absent absent.2.2] at ends
      exact ⟨starts, (ends_before tail rest absent.2.2).mpr ends⟩
    · obtain ⟨starts, ends⟩ := both.2 front after later
      exact ⟨(starts_behind level front).mpr starts, ends⟩

theorem closes_single (absent : sep ∉ level) : Closes sep mark level ↔ (mark ∈ level → level = [mark]) := by
  rw [← fills_single absent]
  constructor
  · intro closes before after here
    obtain ⟨last, starts⟩ := closes before after here
    exact ⟨starts, .inl last⟩
  · intro fills before after here
    obtain ⟨starts, ends⟩ := fills before after here
    subst here
    rw [List.mem_append, List.mem_cons, not_or, not_or] at absent
    exact ⟨(ends_of_absent absent.2.2).mp ends, starts⟩

theorem closes_append (different : mark ≠ sep) :
    Closes sep mark (level ++ sep :: rest) ↔ mark ∉ level ∧ Closes sep mark rest := by
  constructor
  · intro closes
    constructor
    · intro member
      obtain ⟨before, tail, rfl⟩ := List.append_of_mem member
      obtain ⟨last, -⟩ := closes before (tail ++ sep :: rest) (List.append_assoc _ _ _)
      exact List.append_ne_nil_of_right_ne_nil tail (List.cons_ne_nil sep rest) last
    · intro front after later
      subst later
      obtain ⟨last, starts⟩ := closes (level ++ sep :: front) after (by rw [List.append_assoc]; rfl)
      exact ⟨last, (starts_behind level front).mp starts⟩
  · intro both before after same
    rcases (occurs_iff different).mp same with ⟨tail, here, -⟩ | ⟨front, rfl, later⟩
    · exact absurd (here ▸ List.mem_append_right before List.mem_cons_self) both.1
    · obtain ⟨last, starts⟩ := both.2 front after later
      exact ⟨last, (starts_behind level front).mpr starts⟩

theorem takeWhile_level [DecidableEq α] (absent : sep ∉ level) (rest : List α) :
    (level ++ sep :: rest).takeWhile (· != sep) = level := by
  rw [List.takeWhile_append_of_pos, List.takeWhile_cons_of_neg, List.append_nil]
  · simp
  · intro value member
    have other : value ≠ sep := fun same => absent (same ▸ member)
    simp [other]

theorem dropWhile_level [DecidableEq α] (absent : sep ∉ level) (rest : List α) :
    (level ++ sep :: rest).dropWhile (· != sep) = sep :: rest := by
  rw [List.dropWhile_append_of_pos, List.dropWhile_cons_of_neg]
  · simp
  · intro value member
    have other : value ≠ sep := fun same => absent (same ▸ member)
    simp [other]

end Levels
