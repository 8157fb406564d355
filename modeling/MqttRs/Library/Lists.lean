import Mathlib.Algebra.GroupWithZero.Nat
import Mathlib.Data.List.Sort

namespace List

variable {α : Type} {r : α → α → Prop} [DecidableRel r] [Std.Total r] [IsTrans α r] [Std.Antisymm r]

theorem insertionSort_filter (p : α → Bool) (l : List α) :
    (l.filter p).insertionSort r = (l.insertionSort r).filter p := by
  have sameMembers : ((l.filter p).insertionSort r).Perm ((l.insertionSort r).filter p) :=
    (perm_insertionSort r (l.filter p)).trans ((perm_insertionSort r l).filter p).symm
  exact sameMembers.eq_of_pairwise' (pairwise_insertionSort r _) ((pairwise_insertionSort r l).filter p)

theorem filter_filterMap_of_key {κ β : Type} [DecidableEq κ] {make : κ → Option β} {key : β → κ}
    (keyed : ∀ k b, make k = some b → key b = k) {keys : List κ} (nodup : keys.Nodup) (k : κ) :
    (keys.filterMap make).filter (fun b => decide (key b = k)) = if k ∈ keys then (make k).toList else [] := by
  induction keys with
  | nil => rfl
  | cons first rest ih =>
    obtain ⟨notIn, restNodup⟩ := List.nodup_cons.mp nodup
    have tail := ih restNodup
    by_cases same : k = first
    · subst same
      simp only [notIn, ↓reduceIte] at tail
      cases made : make k with
      | none => simp [made, tail]
      | some b => simp [made, keyed k b made, tail]
    · cases made : make first with
      | none => simp [made, same, tail]
      | some b =>
        have other : key b ≠ k := by
          rw [keyed first b made]
          exact Ne.symm same
        simp [made, other, same, tail]

theorem sum_map_eq_zero_iff {β : Type} {size : β → Nat} (positive : ∀ b, size b ≠ 0) {queue : List β} :
    (queue.map size).sum = 0 ↔ queue = [] := by
  cases queue <;> simp [positive]

end List

section Overwrite

variable {α β : Type} {hits : α → Bool} {value : α → β} {items : List α}

/-- The value of the last item that hits, or what was there before. -/
def overwrite (hits : α → Bool) (value : α → β) (items : List α) (current : β) : β :=
  items.foldl (fun current item => if hits item then value item else current) current

theorem overwrite_cons (item : α) (items : List α) (current : β) :
    overwrite hits value (item :: items) current =
      overwrite hits value items (if hits item then value item else current) := rfl

theorem overwrite_missed (missed : ∀ item ∈ items, hits item = false) (current : β) :
    overwrite hits value items current = current := by
  induction items with
  | nil => rfl
  | cons item rest ih =>
    rw [overwrite_cons, missed item (.head _)]
    exact ih fun other member => missed other (.tail _ member)

/-- Items that agree on a value leave it there, if it is there or one of them hits. -/
theorem overwrite_agreed {agreed current : β} (agree : ∀ item ∈ items, hits item = true → value item = agreed)
    (set : current = agreed ∨ ∃ item ∈ items, hits item = true) : overwrite hits value items current = agreed := by
  induction items generalizing current with
  | nil =>
    rcases set with there | ⟨item, member, -⟩
    · exact there
    · cases member
  | cons first rest ih =>
    rw [overwrite_cons]
    refine ih (fun item member => agree item (.tail _ member)) ?_
    cases here : hits first with
    | true => exact .inl (agree first (.head _) here)
    | false =>
      rcases set with there | ⟨item, member, hit⟩
      · exact .inl there
      · rcases List.mem_cons.mp member with rfl | later
        · rw [here] at hit
          cases hit
        · exact .inr ⟨item, later, hit⟩

theorem foldl_overwrite {σ : Type} {step : σ → α → σ} (read : σ → β)
    (sets : ∀ state item, read (step state item) = if hits item then value item else read state) (state : σ) :
    read (items.foldl step state) = overwrite hits value items (read state) := by
  induction items generalizing state with
  | nil => rfl
  | cons item rest ih => rw [overwrite_cons, List.foldl_cons, ih, sets]

end Overwrite
