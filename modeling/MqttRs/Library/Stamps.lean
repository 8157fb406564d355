import Mathlib.Data.List.Sort

/-- Keys listed in the order of their stamps, all drawn before the next one. -/
structure Stamped {κ : Type} (stamp : κ → Nat) (next : Nat) (keys : List κ) : Prop where
  ascending : keys.Pairwise (fun a b => stamp a < stamp b)
  drawn : ∀ key ∈ keys, stamp key < next

namespace Stamped

variable {κ : Type} {stamp stamp' : κ → Nat} {next next' : Nat} {keys : List κ}

theorem nil : Stamped stamp next [] := ⟨.nil, by simp⟩

theorem nodup (stamped : Stamped stamp next keys) : keys.Nodup :=
  stamped.ascending.imp fun {a b} less same => absurd less (by rw [same]; exact lt_irrefl _)

/-- Only the stamps of the listed keys matter, and later draws do not disturb them. -/
theorem mono (stamped : Stamped stamp next keys) (same : ∀ key ∈ keys, stamp' key = stamp key)
    (later : next ≤ next') : Stamped stamp' next' keys := by
  refine ⟨stamped.ascending.imp_of_mem ?_, ?_⟩
  · intro a b left right less
    rw [same a left, same b right]
    exact less
  · intro key member
    rw [same key member]
    exact (stamped.drawn key member).trans_le later

theorem filter (stamped : Stamped stamp next keys) (p : κ → Bool) : Stamped stamp next (keys.filter p) :=
  ⟨stamped.ascending.filter p, fun key member => stamped.drawn key (List.mem_of_mem_filter member)⟩

theorem append {key : κ} (stamped : Stamped stamp next keys) (same : ∀ other ∈ keys, stamp' other = stamp other)
    (stampedNow : stamp' key = next) : Stamped stamp' (next + 1) (keys ++ [key]) := by
  have before := stamped.mono same (Nat.le_succ next)
  refine ⟨List.pairwise_append.mpr ⟨before.ascending, List.pairwise_singleton .., ?_⟩, ?_⟩
  · intro a member b last
    rw [List.mem_singleton.mp last, stampedNow, same a member]
    exact stamped.drawn a member
  · intro other member
    rcases List.mem_append.mp member with member | last
    · exact before.drawn other member
    · rw [List.mem_singleton.mp last, stampedNow]
      exact Nat.lt_succ_self next

theorem eq_of_sorted {sorted : List κ} (stamped : Stamped stamp next keys) (perm : sorted.Perm keys)
    (order : sorted.Pairwise (fun a b => stamp a ≤ stamp b)) : sorted = keys := by
  have distinct : (keys.map stamp).Nodup :=
    List.pairwise_map.mpr (stamped.ascending.imp fun {a b} (less : stamp a < stamp b) => less.ne)
  refine perm.eq_of_pairwise ?_ order (stamped.ascending.imp fun less => less.le)
  intro a b left right before after
  exact List.inj_on_of_nodup_map distinct (perm.mem_iff.mp left) right (le_antisymm before after)

end Stamped
