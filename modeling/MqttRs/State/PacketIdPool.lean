import MqttRs.Library.Runs
import MqttRs.State.PacketId

namespace MqttRs

/-- The calls that change a pool. -/
inductive PoolOp where
  | allocate
  | release (id : UInt16)
  | reset

namespace PacketIdManager

def perform (m : PacketIdManager) : PoolOp → PacketIdManager
  | .allocate => m.allocate.2
  | .release id => m.release id
  | .reset => m.reset

/-- The identifiers below `next_id` are in use or given back, never both, and every call gives out or takes back one
    identifier at most. -/
structure Pooled (m : PacketIdManager) : Prop where
  disjoint : Disjoint m.inUse m.freeList
  distinct : m.freeList.val.Nodup
  union : ∀ id : UInt16, id ∈ m.inUse ∪ m.freeList ↔ 1 ≤ id.toNat ∧ id.toNat ≤ m.nextId.toNat - 1
  counter : 1 ≤ m.nextId.toNat ∧ m.nextId.toNat ≤ 65536
  rises : m.nextId.toNat ≤ m.allocate.2.nextId.toNat
  allocates : ∀ {id}, m.allocate.1 = some id → id ≠ 0 ∧ id ∉ m.inUse ∧ m.allocate.2.inUse = insert id m.inUse
  exhausted : m.allocate.1 = none ↔ ∀ id : UInt16, 1 ≤ id.toNat → id ∈ m.inUse
  available : m.isAvailable = true ↔ m.allocate.1 ≠ none
  ignores : ∀ {id}, id ∉ m.inUse → m.release id = m

section Pool

variable {m : PacketIdManager} {id : UInt16}

theorem perform_valid (valid : m.Valid) (op : PoolOp) : (m.perform op).Valid := by
  cases op with
  | allocate =>
    rcases allocate_cases valid with ⟨id, -, -, -, kept⟩ | none
    · exact kept
    · rw [perform, none]
      exact valid
  | release id => exact release_valid valid id
  | reset => exact new_valid

theorem allocate_some (valid : m.Valid) (given : m.allocate.1 = some id) :
    id ≠ 0 ∧ id ∉ m.inUse ∧ m.allocate.2.inUse = insert id m.inUse := by
  rcases allocate_cases valid with ⟨other, result, unused, added, kept⟩ | none
  · obtain rfl : other = id := Option.some.inj (result.symm.trans given)
    refine ⟨?_, unused, added⟩
    intro zero
    apply zero_not_inUse kept
    rw [added, zero]
    exact Finset.mem_insert_self 0 _
  · rw [none] at given
    cases given

theorem allocate_none (valid : m.Valid) : m.allocate.1 = none ↔ m.freeList = ∅ ∧ m.nextId.toNat = 65536 := by
  rcases allocate_eq valid with ⟨id, free, result⟩ | ⟨empty, left, -, -, -, result⟩ | ⟨empty, all, result⟩ <;>
    rw [result]
  · simp only [reduceCtorEq, false_iff]
    intro none
    rw [none.1] at free
    cases free
  · simp only [reduceCtorEq, false_iff]
    omega
  · exact ⟨fun _ => ⟨empty, all⟩, fun _ => rfl⟩

theorem all_inUse_iff (valid : m.Valid) :
    (m.freeList = ∅ ∧ m.nextId.toNat = 65536) ↔ ∀ id : UInt16, 1 ≤ id.toNat → id ∈ m.inUse := by
  constructor
  · intro none id positive
    have issued := (valid.issued id).mpr ⟨positive, none.2 ▸ id.toNat_lt⟩
    rw [none.1] at issued
    exact issued.resolve_right (Finset.notMem_empty id)
  · intro all
    have last := ((valid.issued 65535).mp (.inl (all 65535 (by decide)))).2
    have value : (65535 : UInt16).toNat = 65535 := rfl
    have bound := valid.bound.2
    constructor
    · apply Finset.eq_empty_of_forall_notMem
      intro id free
      have positive := ((valid.issued id).mp (.inr free)).1
      exact valid.split id (all id positive) free
    · omega

theorem isAvailable_iff (valid : m.Valid) : m.isAvailable = true ↔ m.allocate.1 ≠ none := by
  have bound := valid.bound.2
  have value : (65535 : UInt32).toNat = 65535 := rfl
  rw [ne_eq, allocate_none valid, isAvailable, Bool.or_eq_true, decide_eq_true_eq, decide_eq_true_eq,
    UInt32.le_iff_toNat_le, value, not_and_or]
  refine or_congr_right ?_
  omega

theorem release_unused (unused : id ∉ m.inUse) : m.release id = m := by
  rw [release, if_neg unused, ite_self]

theorem allocate_rises (valid : m.Valid) : m.nextId.toNat ≤ m.allocate.2.nextId.toNat := by
  rcases allocate_eq valid with ⟨id, -, result⟩ | ⟨-, -, -, -, raised, result⟩ | ⟨-, -, result⟩ <;> rw [result]
  rw [raised]
  exact Nat.le_succ _

theorem Valid.pooled (valid : m.Valid) : m.Pooled where
  disjoint := Finset.disjoint_left.mpr valid.split
  distinct := m.freeList.nodup
  union id := by
    rw [Finset.mem_union, valid.issued]
    omega
  counter := valid.bound
  rises := allocate_rises valid
  allocates := allocate_some valid
  exhausted := (allocate_none valid).trans (all_inUse_iff valid)
  available := isAvailable_iff valid
  ignores := release_unused

end Pool

/-- After any calls on a new pool, its two sets share out the identifiers below the counter, and none is given out
    twice. -/
theorem packet_id_pool {ops : List PoolOp} {m : PacketIdManager}
    (run : Run (fun m op n => n = perform m op) .new ops m) : m.Pooled :=
  (run.invariant (fun {_ op _} valid step => step ▸ perform_valid valid op) new_valid).pooled

def releasedTwiceRun : List PoolOp := [.allocate, .allocate, .release 1, .release 1, .release 9, .allocate]

theorem releasedTwiceRun_pooled :
    (releasedTwiceRun.foldl perform .new).allocate.1 = some 3 ∧ (releasedTwiceRun.foldl perform .new).Pooled := by
  have run : Run (fun m op n => n = perform m op) .new releasedTwiceRun (releasedTwiceRun.foldl perform .new) :=
    .cons rfl (.cons rfl (.cons rfl (.cons rfl (.cons rfl (.cons rfl (.nil _))))))
  exact ⟨by decide, packet_id_pool run⟩

end PacketIdManager

end MqttRs
