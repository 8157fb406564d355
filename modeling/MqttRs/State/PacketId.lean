import Mathlib.Data.Finset.Max
import MqttRs.Library.MachineInt

namespace MqttRs

structure PacketIdManager where
  nextId : UInt32
  freeList : Finset UInt16
  inUse : Finset UInt16
  deriving DecidableEq

namespace PacketIdManager

def new : PacketIdManager := { nextId := 1, freeList := ∅, inUse := ∅ }

/-- The `while next_id <= 65535` loop. Every turn raises `next_id`, so it makes at most `65536 - next_id`
    turns and `turns` never runs out before its condition fails. -/
def allocateFresh : Nat → PacketIdManager → Option UInt16 × PacketIdManager
  | 0, m => (none, m)
  | turns + 1, m =>
    if m.nextId ≤ 65535 then
      let id := m.nextId.toUInt16
      let m := { m with nextId := m.nextId + 1 }
      if id ∈ m.inUse then allocateFresh turns m
      else (some id, { m with inUse := insert id m.inUse })
    else (none, m)

def allocate (m : PacketIdManager) : Option UInt16 × PacketIdManager :=
  match m.freeList.min with
  | some id => (some id, { m with freeList := m.freeList.erase id, inUse := insert id m.inUse })
  | none => allocateFresh (65536 - m.nextId.toNat) m

def release (m : PacketIdManager) (id : UInt16) : PacketIdManager :=
  if id = 0 then m
  else if id ∈ m.inUse then { m with inUse := m.inUse.erase id, freeList := insert id m.freeList }
  else m

def isAvailable (m : PacketIdManager) : Bool := decide (m.freeList ≠ ∅) || decide (m.nextId ≤ 65535)

def reset (_ : PacketIdManager) : PacketIdManager := { nextId := 1, freeList := ∅, inUse := ∅ }

/-- The identifiers below `next_id` are split into those in use and those given back. -/
structure Valid (m : PacketIdManager) : Prop where
  split : ∀ id, id ∈ m.inUse → id ∉ m.freeList
  issued : ∀ id, (id ∈ m.inUse ∨ id ∈ m.freeList) ↔ 0 < id.toNat ∧ id.toNat < m.nextId.toNat
  bound : 0 < m.nextId.toNat ∧ m.nextId.toNat ≤ 65536

section Pool

variable {m : PacketIdManager} {id : UInt16}

theorem new_valid : new.Valid := by
  refine ⟨by simp [new], ?_, by decide⟩
  intro id
  have one : new.nextId.toNat = 1 := rfl
  rw [one]
  simp only [new, Finset.notMem_empty, or_self, false_iff]
  omega

theorem zero_not_inUse (valid : m.Valid) : (0 : UInt16) ∉ m.inUse := by
  intro used
  have positive := ((valid.issued 0).mp (.inl used)).1
  exact absurd positive (by decide)

/-- The least identifier given back goes out again, then the counter's, until the counter is at its end. -/
theorem allocate_eq (valid : m.Valid) :
    (∃ id ∈ m.freeList, m.allocate =
      (some id, { m with freeList := m.freeList.erase id, inUse := insert id m.inUse })) ∨
    (m.freeList = ∅ ∧ m.nextId.toNat ≤ 65535 ∧ m.nextId.toUInt16.toNat = m.nextId.toNat ∧
      m.nextId.toUInt16 ∉ m.inUse ∧ (m.nextId + 1).toNat = m.nextId.toNat + 1 ∧ m.allocate =
        (some m.nextId.toUInt16, { m with nextId := m.nextId + 1, inUse := insert m.nextId.toUInt16 m.inUse })) ∨
    (m.freeList = ∅ ∧ m.nextId.toNat = 65536 ∧ m.allocate = (none, m)) := by
  obtain ⟨split, issued, positive, bound⟩ := valid
  unfold allocate
  split
  · rename_i id least
    exact .inl ⟨id, Finset.mem_of_min least, rfl⟩
  · rename_i least
    have empty : m.freeList = ∅ := Finset.min_eq_top.mp least
    by_cases left : m.nextId.toNat ≤ 65535
    · obtain ⟨turns, count⟩ : ∃ turns, 65536 - m.nextId.toNat = turns + 1 := ⟨65535 - m.nextId.toNat, by omega⟩
      have within : m.nextId ≤ 65535 := UInt32.le_iff_toNat_le.mpr left
      have value : m.nextId.toUInt16.toNat = m.nextId.toNat := by
        rw [UInt32.toNat_toUInt16]
        exact Nat.mod_eq_of_lt (by omega)
      have raised : (m.nextId + 1).toNat = m.nextId.toNat + 1 := by
        rw [UInt32.toNat_add]
        exact Nat.mod_eq_of_lt (show m.nextId.toNat + 1 < 4294967296 by omega)
      have unused : m.nextId.toUInt16 ∉ m.inUse := by
        intro used
        have below := ((issued _).mp (.inl used)).2
        omega
      refine .inr (.inl ⟨empty, left, value, unused, raised, ?_⟩)
      simp only [count, allocateFresh, within, unused, ↓reduceIte]
    · have count : 65536 - m.nextId.toNat = 0 := by omega
      refine .inr (.inr ⟨empty, by omega, ?_⟩)
      simp only [count, allocateFresh]

theorem allocate_cases (valid : m.Valid) :
    (∃ id, m.allocate.1 = some id ∧ id ∉ m.inUse ∧ m.allocate.2.inUse = insert id m.inUse ∧ m.allocate.2.Valid) ∨
      m.allocate = (none, m) := by
  obtain ⟨split, issued, positive, bound⟩ := valid
  rcases allocate_eq ⟨split, issued, positive, bound⟩ with
    ⟨id, free, result⟩ | ⟨empty, left, value, unused, raised, result⟩ | ⟨-, -, result⟩
  · have unused : id ∉ m.inUse := fun used => split id used free
    rw [result]
    refine .inl ⟨id, rfl, unused, rfl, ?_, ?_, positive, bound⟩
    · intro other used
      rw [Finset.mem_erase, not_and]
      rcases Finset.mem_insert.mp used with rfl | earlier
      · exact fun different => absurd rfl different
      · exact fun _ => split other earlier
    · intro other
      rw [← issued other, Finset.mem_insert, Finset.mem_erase]
      by_cases same : other = id
      · simp [same, free]
      · simp [same]
  · rw [result]
    refine .inl ⟨_, rfl, unused, rfl, ?_, ?_, ?_⟩
    · simp [empty]
    · intro other
      have known := issued other
      simp only [empty, Finset.notMem_empty, or_false] at known ⊢
      rw [Finset.mem_insert, known, raised, ← UInt16.toNat_inj, value]
      omega
    · simp only [raised]
      omega
  · exact .inr result

theorem release_inUse (valid : m.Valid) (id : UInt16) : (m.release id).inUse = m.inUse.erase id := by
  unfold release
  split
  · rename_i zero
    rw [zero, Finset.erase_eq_of_notMem (zero_not_inUse valid)]
  · split
    · rfl
    · rename_i unused
      rw [Finset.erase_eq_of_notMem unused]

theorem release_valid (valid : m.Valid) (id : UInt16) : (m.release id).Valid := by
  unfold release
  split
  · exact valid
  · split
    · rename_i used
      refine ⟨?_, ?_, valid.bound⟩
      · intro other still
        obtain ⟨different, before⟩ := Finset.mem_erase.mp still
        rw [Finset.mem_insert, not_or]
        exact ⟨different, valid.split other before⟩
      · intro other
        rw [← valid.issued other, Finset.mem_erase, Finset.mem_insert]
        by_cases same : other = id
        · simp [same, used]
        · simp [same]
    · exact valid

end Pool

end PacketIdManager

end MqttRs
