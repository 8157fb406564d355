import Mathlib.Order.Defs.LinearOrder
import Mathlib.Tactic.Common

namespace MachineInt

theorem uint16_lt_iff (a b : UInt16) : a < b ↔ a ≤ b ∧ ¬b ≤ a := by
  simp only [UInt16.lt_iff_toNat_lt, UInt16.le_iff_toNat_le]
  omega

theorem uint32_lt_iff (a b : UInt32) : a < b ↔ a ≤ b ∧ ¬b ≤ a := by
  simp only [UInt32.lt_iff_toNat_lt, UInt32.le_iff_toNat_le]
  omega

instance uint16Order : LinearOrder UInt16 where
  le_refl _ := UInt16.le_refl _
  le_trans _ _ _ := UInt16.le_trans
  le_antisymm _ _ := UInt16.le_antisymm
  le_total := UInt16.le_total
  lt_iff_le_not_ge := uint16_lt_iff
  toDecidableLE := inferInstance
  toDecidableEq := inferInstance
  toDecidableLT := inferInstance

instance uint32Order : LinearOrder UInt32 where
  le_refl _ := UInt32.le_refl _
  le_trans _ _ _ := UInt32.le_trans
  le_antisymm _ _ := UInt32.le_antisymm
  le_total := UInt32.le_total
  lt_iff_le_not_ge := uint32_lt_iff
  toDecidableLE := inferInstance
  toDecidableEq := inferInstance
  toDecidableLT := inferInstance

end MachineInt

namespace UInt16

def saturatingAdd (a b : UInt16) : UInt16 := UInt16.ofNat (min (a.toNat + b.toNat) 65535)

def saturatingSub (a b : UInt16) : UInt16 := UInt16.ofNat (a.toNat - b.toNat)

@[simp] theorem toNat_saturatingAdd (a b : UInt16) :
    (a.saturatingAdd b).toNat = min (a.toNat + b.toNat) 65535 := by
  simp only [saturatingAdd, UInt16.toNat_ofNat']
  omega

@[simp] theorem toNat_saturatingSub (a b : UInt16) : (a.saturatingSub b).toNat = a.toNat - b.toNat := by
  have bound := a.toNat_lt
  simp only [saturatingSub, UInt16.toNat_ofNat']
  omega

theorem saturatingAdd_one_of_lt {a b : UInt16} (below : a < b) : (a.saturatingAdd 1).toNat = a.toNat + 1 := by
  have order := UInt16.lt_iff_toNat_lt.mp below
  have bound := b.toNat_lt
  simp only [toNat_saturatingAdd, UInt16.reduceToNat]
  omega

end UInt16
