import Mathlib.Tactic.Common

/-- A property of bytes can be checked on the 256 of them. -/
theorem UInt8.forall_of_ofNat {holds : UInt8 → Prop} (all : ∀ n < 256, holds (UInt8.ofNat n)) (byte : UInt8) :
    holds byte := by
  have thisByte := all byte.toNat byte.toNat_lt
  rwa [UInt8.ofNat_toNat] at thisByte

/-- An enumeration whose members stand for distinct byte values. -/
class ByteCode (γ : Type) where
  fromU8 : UInt8 → Option γ
  asU8 : γ → UInt8
  fromU8_eq_some : ∀ value code, fromU8 value = some code ↔ value = asU8 code

namespace ByteCode

variable {γ : Type} [ByteCode γ]

@[simp] theorem fromU8_asU8 (code : γ) : fromU8 (asU8 code) = some code := (fromU8_eq_some _ _).mpr rfl

theorem asU8_injective {a b : γ} (same : asU8 a = asU8 b) : a = b := by
  have decoded : some a = some b := by rw [← fromU8_asU8 a, ← fromU8_asU8 b, same]
  exact Option.some.inj decoded

end ByteCode
