import Mathlib.Tactic.Common

/-! Fixed-width words as bytes, the highest first. -/

namespace UInt16

def toBeBytes (value : UInt16) : List UInt8 :=
  [UInt8.ofNat (value.toNat / 256), UInt8.ofNat (value.toNat % 256)]

def fromBeBytes (high low : UInt8) : UInt16 := UInt16.ofNat (high.toNat * 256 + low.toNat)

@[simp] theorem length_toBeBytes (value : UInt16) : value.toBeBytes.length = 2 := rfl

theorem toNat_fromBeBytes (high low : UInt8) : (fromBeBytes high low).toNat = high.toNat * 256 + low.toNat := by
  have highBound := high.toNat_lt
  have lowBound := low.toNat_lt
  exact UInt16.toNat_ofNat_of_lt (show _ < 65536 by omega)

theorem toBeBytes_fromBeBytes (high low : UInt8) : (fromBeBytes high low).toBeBytes = [high, low] := by
  have lowBound := low.toNat_lt
  have quotient : (high.toNat * 256 + low.toNat) / 256 = high.toNat := by omega
  have remainder : (high.toNat * 256 + low.toNat) % 256 = low.toNat := by omega
  rw [toBeBytes, toNat_fromBeBytes, quotient, remainder, UInt8.ofNat_toNat, UInt8.ofNat_toNat]

theorem fromBeBytes_toBeBytes (value : UInt16) :
    fromBeBytes (UInt8.ofNat (value.toNat / 256)) (UInt8.ofNat (value.toNat % 256)) = value := by
  have bound := value.toNat_lt
  apply UInt16.toNat_inj.mp
  have high : (UInt8.ofNat (value.toNat / 256)).toNat = value.toNat / 256 :=
    UInt8.toNat_ofNat_of_lt (show _ < 256 by omega)
  have low : (UInt8.ofNat (value.toNat % 256)).toNat = value.toNat % 256 :=
    UInt8.toNat_ofNat_of_lt (show _ < 256 by omega)
  rw [toNat_fromBeBytes, high, low]
  omega

theorem fromBeBytes_eq_iff {high low : UInt8} {value : UInt16} :
    fromBeBytes high low = value ↔ [high, low] = value.toBeBytes := by
  constructor
  · intro same
    rw [← same, toBeBytes_fromBeBytes]
  · intro same
    obtain ⟨rfl, rfl⟩ := by simpa [toBeBytes] using same
    exact fromBeBytes_toBeBytes value

end UInt16

namespace UInt32

def toBeBytes (value : UInt32) : List UInt8 :=
  [UInt8.ofNat (value.toNat / 16777216), UInt8.ofNat (value.toNat / 65536 % 256),
    UInt8.ofNat (value.toNat / 256 % 256), UInt8.ofNat (value.toNat % 256)]

def fromBeBytes (a b c d : UInt8) : UInt32 :=
  UInt32.ofNat (a.toNat * 16777216 + b.toNat * 65536 + c.toNat * 256 + d.toNat)

@[simp] theorem length_toBeBytes (value : UInt32) : value.toBeBytes.length = 4 := rfl

theorem toNat_fromBeBytes (a b c d : UInt8) :
    (fromBeBytes a b c d).toNat = a.toNat * 16777216 + b.toNat * 65536 + c.toNat * 256 + d.toNat := by
  have aBound := a.toNat_lt
  have bBound := b.toNat_lt
  have cBound := c.toNat_lt
  have dBound := d.toNat_lt
  exact UInt32.toNat_ofNat_of_lt (show _ < 4294967296 by omega)

theorem toBeBytes_fromBeBytes (a b c d : UInt8) : (fromBeBytes a b c d).toBeBytes = [a, b, c, d] := by
  have bBound := b.toNat_lt
  have cBound := c.toNat_lt
  have dBound := d.toNat_lt
  have first : (a.toNat * 16777216 + b.toNat * 65536 + c.toNat * 256 + d.toNat) / 16777216 = a.toNat := by omega
  have second : (a.toNat * 16777216 + b.toNat * 65536 + c.toNat * 256 + d.toNat) / 65536 % 256 = b.toNat := by omega
  have third : (a.toNat * 16777216 + b.toNat * 65536 + c.toNat * 256 + d.toNat) / 256 % 256 = c.toNat := by omega
  have fourth : (a.toNat * 16777216 + b.toNat * 65536 + c.toNat * 256 + d.toNat) % 256 = d.toNat := by omega
  rw [toBeBytes, toNat_fromBeBytes, first, second, third, fourth]
  simp only [UInt8.ofNat_toNat]

theorem fromBeBytes_eq_iff {a b c d : UInt8} {value : UInt32} :
    fromBeBytes a b c d = value ↔ [a, b, c, d] = value.toBeBytes := by
  constructor
  · intro same
    rw [← same, toBeBytes_fromBeBytes]
  · intro same
    have bound := value.toNat_lt
    obtain ⟨rfl, rfl, rfl, rfl⟩ := by simpa [toBeBytes] using same
    have byteSize (n : Nat) : (UInt8.ofNat n).toNat = n % 256 := UInt8.toNat_ofNat
    apply UInt32.toNat_inj.mp
    rw [toNat_fromBeBytes, byteSize, byteSize, byteSize, byteSize]
    omega

end UInt32
