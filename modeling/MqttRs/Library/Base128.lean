import Mathlib.Algebra.Group.Nat.Defs
import Mathlib.Tactic.Common

/-! Natural numbers as base-128 digits, lowest first, every digit but the last marked with the top bit. -/

namespace Base128

variable {ε : Type}

/-- The shortest form of a value below `128 ^ limit`. -/
def digits : Nat → Nat → List UInt8
  | 0, _ => []
  | limit + 1, value =>
    if value < 128 then [UInt8.ofNat value] else UInt8.ofNat (value % 128 + 128) :: digits limit (value / 128)

/-- At most `limit` digits off the front, in whatever form they come. -/
def parse (short long : ε) : Nat → List UInt8 → Except ε (Nat × List UInt8)
  | 0, _ => .error long
  | _ + 1, [] => .error short
  | limit + 1, digit :: rest =>
    if digit.toNat < 128 then .ok (digit.toNat, rest)
    else
      match parse short long limit rest with
      | .ok (high, rest) => .ok (digit.toNat % 128 + 128 * high, rest)
      | .error reason => .error reason

theorem quotient_lt {limit value : Nat} (bound : value < 128 ^ (limit + 1)) : value / 128 < 128 ^ limit := by
  rw [Nat.pow_succ] at bound
  exact Nat.div_lt_of_lt_mul (by rwa [Nat.mul_comm])

theorem digits_ne_nil (limit value : Nat) : digits (limit + 1) value ≠ [] := by
  rw [digits]
  split <;> exact List.cons_ne_nil _ _

theorem length_digits_le (limit value : Nat) : (digits limit value).length ≤ limit := by
  induction limit generalizing value with
  | zero => exact Nat.le_refl 0
  | succ limit ih =>
    have tail := ih (value / 128)
    rw [digits]
    split
    · exact Nat.succ_le_succ (Nat.zero_le limit)
    · rw [List.length_cons]
      omega

theorem parse_induction {short long : ε} {rest : List UInt8} {motive : Nat → List UInt8 → Nat → Prop}
    (last : ∀ {limit digit}, digit.toNat < 128 → motive (limit + 1) (digit :: rest) digit.toNat)
    (more : ∀ {limit digit tail high}, ¬digit.toNat < 128 → parse short long limit tail = .ok (high, rest) →
      motive limit tail high → motive (limit + 1) (digit :: tail) (digit.toNat % 128 + 128 * high))
    {limit value : Nat} {bytes : List UInt8} (read : parse short long limit bytes = .ok (value, rest)) :
    motive limit bytes value := by
  induction limit generalizing bytes value with
  | zero => cases read
  | succ limit ih =>
    cases bytes with
    | nil => cases read
    | cons digit tail =>
      simp only [parse] at read
      split at read
      · rename_i unmarked
        cases read
        exact last unmarked
      · rename_i marked
        split at read
        · rename_i tailRead
          cases read
          exact more marked tailRead (ih tailRead)
        · cases read

theorem parse_suffix {short long : ε} {limit value : Nat} {bytes rest : List UInt8}
    (read : parse short long limit bytes = .ok (value, rest)) :
    ∃ front : List UInt8, bytes = front ++ rest ∧ 0 < front.length ∧ front.length ≤ limit := by
  refine parse_induction (motive := fun limit bytes _ =>
    ∃ front : List UInt8, bytes = front ++ rest ∧ 0 < front.length ∧ front.length ≤ limit) ?_ ?_ read
  · intro limit digit _
    exact ⟨[digit], rfl, Nat.zero_lt_one, Nat.succ_le_succ (Nat.zero_le limit)⟩
  · intro limit digit tail high _ _ below
    obtain ⟨front, rfl, _, bound⟩ := below
    exact ⟨digit :: front, rfl, Nat.succ_pos _, Nat.succ_le_succ bound⟩

theorem parse_lt {short long : ε} {limit value : Nat} {bytes rest : List UInt8}
    (read : parse short long limit bytes = .ok (value, rest)) : value < 128 ^ limit := by
  refine parse_induction (motive := fun limit _ value => value < 128 ^ limit) ?_ ?_ read
  · intro limit digit unmarked
    have positive : 0 < 128 ^ limit := Nat.pow_pos (by decide)
    have unfolded : 128 ^ (limit + 1) = 128 * 128 ^ limit := Nat.pow_succ'
    omega
  · intro limit digit tail high _ _ bound
    have unfolded : 128 ^ (limit + 1) = 128 * 128 ^ limit := Nat.pow_succ'
    omega

theorem parse_append {short long : ε} {limit value : Nat} {bytes rest : List UInt8}
    (read : parse short long limit bytes = .ok (value, rest)) (more : List UInt8) :
    parse short long limit (bytes ++ more) = .ok (value, rest ++ more) := by
  refine parse_induction (motive := fun limit bytes value =>
    parse short long limit (bytes ++ more) = .ok (value, rest ++ more)) ?_ ?_ read
  · intro limit digit unmarked
    rw [List.cons_append, parse, if_pos unmarked]
  · intro limit digit tail high marked _ below
    rw [List.cons_append, parse, if_neg marked, below]

theorem parse_error {short long reason : ε} {limit : Nat} {bytes : List UInt8}
    (failed : parse short long limit bytes = .error reason) :
    (reason = short ∧ bytes.length < limit) ∨
      (reason = long ∧ ∀ more, parse short long limit (bytes ++ more) = .error long) := by
  induction limit generalizing bytes with
  | zero =>
    cases failed
    exact .inr ⟨rfl, fun _ => rfl⟩
  | succ limit ih =>
    cases bytes with
    | nil =>
      cases failed
      exact .inl ⟨rfl, Nat.succ_pos limit⟩
    | cons digit tail =>
      simp only [parse, List.cons_append, List.length_cons] at failed ⊢
      split at failed
      · cases failed
      · rename_i marked
        split at failed
        · cases failed
        · rename_i tailFailed
          cases failed
          rcases ih tailFailed with ⟨same, early⟩ | ⟨same, stays⟩
          · exact .inl ⟨same, Nat.succ_lt_succ early⟩
          · refine .inr ⟨same, fun more => ?_⟩
            rw [if_neg marked, stays more]

theorem parse_eq_short {short long : ε} (different : short ≠ long) {limit : Nat} {bytes : List UInt8} :
    parse short long limit bytes = .error short ↔ bytes.length < limit ∧ ∀ digit ∈ bytes, 128 ≤ digit.toNat := by
  induction limit generalizing bytes with
  | zero =>
    simp only [parse, Except.error.injEq, Nat.not_lt_zero, false_and, iff_false]
    exact Ne.symm different
  | succ limit ih =>
    cases bytes with
    | nil => simp [parse]
    | cons digit rest =>
      rw [parse, List.forall_mem_cons, List.length_cons, Nat.succ_lt_succ_iff]
      split
      · rename_i unmarked
        simp only [reduceCtorEq, false_iff]
        omega
      · rename_i marked
        rw [← and_assoc, and_right_comm, ← ih]
        cases parse short long limit rest <;> simp [Nat.le_of_not_lt marked]

theorem parse_digits (short long : ε) {limit value : Nat} (bound : value < 128 ^ (limit + 1)) (rest : List UInt8) :
    parse short long (limit + 1) (digits (limit + 1) value ++ rest) = .ok (value, rest) := by
  induction limit generalizing value with
  | zero =>
    have small : value < 128 := by omega
    have byteSize : (UInt8.ofNat value).toNat = value := UInt8.toNat_ofNat_of_lt (show _ < 256 by omega)
    simp [digits, parse, small, byteSize]
  | succ limit ih =>
    rw [digits]
    split
    · rename_i small
      have byteSize : (UInt8.ofNat value).toNat = value := UInt8.toNat_ofNat_of_lt (show _ < 256 by omega)
      simp [parse, byteSize, small]
    · rename_i large
      have byteSize : (UInt8.ofNat (value % 128 + 128)).toNat = value % 128 + 128 :=
        UInt8.toNat_ofNat_of_lt (show _ < 256 by omega)
      have high := quotient_lt bound
      have marked : ¬(UInt8.ofNat (value % 128 + 128)).toNat < 128 := by omega
      rw [List.cons_append, parse, if_neg marked, ih high]
      show Except.ok (_, rest) = Except.ok (value, rest)
      rw [byteSize]
      have whole : (value % 128 + 128) % 128 + 128 * (value / 128) = value := by omega
      rw [whole]

theorem bytes_of_shortest {short long : ε} {limit value : Nat} {bytes rest : List UInt8}
    (read : parse short long limit bytes = .ok (value, rest))
    (shortest : bytes.length = (digits limit value).length + rest.length) : bytes = digits limit value ++ rest := by
  revert shortest
  refine parse_induction (motive := fun limit bytes value =>
    bytes.length = (digits limit value).length + rest.length → bytes = digits limit value ++ rest) ?_ ?_ read
  · intro limit digit unmarked _
    simp [digits, unmarked]
  · intro limit digit tail high marked tailRead below shortest
    have byteSize := digit.toNat_lt
    by_cases zero : high = 0
    · -- a zero on top makes the value one digit long, and the bytes are two or more
      obtain ⟨front, rfl, nonempty, _⟩ := parse_suffix tailRead
      have small : digit.toNat % 128 + 128 * high < 128 := by omega
      rw [digits, if_pos small] at shortest
      simp only [List.length_cons, List.length_append, List.length_nil] at shortest
      omega
    · have notSmall : ¬digit.toNat % 128 + 128 * high < 128 := by omega
      have quotient : (digit.toNat % 128 + 128 * high) / 128 = high := by omega
      have low : (digit.toNat % 128 + 128 * high) % 128 + 128 = digit.toNat := by omega
      rw [digits, if_neg notSmall, quotient, List.length_cons, List.length_cons] at shortest
      rw [digits, if_neg notSmall, quotient, low, UInt8.ofNat_toNat, List.cons_append]
      rw [← below (by omega)]

end Base128
