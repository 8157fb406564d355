import Mathlib.Algebra.Group.Nat.Defs
import MqttRs.Library.Outcome

/-! Machine arithmetic on natural numbers and slices, with the checks that abort the thread. -/

namespace Usize

def max : Nat := 2 ^ 64 - 1

def saturatingAdd (a b : Nat) : Nat := min (a + b) max

def checkedAdd (a b : Nat) : Option Nat := if a + b ≤ max then some (a + b) else none

def add {ε : Type} (a b : Nat) : Outcome ε Nat := if a + b ≤ max then .ok (a + b) else .panic

theorem saturatingAdd_assoc (a b c : Nat) : saturatingAdd (saturatingAdd a b) c = saturatingAdd a (b + c) := by
  rw [saturatingAdd, saturatingAdd, saturatingAdd]
  omega

theorem fits {n : Nat} (bound : n < 2 ^ 32) : n ≤ max := by
  rw [max]
  omega

theorem sum_fits {a b : Nat} (left : a < 2 ^ 32) (right : b < 2 ^ 32) : a + b ≤ max := by
  rw [max]
  omega

theorem add_of_le {ε : Type} {a b : Nat} (fits : a + b ≤ max) : (add a b : Outcome ε Nat) = .ok (a + b) := if_pos fits

theorem checkedAdd_of_le {a b : Nat} (fits : a + b ≤ max) : checkedAdd a b = some (a + b) := if_pos fits

end Usize

namespace Isize

def max : Nat := 2 ^ 63 - 1

end Isize

namespace U32

def checkedAdd (a b : Nat) : Option Nat := if a + b < 2 ^ 32 then some (a + b) else none

def checkedMul (a b : Nat) : Option Nat := if a * b < 2 ^ 32 then some (a * b) else none

def mul {ε : Type} (a b : Nat) : Outcome ε Nat := if a * b < 2 ^ 32 then .ok (a * b) else .panic

end U32

namespace Slice

variable {ε α : Type}

def index (buf : List α) (i : Nat) : Outcome ε α :=
  match buf[i]? with
  | some value => .ok value
  | none => .panic

/-- `&buf[i..j]` -/
def range (buf : List α) (i j : Nat) : Outcome ε (List α) :=
  if i ≤ j ∧ j ≤ buf.length then .ok ((buf.take j).drop i) else .panic

/-- `&buf[i..]` -/
def rangeFrom (buf : List α) (i : Nat) : Outcome ε (List α) :=
  if i ≤ buf.length then .ok (buf.drop i) else .panic

/-- `buf[i] = value` -/
def set (buf : List α) (i : Nat) (value : α) : Outcome ε (List α) :=
  if i < buf.length then .ok (buf.set i value) else .panic

/-- `buf[i..i + values.len()].copy_from_slice(values)` -/
def copyFrom (buf : List α) (i : Nat) (values : List α) : Outcome ε (List α) :=
  if i + values.length ≤ buf.length then .ok (buf.take i ++ values ++ buf.drop (i + values.length)) else .panic

/-- `buf.extend_from_slice(values)`, which aborts past the capacity that a vector of bytes can have -/
def extend (buf values : List α) : Outcome ε (List α) :=
  if buf.length + values.length ≤ Isize.max then .ok (buf ++ values) else .panic

theorem index_of_lt {buf : List α} {i : Nat} (inside : i < buf.length) :
    (index buf i : Outcome ε α) = .ok buf[i] := by
  simp [index, inside]

theorem index_zero_cons (first : α) (rest : List α) : (index (first :: rest) 0 : Outcome ε α) = .ok first := rfl

theorem range_of_le {buf : List α} {i j : Nat} (order : i ≤ j) (inside : j ≤ buf.length) :
    (range buf i j : Outcome ε (List α)) = .ok ((buf.take j).drop i) := if_pos ⟨order, inside⟩

theorem range_prefix {buf : List α} {i n : Nat} (inside : i + n ≤ buf.length) :
    (range buf i (i + n) : Outcome ε (List α)) = .ok ((buf.drop i).take n) := by
  rw [range_of_le (Nat.le_add_right i n) inside, List.drop_take, Nat.add_sub_cancel_left]

theorem rangeFrom_of_le {buf : List α} {i : Nat} (inside : i ≤ buf.length) :
    (rangeFrom buf i : Outcome ε (List α)) = .ok (buf.drop i) := if_pos inside

theorem rangeFrom_one_cons (first : α) (rest : List α) :
    (rangeFrom (first :: rest) 1 : Outcome ε (List α)) = .ok rest := by
  simp [rangeFrom]

theorem copyFrom_of_le {buf : List α} {i : Nat} {values : List α} (room : i + values.length ≤ buf.length) :
    (copyFrom buf i values : Outcome ε (List α)) = .ok (buf.take i ++ values ++ buf.drop (i + values.length)) :=
  if_pos room

theorem extend_of_le {buf values : List α} (fits : buf.length + values.length ≤ Isize.max) :
    (extend buf values : Outcome ε (List α)) = .ok (buf ++ values) := if_pos fits

theorem set_of_lt {buf : List α} {i : Nat} {value : α} (inside : i < buf.length) :
    (set buf i value : Outcome ε (List α)) = .ok (buf.take i ++ [value] ++ buf.drop (i + 1)) := by
  rw [set, if_pos inside, List.set_eq_take_append_cons_drop, if_pos inside]
  simp

theorem length_replaced {buf : List α} {i : Nat} (value : α) (inside : i < buf.length) :
    (buf.take i ++ [value] ++ buf.drop (i + 1)).length = buf.length := by
  simp only [List.length_append, List.length_take, List.length_drop, List.length_singleton]
  omega

end Slice
