import Mathlib.Order.Lattice
import Mathlib.Data.List.Basic
import Mathlib.Data.List.Nodup
import Mathlib.Order.Defs.LinearOrder
import Mathlib.Tactic.Common

/-- A finite map kept as its entries in strictly increasing key order, so that equal maps
    are equal as values and iteration order is the key order. -/
structure OrderedMap (κ : Type) [LinearOrder κ] (ν : Type) where
  entries : List (κ × ν)
  sorted : entries.Pairwise (fun a b => a.1 < b.1)

namespace OrderedMap

variable {κ ν : Type} [LinearOrder κ]

instance [DecidableEq ν] : DecidableEq (OrderedMap κ ν) := fun m n =>
  decidable_of_iff (m.entries = n.entries)
    ⟨fun h => by cases m; cases n; cases h; rfl, fun h => h ▸ rfl⟩

def empty : OrderedMap κ ν := ⟨[], .nil⟩

def find (key : κ) : List (κ × ν) → Option ν
  | [] => none
  | (k, v) :: rest => if key = k then some v else find key rest

def insertEntry (key : κ) (value : ν) : List (κ × ν) → List (κ × ν)
  | [] => [(key, value)]
  | (k, v) :: rest =>
    if key < k then (key, value) :: (k, v) :: rest
    else if key = k then (key, value) :: rest
    else (k, v) :: insertEntry key value rest

theorem mem_insertEntry {key : κ} {value : ν} {entry : κ × ν} {entries : List (κ × ν)}
    (member : entry ∈ insertEntry key value entries) : entry = (key, value) ∨ entry ∈ entries := by
  induction entries with
  | nil => exact .inl (by simpa [insertEntry] using member)
  | cons head tail ih =>
    simp only [insertEntry] at member
    split at member
    · simpa using member
    · split at member
      · rcases List.mem_cons.mp member with rfl | inTail
        · exact .inl rfl
        · exact .inr (List.mem_cons_of_mem _ inTail)
      · rcases List.mem_cons.mp member with rfl | inTail
        · exact .inr (List.mem_cons_self ..)
        · exact (ih inTail).imp_right (List.mem_cons_of_mem _)

theorem insertEntry_sorted (key : κ) (value : ν) {entries : List (κ × ν)}
    (sorted : entries.Pairwise (fun a b => a.1 < b.1)) :
    (insertEntry key value entries).Pairwise (fun a b => a.1 < b.1) := by
  induction entries with
  | nil => simp [insertEntry]
  | cons head tail ih =>
    obtain ⟨below, rest⟩ := List.pairwise_cons.mp sorted
    simp only [insertEntry]
    split
    · rename_i less
      refine List.pairwise_cons.mpr ⟨?_, sorted⟩
      intro entry member
      rcases List.mem_cons.mp member with rfl | inTail
      · exact less
      · exact lt_trans less (below _ inTail)
    · rename_i notLess
      split
      · rename_i same
        subst same
        exact List.pairwise_cons.mpr ⟨below, rest⟩
      · rename_i different
        refine List.pairwise_cons.mpr ⟨?_, ih rest⟩
        intro entry member
        rcases mem_insertEntry member with rfl | inTail
        · exact lt_of_le_of_ne (not_lt.mp notLess) (Ne.symm different)
        · exact below _ inTail

def get? (m : OrderedMap κ ν) (key : κ) : Option ν := find key m.entries

def contains (m : OrderedMap κ ν) (key : κ) : Bool := (m.get? key).isSome

def insert (m : OrderedMap κ ν) (key : κ) (value : ν) : OrderedMap κ ν :=
  ⟨insertEntry key value m.entries, insertEntry_sorted key value m.sorted⟩

def erase (m : OrderedMap κ ν) (key : κ) : OrderedMap κ ν :=
  ⟨m.entries.filter (fun entry => decide (entry.1 ≠ key)), m.sorted.filter _⟩

def mapValues (m : OrderedMap κ ν) (f : ν → ν) : OrderedMap κ ν :=
  ⟨m.entries.map (fun entry => (entry.1, f entry.2)), List.pairwise_map.mpr m.sorted⟩

def size (m : OrderedMap κ ν) : Nat := m.entries.length

def keys (m : OrderedMap κ ν) : List κ := m.entries.map Prod.fst

/-- Number of entries whose value satisfies `p`. -/
def count (p : ν → Bool) (m : OrderedMap κ ν) : Nat := m.entries.countP (fun entry => p entry.2)

theorem find_some_iff {key : κ} {value : ν} {entries : List (κ × ν)}
    (sorted : entries.Pairwise (fun a b => a.1 < b.1)) :
    find key entries = some value ↔ (key, value) ∈ entries := by
  induction entries with
  | nil => simp [find]
  | cons head tail ih =>
    obtain ⟨below, rest⟩ := List.pairwise_cons.mp sorted
    obtain ⟨k, v⟩ := head
    by_cases same : key = k
    · subst same
      simp only [find, ↓reduceIte, Option.some.injEq, List.mem_cons, Prod.mk.injEq, true_and]
      refine ⟨fun h => .inl h.symm, ?_⟩
      rintro (h | member)
      · exact h.symm
      · exact absurd (below _ member) (lt_irrefl _)
    · simp only [find, same, ↓reduceIte, List.mem_cons, Prod.mk.injEq, false_and, false_or]
      exact ih rest

theorem find_insertEntry (key other : κ) (value : ν) (entries : List (κ × ν)) :
    find other (insertEntry key value entries) =
      if other = key then some value else find other entries := by
  induction entries with
  | nil => simp [insertEntry, find]
  | cons head tail ih =>
    obtain ⟨k, v⟩ := head
    simp only [insertEntry]
    split
    · simp [find]
    · split
      · rename_i same
        subst same
        by_cases h : other = key <;> simp [find, h]
      · rename_i different
        by_cases h : other = k
        · subst h
          simp [find, Ne.symm different]
        · simp [find, h, ih]

theorem find_filter_ne (key other : κ) (entries : List (κ × ν)) :
    find other (entries.filter (fun entry => decide (entry.1 ≠ key))) =
      if other = key then none else find other entries := by
  induction entries with
  | nil => simp [find]
  | cons head tail ih =>
    obtain ⟨k, v⟩ := head
    by_cases removed : k = key
    · subst removed
      simp only [ne_eq, not_true_eq_false, decide_false, Bool.false_eq_true, not_false_eq_true,
        List.filter_cons_of_neg]
      rw [ih]
      by_cases h : other = k <;> simp [find, h]
    · simp only [ne_eq, removed, not_false_eq_true, decide_true, List.filter_cons_of_pos, find]
      by_cases h : other = k
      · subst h
        simp [removed]
      · simp only [h, ↓reduceIte]
        exact ih

@[simp] theorem get?_empty (key : κ) : (empty : OrderedMap κ ν).get? key = none := rfl

@[simp] theorem get?_insert (m : OrderedMap κ ν) (key other : κ) (value : ν) :
    (m.insert key value).get? other = if other = key then some value else m.get? other :=
  find_insertEntry key other value m.entries

@[simp] theorem get?_erase (m : OrderedMap κ ν) (key other : κ) :
    (m.erase key).get? other = if other = key then none else m.get? other :=
  find_filter_ne key other m.entries

@[simp] theorem get?_mapValues (m : OrderedMap κ ν) (f : ν → ν) (key : κ) :
    (m.mapValues f).get? key = (m.get? key).map f := by
  obtain ⟨entries, sorted⟩ := m
  simp only [get?, mapValues]
  clear sorted
  induction entries with
  | nil => rfl
  | cons head tail ih =>
    obtain ⟨k, v⟩ := head
    by_cases h : key = k <;> simp [find, h, ih]

theorem mem_entries {m : OrderedMap κ ν} {key : κ} {value : ν} :
    (key, value) ∈ m.entries ↔ m.get? key = some value := (find_some_iff m.sorted).symm

theorem contains_iff {m : OrderedMap κ ν} {key : κ} :
    m.contains key = true ↔ ∃ value, m.get? key = some value := Option.isSome_iff_exists

theorem contains_false_iff {m : OrderedMap κ ν} {key : κ} :
    m.contains key = false ↔ m.get? key = none := by
  simp [contains]

@[simp] theorem contains_empty (key : κ) : (empty : OrderedMap κ ν).contains key = false := rfl

@[simp] theorem contains_insert (m : OrderedMap κ ν) (key other : κ) (value : ν) :
    (m.insert key value).contains other = (decide (other = key) || m.contains other) := by
  by_cases same : other = key <;> simp [contains, same]

@[simp] theorem contains_erase (m : OrderedMap κ ν) (key other : κ) :
    (m.erase key).contains other = (!decide (other = key) && m.contains other) := by
  by_cases same : other = key <;> simp [contains, same]

@[simp] theorem contains_mapValues (m : OrderedMap κ ν) (f : ν → ν) (key : κ) :
    (m.mapValues f).contains key = m.contains key := by
  simp [contains]

theorem mem_keys {m : OrderedMap κ ν} {key : κ} : key ∈ m.keys ↔ ∃ value, m.get? key = some value := by
  simp [keys, mem_entries]

theorem keys_nodup (m : OrderedMap κ ν) : m.keys.Nodup := by
  have increasing : m.keys.Pairwise (· < ·) := List.pairwise_map.mpr m.sorted
  exact increasing.imp ne_of_lt

/-- Two maps with the same lookups are the same value. -/
theorem ext_get {m n : OrderedMap κ ν} (same : ∀ key, m.get? key = n.get? key) : m = n := by
  obtain ⟨left, leftSorted⟩ := m
  obtain ⟨right, rightSorted⟩ := n
  have members : ∀ entry, entry ∈ left ↔ entry ∈ right := by
    rintro ⟨key, value⟩
    rw [← find_some_iff leftSorted, ← find_some_iff rightSorted]
    exact iff_of_eq (congrArg (· = some value) (same key))
  have equal : left = right := by
    have leftNodup : left.Nodup := leftSorted.imp fun h eq => absurd (eq ▸ h) (lt_irrefl _)
    have rightNodup : right.Nodup := rightSorted.imp fun h eq => absurd (eq ▸ h) (lt_irrefl _)
    exact ((List.perm_ext_iff_of_nodup leftNodup rightNodup).mpr members).eq_of_pairwise
      (fun a b _ _ ab ba => absurd (lt_trans ab ba) (lt_irrefl _)) leftSorted rightSorted
  subst equal
  rfl

theorem erase_of_absent {m : OrderedMap κ ν} {key : κ} (absent : m.get? key = none) : m.erase key = m := by
  apply ext_get
  intro other
  by_cases h : other = key <;> simp [h, absent]

theorem insert_of_get {m : OrderedMap κ ν} {key : κ} {value : ν} (present : m.get? key = some value) :
    m.insert key value = m := by
  apply ext_get
  intro other
  by_cases h : other = key <;> simp [h, present]

theorem insert_erase (m : OrderedMap κ ν) (key : κ) (value : ν) :
    (m.erase key).insert key value = m.insert key value := by
  apply ext_get
  intro other
  by_cases h : other = key <;> simp [h]

theorem count_filter_ne (p : ν → Bool) (key : κ) {entries : List (κ × ν)}
    (sorted : entries.Pairwise (fun a b => a.1 < b.1)) :
    (entries.filter (fun entry => decide (entry.1 ≠ key))).countP (fun entry => p entry.2) +
      (if (find key entries).any p then 1 else 0) = entries.countP (fun entry => p entry.2) := by
  induction entries with
  | nil => simp [find]
  | cons head tail ih =>
    obtain ⟨below, rest⟩ := List.pairwise_cons.mp sorted
    obtain ⟨k, v⟩ := head
    by_cases removed : k = key
    · subst removed
      have untouched : tail.filter (fun entry => decide (entry.1 ≠ k)) = tail := by
        apply List.filter_eq_self.mpr
        intro entry member
        exact decide_eq_true (ne_of_gt (below entry member))
      simp only [ne_eq, not_true_eq_false, decide_false, Bool.false_eq_true, not_false_eq_true,
        List.filter_cons_of_neg] at untouched ⊢
      rw [untouched]
      simp [find, List.countP_cons]
    · have step := ih rest
      simp only [ne_eq, removed, not_false_eq_true, decide_true, List.filter_cons_of_pos,
        List.countP_cons, find, Ne.symm removed, ↓reduceIte] at step ⊢
      omega

/-- Removing a key lowers a count by one exactly when the removed value was counted. -/
theorem count_erase (m : OrderedMap κ ν) (p : ν → Bool) (key : κ) :
    (m.erase key).count p + (if (m.get? key).any p then 1 else 0) = m.count p :=
  count_filter_ne p key m.sorted

theorem count_insert_new (m : OrderedMap κ ν) (p : ν → Bool) {key : κ} (value : ν)
    (absent : m.get? key = none) :
    (m.insert key value).count p = m.count p + (if p value then 1 else 0) := by
  have step := (m.insert key value).count_erase p key
  have back : (m.insert key value).erase key = m := by
    apply ext_get
    intro other
    by_cases h : other = key <;> simp [h, absent]
  rw [back] at step
  simpa using step.symm

theorem count_insert (m : OrderedMap κ ν) (p : ν → Bool) (key : κ) (value : ν) :
    (m.insert key value).count p = (m.erase key).count p + (if p value then 1 else 0) := by
  rw [← insert_erase]
  exact count_insert_new _ p value (by simp)

theorem count_mapValues (m : OrderedMap κ ν) (p : ν → Bool) (f : ν → ν) :
    (m.mapValues f).count p = m.count (p ∘ f) := by
  simp [count, mapValues, List.countP_map, Function.comp_def]

theorem count_false (m : OrderedMap κ ν) : m.count (fun _ => false) = 0 := by
  simp [count]

theorem count_true (m : OrderedMap κ ν) : m.count (fun _ => true) = m.size := by
  simp [count, size]

theorem count_eq_zero {m : OrderedMap κ ν} {p : ν → Bool} :
    m.count p = 0 ↔ ∀ key value, m.get? key = some value → ¬p value = true := by
  rw [count, List.countP_eq_zero]
  constructor
  · intro none key value present
    exact none (key, value) (mem_entries.mpr present)
  · rintro none ⟨key, value⟩ member
    exact none key value (mem_entries.mp member)

@[simp] theorem count_empty (p : ν → Bool) : (empty : OrderedMap κ ν).count p = 0 := rfl

@[simp] theorem size_empty : (empty : OrderedMap κ ν).size = 0 := rfl

theorem size_insert_new (m : OrderedMap κ ν) {key : κ} (value : ν) (absent : m.get? key = none) :
    (m.insert key value).size = m.size + 1 := by
  simpa [count_true] using m.count_insert_new (fun _ => true) value absent

theorem size_insert_present (m : OrderedMap κ ν) {key : κ} (value : ν) {old : ν}
    (present : m.get? key = some old) : (m.insert key value).size = m.size := by
  have inserted := m.count_insert (fun _ => true) key value
  have erased := m.count_erase (fun _ => true) key
  simp only [present, Option.any_some, ↓reduceIte, count_true] at inserted erased
  omega

theorem size_erase_present (m : OrderedMap κ ν) {key : κ} {old : ν} (present : m.get? key = some old) :
    (m.erase key).size + 1 = m.size := by
  simpa [count_true, present] using m.count_erase (fun _ => true) key

theorem contains_iff_mem_keys {m : OrderedMap κ ν} {key : κ} : m.contains key = true ↔ key ∈ m.keys :=
  contains_iff.trans mem_keys.symm

theorem size_le_of_subset {μ : Type} {m : OrderedMap κ ν} {n : OrderedMap κ μ}
    (subset : ∀ key, m.contains key = true → n.contains key = true) : m.size ≤ n.size := by
  have inside : m.keys ⊆ n.keys := fun key member =>
    contains_iff_mem_keys.mp (subset key (contains_iff_mem_keys.mpr member))
  simpa [keys, size] using List.Nodup.length_le_of_subset m.keys_nodup inside

/-- A map with keys of another one, but not with all of them, is smaller. -/
theorem size_lt_of_subset {μ : Type} {m : OrderedMap κ ν} {n : OrderedMap κ μ}
    (subset : ∀ key, m.contains key = true → n.contains key = true) {key : κ} (absent : m.contains key = false)
    (present : n.contains key = true) : m.size < n.size := by
  have nodup : (key :: m.keys).Nodup := by
    refine List.nodup_cons.mpr ⟨fun member => ?_, m.keys_nodup⟩
    rw [contains_iff_mem_keys.mpr member] at absent
    cases absent
  have inside : key :: m.keys ⊆ n.keys := by
    intro other member
    rcases List.mem_cons.mp member with rfl | member
    · exact contains_iff_mem_keys.mp present
    · exact contains_iff_mem_keys.mp (subset other (contains_iff_mem_keys.mpr member))
  have longer := List.Nodup.length_le_of_subset nodup inside
  simp only [List.length_cons, keys, List.length_map] at longer
  exact longer

end OrderedMap
