import MqttRs.Library.OrderedMap

namespace ReverseIndex

variable {κ ι ν : Type} [LinearOrder κ] [LinearOrder ι]

def listed (index : OrderedMap ι (List κ)) (tag : ι) : List κ := (index.get? tag).getD []

def link (index : OrderedMap ι (List κ)) (key : κ) : Option ι → OrderedMap ι (List κ)
  | some tag => index.insert tag (listed index tag ++ [key])
  | none => index

/-- Removes the key from a tag's list, and the tag with its last key. -/
def unlink (index : OrderedMap ι (List κ)) (key : κ) : Option ι → OrderedMap ι (List κ)
  | some tag =>
    match index.get? tag with
    | none => index
    | some keys =>
      let kept := keys.filter (fun other => decide (other ≠ key))
      if kept.isEmpty then index.erase tag else index.insert tag kept
  | none => index

/-- The index lists every tagged key once under its tag, and lists nothing else. -/
structure Indexed (primary : OrderedMap κ ν) (tagOf : ν → Option ι) (index : OrderedMap ι (List κ)) : Prop where
  exactly : ∀ tag key, key ∈ listed index tag ↔ ∃ value, primary.get? key = some value ∧ tagOf value = some tag
  once : ∀ tag, (listed index tag).Nodup
  occupied : ∀ tag, index.get? tag ≠ some []

section Rules

variable {primary : OrderedMap κ ν} {tagOf : ν → Option ι} {index : OrderedMap ι (List κ)} {key : κ} {tag : ι}

omit [LinearOrder κ] in
theorem listed_link (index : OrderedMap ι (List κ)) (key : κ) (tag other : ι) :
    listed (link index key (some tag)) other =
      if other = tag then listed index tag ++ [key] else listed index other := by
  simp only [link, listed, OrderedMap.get?_insert]
  split <;> rfl

theorem listed_unlink (index : OrderedMap ι (List κ)) (key : κ) (tag other : ι) :
    listed (unlink index key (some tag)) other =
      if other = tag then (listed index tag).filter (fun k => decide (k ≠ key)) else listed index other := by
  cases known : index.get? tag with
  | none =>
    have none : listed index tag = [] := by simp [listed, known]
    simp only [unlink, known, none, List.filter_nil]
    split
    · rename_i same
      rw [same, none]
    · rfl
  | some keys =>
    have some : listed index tag = keys := by simp [listed, known]
    simp only [unlink, known, some]
    split
    · rename_i empty
      simp only [listed, OrderedMap.get?_erase]
      split
      · rw [List.isEmpty_iff.mp empty]
        rfl
      · rfl
    · simp only [listed, OrderedMap.get?_insert]
      split <;> rfl

theorem unlink_occupied (occupied : ∀ tag, index.get? tag ≠ some []) (key : κ) (tag other : ι) :
    (unlink index key (some tag)).get? other ≠ some [] := by
  cases known : index.get? tag with
  | none =>
    simp only [unlink, known]
    exact occupied other
  | some keys =>
    simp only [unlink, known]
    split
    · rw [OrderedMap.get?_erase]
      split
      · intro empty
        cases empty
      · exact occupied other
    · rename_i kept
      rw [OrderedMap.get?_insert]
      split
      · intro empty
        exact kept (List.isEmpty_iff.mpr (Option.some.inj empty))
      · exact occupied other

theorem Indexed.empty : Indexed (.empty : OrderedMap κ ν) tagOf .empty :=
  ⟨fun tag key => by simp [listed], fun tag => by simp [listed], fun tag => by simp⟩

theorem Indexed.erase (indexed : Indexed primary tagOf index) (key : κ) :
    Indexed (primary.erase key) tagOf (unlink index key ((primary.get? key).bind tagOf)) := by
  have others : ∀ other tag, (∃ value, (primary.erase key).get? other = some value ∧ tagOf value = some tag) ↔
      other ≠ key ∧ other ∈ listed index tag := by
    intro other tag
    rw [OrderedMap.get?_erase, indexed.exactly]
    split
    · rename_i same
      simp [same]
    · rename_i different
      simp [different]
  cases carried : (primary.get? key).bind tagOf with
  | none =>
    have unlisted : ∀ tag, key ∉ listed index tag := by
      intro tag member
      obtain ⟨value, present, tagged⟩ := (indexed.exactly tag key).mp member
      rw [present, Option.bind_some, tagged] at carried
      cases carried
    refine ⟨fun tag other => ?_, indexed.once, indexed.occupied⟩
    rw [others]
    refine ⟨fun member => ⟨?_, member⟩, And.right⟩
    rintro rfl
    exact unlisted tag member
  | some old =>
    have elsewhere : ∀ tag, key ∈ listed index tag → tag = old := by
      intro tag member
      obtain ⟨value, present, tagged⟩ := (indexed.exactly tag key).mp member
      rw [present, Option.bind_some, tagged] at carried
      exact Option.some.inj carried
    refine ⟨fun tag other => ?_, fun tag => ?_, fun tag => unlink_occupied indexed.occupied key old tag⟩
    · rw [listed_unlink, others]
      split
      · rename_i same
        subst same
        simp [and_comm]
      · rename_i different
        refine ⟨fun member => ⟨?_, member⟩, And.right⟩
        rintro rfl
        exact different (elsewhere tag member)
    · rw [listed_unlink]
      split
      · exact (indexed.once old).filter _
      · exact indexed.once tag

theorem Indexed.insert (indexed : Indexed primary tagOf index) (absent : primary.get? key = none) (value : ν) :
    Indexed (primary.insert key value) tagOf (link index key (tagOf value)) := by
  have unlisted : ∀ tag, key ∉ listed index tag := by
    intro tag member
    obtain ⟨other, present, -⟩ := (indexed.exactly tag key).mp member
    cases absent.symm.trans present
  have stored : ∀ other tag, (∃ found, (primary.insert key value).get? other = some found ∧ tagOf found = some tag) ↔
      (other = key ∧ tagOf value = some tag) ∨ other ∈ listed index tag := by
    intro other tag
    rw [OrderedMap.get?_insert, indexed.exactly]
    split
    · rename_i same
      simp [same, absent]
    · rename_i different
      simp [different]
  cases carried : tagOf value with
  | none =>
    refine ⟨fun tag other => ?_, indexed.once, indexed.occupied⟩
    rw [stored]
    simp [link, carried]
  | some new =>
    refine ⟨fun tag other => ?_, fun tag => ?_, fun tag => ?_⟩
    · rw [listed_link, stored, carried]
      split
      · rename_i same
        subst same
        simp [or_comm]
      · rename_i different
        simp [Ne.symm different]
    · rw [listed_link]
      split
      · refine List.nodup_append.mpr ⟨indexed.once new, List.nodup_singleton key, ?_⟩
        intro other member last single same
        subst same
        rw [List.mem_singleton.mp single] at member
        exact unlisted new member
      · exact indexed.once tag
    · simp only [link, OrderedMap.get?_insert]
      split
      · simp
      · exact indexed.occupied tag

theorem Indexed.mem_lookup (indexed : Indexed primary tagOf index) {value : ν} :
    value ∈ (listed index tag).filterMap primary.get? ↔
      ∃ key, primary.get? key = some value ∧ tagOf value = some tag := by
  rw [List.mem_filterMap]
  constructor
  · rintro ⟨key, member, present⟩
    obtain ⟨found, known, tagged⟩ := (indexed.exactly tag key).mp member
    cases present.symm.trans known
    exact ⟨key, present, tagged⟩
  · rintro ⟨key, present, tagged⟩
    exact ⟨key, (indexed.exactly tag key).mpr ⟨value, present, tagged⟩, present⟩

theorem Indexed.lookup_nodup (indexed : Indexed primary tagOf index) {keyOf : ν → κ}
    (keyed : ∀ key value, primary.get? key = some value → keyOf value = key) (tag : ι) :
    ((listed index tag).filterMap primary.get?).Nodup := by
  refine (indexed.once tag).filterMap ?_
  intro a b value left right
  rw [← keyed a value left, keyed b value right]

end Rules

end ReverseIndex
