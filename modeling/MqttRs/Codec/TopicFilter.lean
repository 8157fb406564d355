import MqttRs.Library.Levels

namespace MqttRs

def containsWildcard (text : String) : Bool := text.toList.contains '+' || text.toList.contains '#'

/-- `text.starts_with("$share/")` -/
def startsWithShare (text : String) : Bool := "$share/".toList.isPrefixOf text.toList

def isValidLevel (level : List Char) (last : Bool) : Bool :=
  if level.contains '#' && (level != ['#'] || !last) then false
  else if level.contains '+' && level != ['+'] then false
  else true

def areValidLevels : List (List Char) → Bool
  | [] => true
  | level :: rest => isValidLevel level rest.isEmpty && areValidLevels rest

def isValidTopicFilterChars (filter : List Char) : Bool :=
  if filter.isEmpty then false else areValidLevels (filter.splitOn '/')

def isValidTopicFilter (filter : String) : Bool := isValidTopicFilterChars filter.toList

def isValidV5TopicFilter (filter : String) : Bool :=
  if startsWithShare filter then
    let rest := filter.toList.drop "$share/".length
    if rest.contains '/' then
      let shareName := rest.takeWhile (· != '/')
      let actualFilter := (rest.dropWhile (· != '/')).tail
      if shareName.isEmpty || shareName.contains '+' || shareName.contains '#' then false
      else isValidTopicFilterChars actualFilter
    else false
  else isValidTopicFilter filter

/-- The grammar of topic filters, by the places where wildcards stand. -/
structure FollowsGrammar (filter : String) : Prop where
  nonempty : filter ≠ ""
  multiLevel : Levels.Closes '/' '#' filter.toList
  singleLevel : Levels.Fills '/' '+' filter.toList

def IsSharedFilter (text : String) : Prop :=
  ∃ shareName filter : String, text = "$share/" ++ shareName ++ "/" ++ filter ∧ shareName ≠ "" ∧
    (∀ c ∈ shareName.toList, c ≠ '/' ∧ c ≠ '+' ∧ c ≠ '#') ∧ FollowsGrammar filter

section Grammar

variable {level text : List Char}

theorem isValidLevel_iff {last : Bool} : isValidLevel level last = true ↔
    ('#' ∈ level → level = ['#'] ∧ last = true) ∧ ('+' ∈ level → level = ['+']) := by
  rw [isValidLevel]
  by_cases hash : '#' ∈ level
  · by_cases alone : level = ['#']
    · subst alone
      cases last <;> decide
    · simp [hash, alone]
  · simp [hash, imp_iff_not_or]

theorem areValidLevels_iff (text : List Char) : areValidLevels (text.splitOn '/') = true ↔
    Levels.Closes '/' '#' text ∧ Levels.Fills '/' '+' text := by
  induction text using @Levels.induction Char '/' with
  | single level absent =>
    rw [List.splitOn_eq_singleton absent, Levels.closes_single absent, Levels.fills_single absent]
    simp [areValidLevels, isValidLevel_iff]
  | more level rest absent ih =>
    have behind : (rest.splitOn '/').isEmpty = false := by simp
    rw [List.splitOn_append_cons_self_of_not_mem absent, Levels.closes_append (by decide),
      Levels.fills_append absent (by decide), areValidLevels, behind, Bool.and_eq_true, ih, isValidLevel_iff]
    simp only [Bool.false_eq_true, and_false, imp_false]
    exact and_and_and_comm

theorem isValidTopicFilterChars_iff : isValidTopicFilterChars text = true ↔
    text ≠ [] ∧ Levels.Closes '/' '#' text ∧ Levels.Fills '/' '+' text := by
  rw [isValidTopicFilterChars, ← areValidLevels_iff]
  cases text <;> simp

end Grammar

theorem isValidTopicFilter_iff (filter : String) : isValidTopicFilter filter = true ↔ FollowsGrammar filter := by
  rw [isValidTopicFilter, isValidTopicFilterChars_iff, ne_eq, String.toList_eq_nil_iff]
  constructor
  · intro parts
    exact ⟨parts.1, parts.2.1, parts.2.2⟩
  · intro grammar
    exact ⟨grammar.nonempty, grammar.multiLevel, grammar.singleLevel⟩

theorem startsWithShare_iff {filter : String} : startsWithShare filter = true ↔ ∃ rest, filter = "$share/" ++ rest := by
  rw [startsWithShare, List.isPrefixOf_iff_prefix]
  constructor
  · intro front
    obtain ⟨rest, whole⟩ := front
    refine ⟨String.ofList rest, String.toList_inj.mp ?_⟩
    rw [String.toList_append, ← whole]
    exact congrArg _ String.toList_ofList.symm
  · intro front
    obtain ⟨rest, rfl⟩ := front
    rw [String.toList_append]
    exact List.prefix_append _ _

theorem isValidV5TopicFilter_shared {filter : String} {shareName actualFilter : List Char}
    (whole : filter.toList = "$share/".toList ++ (shareName ++ '/' :: actualFilter)) (absent : '/' ∉ shareName) :
    isValidV5TopicFilter filter = true ↔
      shareName ≠ [] ∧ '+' ∉ shareName ∧ '#' ∉ shareName ∧ isValidTopicFilterChars actualFilter = true := by
  have shared : startsWithShare filter = true := by
    rw [startsWithShare, whole, List.isPrefixOf_iff_prefix]
    exact List.prefix_append _ _
  have rest : filter.toList.drop "$share/".length = shareName ++ '/' :: actualFilter := by
    rw [whole]
    exact List.drop_left
  have slash : (shareName ++ '/' :: actualFilter).contains '/' = true := by simp
  rw [isValidV5TopicFilter, if_pos shared]
  simp only [rest, slash, ↓reduceIte, Levels.takeWhile_level absent, Levels.dropWhile_level absent, List.tail_cons]
  by_cases named : shareName.isEmpty || shareName.contains '+' || shareName.contains '#'
  · rw [if_pos named]
    simp only [Bool.or_eq_true, List.isEmpty_iff, List.contains_iff_mem] at named
    simp only [Bool.false_eq_true, false_iff]
    intro parts
    rcases named with (empty | plus) | hash
    · exact parts.1 empty
    · exact parts.2.1 plus
    · exact parts.2.2.1 hash
  · rw [if_neg named]
    simp only [Bool.or_eq_true, List.isEmpty_iff, List.contains_iff_mem, not_or] at named
    simp [named]

theorem isSharedFilter_iff {rest : String} : IsSharedFilter ("$share/" ++ rest) ↔
    ∃ shareName actualFilter, rest.toList = shareName ++ '/' :: actualFilter ∧ '/' ∉ shareName ∧ shareName ≠ [] ∧
      '+' ∉ shareName ∧ '#' ∉ shareName ∧ isValidTopicFilterChars actualFilter = true := by
  constructor
  · intro shared
    obtain ⟨shareName, filter, whole, named, plain, grammar⟩ := shared
    refine ⟨shareName.toList, filter.toList, ?_, ?_, ?_, ?_, ?_, (isValidTopicFilter_iff filter).mpr grammar⟩
    · rw [String.append_assoc, String.append_assoc] at whole
      have behind := congrArg String.toList whole
      simp only [String.toList_append] at behind
      exact List.append_cancel_left behind
    · exact fun member => (plain _ member).1 rfl
    · exact fun empty => named (String.toList_eq_nil_iff.mp empty)
    · exact fun member => (plain _ member).2.1 rfl
    · exact fun member => (plain _ member).2.2 rfl
  · intro parts
    obtain ⟨shareName, actualFilter, whole, slash, named, plus, hash, valid⟩ := parts
    refine ⟨String.ofList shareName, String.ofList actualFilter, ?_, ?_, ?_, ?_⟩
    · rw [String.append_assoc, String.append_assoc]
      refine congrArg _ (String.toList_inj.mp ?_)
      simp only [whole, String.toList_append, String.toList_ofList]
      rfl
    · intro empty
      exact named (by simpa using empty)
    · intro c member
      rw [String.toList_ofList] at member
      refine ⟨?_, ?_, ?_⟩
      · exact fun same => slash (same ▸ member)
      · exact fun same => plus (same ▸ member)
      · exact fun same => hash (same ▸ member)
    · apply (isValidTopicFilter_iff _).mp
      rw [isValidTopicFilter, String.toList_ofList]
      exact valid

theorem isValidV5TopicFilter_iff_shared {rest : String} :
    isValidV5TopicFilter ("$share/" ++ rest) = true ↔ IsSharedFilter ("$share/" ++ rest) := by
  rw [isSharedFilter_iff]
  constructor
  · intro valid
    by_cases slash : '/' ∈ rest.toList
    · obtain ⟨shareName, actualFilter, whole, absent⟩ := List.eq_append_cons_of_mem slash
      have front : ("$share/" ++ rest).toList = "$share/".toList ++ (shareName ++ '/' :: actualFilter) := by
        rw [String.toList_append, whole]
      exact ⟨shareName, actualFilter, whole, absent, (isValidV5TopicFilter_shared front absent).mp valid⟩
    · have behind : ("$share/" ++ rest).toList.drop "$share/".length = rest.toList := by
        rw [String.toList_append]
        exact List.drop_left
      have none : rest.toList.contains '/' = false := by simpa using slash
      rw [isValidV5TopicFilter, if_pos (startsWithShare_iff.mpr ⟨rest, rfl⟩)] at valid
      simp only [behind, none, Bool.false_eq_true, ↓reduceIte] at valid
  · intro parts
    obtain ⟨shareName, actualFilter, whole, absent, parts⟩ := parts
    refine (isValidV5TopicFilter_shared ?_ absent).mpr parts
    rw [String.toList_append, whole]

/-- Both validators accept exactly the grammar: of a plain filter, and of one behind `$share/{ShareName}/`. -/
theorem topic_filters_grammar (filter : String) :
    (isValidTopicFilter filter = true ↔ FollowsGrammar filter) ∧
      (isValidV5TopicFilter filter = true ↔
        ((¬∃ rest, filter = "$share/" ++ rest) ∧ FollowsGrammar filter) ∨ IsSharedFilter filter) := by
  refine ⟨isValidTopicFilter_iff filter, ?_⟩
  by_cases shared : ∃ rest, filter = "$share/" ++ rest
  · simp only [shared, not_true_eq_false, false_and, false_or]
    obtain ⟨rest, rfl⟩ := shared
    exact isValidV5TopicFilter_iff_shared
  · have other : ¬IsSharedFilter filter := by
      intro wrong
      obtain ⟨shareName, actualFilter, whole, -⟩ := wrong
      rw [String.append_assoc, String.append_assoc] at whole
      exact shared ⟨_, whole⟩
    rw [isValidV5TopicFilter, if_neg (mt startsWithShare_iff.mp shared), isValidTopicFilter_iff]
    simp only [shared, other, not_false_eq_true, true_and, or_false]

example : isValidV5TopicFilter "$share/group//a" = true := by decide

example : isValidV5TopicFilter "$share/gr+up/a/b" = false := by decide

end MqttRs
