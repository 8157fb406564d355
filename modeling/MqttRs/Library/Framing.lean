import Mathlib.Data.List.Infix

/-! Splitting a stream into frames, whole or while it still grows. -/

/-- What stands at the front of a stream: a part of a frame, something that ends the framing, or a frame. -/
inductive FrameFront (α β : Type) where
  | incomplete
  | broken (last : β)
  | frame (item : β) (rest : List α)

/-- A way to split streams whose answer, once given, does not change when the stream grows. -/
structure Framer (α β : Type) where
  front : List α → FrameFront α β
  shrinks : ∀ {stream item rest}, front stream = .frame item rest → rest.length < stream.length
  frame_append : ∀ {stream item rest}, front stream = .frame item rest → ∀ more,
    front (stream ++ more) = .frame item (rest ++ more)
  broken_append : ∀ {stream last}, front stream = .broken last → ∀ more, front (stream ++ more) = .broken last

namespace Framer

variable {α β : Type} {framer : Framer α β} {stream left rest : List α} {taken : List β} {item last : β}

/-- All the frames of a stream, up to an incomplete one or to what ends the framing. -/
def results (framer : Framer α β) (stream : List α) : List β :=
  match _split : framer.front stream with
  | .incomplete => []
  | .broken last => [last]
  | .frame item rest => item :: framer.results rest
termination_by stream.length
decreasing_by exact framer.shrinks _split

theorem results_incomplete (front : framer.front stream = .incomplete) : framer.results stream = [] := by
  rw [results]
  split <;> rename_i other <;> rw [front] at other <;> cases other

theorem results_broken (front : framer.front stream = .broken last) : framer.results stream = [last] := by
  rw [results]
  split <;> rename_i other <;> rw [front] at other <;> cases other
  rfl

theorem results_frame (front : framer.front stream = .frame item rest) :
    framer.results stream = item :: framer.results rest := by
  rw [results]
  split <;> rename_i other <;> rw [front] at other <;> cases other
  rfl

/-- What was taken off a stream and what is left of it make up its frames, however the stream goes on. -/
def Splits (framer : Framer α β) (stream : List α) (taken : List β) (left : List α) : Prop :=
  ∀ more, framer.results (stream ++ more) = taken ++ framer.results (left ++ more)

def Ends (framer : Framer α β) (stream : List α) (taken : List β) : Prop :=
  ∀ more, framer.results (stream ++ more) = taken

theorem Splits.refl (framer : Framer α β) (stream : List α) : framer.Splits stream [] stream :=
  fun _ => rfl

theorem Splits.append (splits : framer.Splits stream taken left) (data : List α) :
    framer.Splits (stream ++ data) taken (left ++ data) := by
  intro more
  rw [List.append_assoc, List.append_assoc]
  exact splits (data ++ more)

theorem Ends.append (ends : framer.Ends stream taken) (data : List α) : framer.Ends (stream ++ data) taken := by
  intro more
  rw [List.append_assoc]
  exact ends (data ++ more)

theorem Splits.frame (splits : framer.Splits stream taken left) (front : framer.front left = .frame item rest) :
    framer.Splits stream (taken ++ [item]) rest := by
  intro more
  have longer := framer.frame_append front more
  rw [splits more, results_frame longer, List.append_assoc, List.singleton_append]

theorem Splits.broken (splits : framer.Splits stream taken left) (front : framer.front left = .broken last) :
    framer.Ends stream (taken ++ [last]) := by
  intro more
  have longer := framer.broken_append front more
  rw [splits more, results_broken longer]

theorem Splits.taken_prefix (splits : framer.Splits stream taken left) : taken <+: framer.results stream := by
  have whole := splits []
  rw [List.append_nil] at whole
  rw [whole]
  exact List.prefix_append _ _

theorem Splits.taken_eq (splits : framer.Splits stream taken left) (front : framer.front left = .incomplete) :
    taken = framer.results stream := by
  have whole := splits []
  rw [List.append_nil, List.append_nil, results_incomplete front, List.append_nil] at whole
  exact whole.symm

theorem Ends.taken_eq (ends : framer.Ends stream taken) : taken = framer.results stream := by
  have whole := ends []
  rw [List.append_nil] at whole
  exact whole.symm

/-- The framer takes exactly this code off a stream, and nothing off a beginning of it. -/
structure Codeword (framer : Framer α β) (code : List α) (item : β) : Prop where
  whole : ∀ more, framer.front (code ++ more) = .frame item more
  part : ∀ {part}, part <+: code → part ≠ code → framer.front part = .incomplete

/-- This code ends the framing, some beginnings of it already do, and nothing is taken off the others. -/
structure Stopper (framer : Framer α β) (code : List α) (last : β) : Prop where
  whole : ∀ more, framer.front (code ++ more) = .broken last
  part : ∀ {part}, part <+: code → framer.front part = .incomplete ∨ framer.front part = .broken last

/-- What the framer makes of one code after another: the item of each, up to one that ends the framing. -/
inductive Carries (framer : Framer α β) : List (List α) → List β → Prop
  | nil : Carries framer [] []
  | frame {code : List α} {item : β} {codes : List (List α)} {items : List β} (first : framer.Codeword code item)
      (rest : Carries framer codes items) : Carries framer (code :: codes) (item :: items)
  | broken {code : List α} {last : β} {codes : List (List α)} (first : framer.Stopper code last) :
      Carries framer (code :: codes) [last]

namespace Carries

variable {codes : List (List α)} {items : List β}

theorem prefix_results (carries : framer.Carries codes items) (more : List α) :
    items <+: framer.results (codes.flatten ++ more) := by
  induction carries with
  | nil => exact List.nil_prefix
  | frame first rest ih =>
    rw [List.flatten_cons, List.append_assoc, results_frame (first.whole _)]
    exact List.cons_prefix_cons.mpr ⟨rfl, ih⟩
  | broken first =>
    rw [List.flatten_cons, List.append_assoc, results_broken (first.whole _)]

theorem results_prefix (carries : framer.Carries codes items) (nothing : framer.front [] = .incomplete)
    (starts : stream <+: codes.flatten) : framer.results stream <+: items := by
  induction carries generalizing stream with
  | nil =>
    obtain rfl := List.prefix_nil.mp starts
    rw [results_incomplete nothing]
  | frame first rest ih =>
    rename_i code item codes items
    rw [List.flatten_cons] at starts
    rcases List.prefix_or_prefix_of_prefix (List.prefix_append code codes.flatten) starts with ⟨more, rfl⟩ | short
    · rw [results_frame (first.whole more)]
      exact List.cons_prefix_cons.mpr ⟨rfl, ih ((List.prefix_append_right_inj code).mp starts)⟩
    · by_cases whole : stream = code
      · have alone := first.whole []
        rw [List.append_nil, ← whole] at alone
        rw [results_frame alone]
        exact List.cons_prefix_cons.mpr ⟨rfl, ih List.nil_prefix⟩
      · rw [results_incomplete (first.part short whole)]
        exact List.nil_prefix
  | broken first =>
    rename_i code last codes
    rw [List.flatten_cons] at starts
    rcases List.prefix_or_prefix_of_prefix (List.prefix_append code codes.flatten) starts with ⟨more, rfl⟩ | short
    · rw [results_broken (first.whole more)]
    · rcases first.part short with waits | ends
      · rw [results_incomplete waits]
        exact List.nil_prefix
      · rw [results_broken ends]

end Carries

/-- A stream of the codes of these items, one behind the other: to the framer, a queue of items. -/
inductive Holds (framer : Framer α β) : List α → List β → Prop
  | nil : Holds framer [] []
  | cons {code stream : List α} {item : β} {items : List β} (first : framer.Codeword code item)
      (behind : Holds framer stream items) : Holds framer (code ++ stream) (item :: items)

namespace Holds

variable {code part more : List α} {items : List β}

theorem snoc (holds : framer.Holds stream items) (last : framer.Codeword code item) :
    framer.Holds (stream ++ code) (items ++ [item]) := by
  induction holds with
  | nil => simpa using Holds.cons last .nil
  | cons first behind ih =>
    rw [List.append_assoc, List.cons_append]
    exact .cons first ih

theorem eq_nil (holds : framer.Holds stream []) : stream = [] := by
  cases holds
  rfl

theorem front_cases (holds : framer.Holds (part ++ more) items) (nothing : framer.front [] = .incomplete) :
    framer.front part = .incomplete ∧ (more = [] → items = []) ∨
      ∃ item left rest, items = item :: rest ∧ framer.front part = .frame item left ∧
        framer.Holds (left ++ more) rest := by
  generalize whole : part ++ more = stream at holds
  cases holds with
  | nil =>
    obtain ⟨rfl, -⟩ := List.append_eq_nil_iff.mp whole
    exact .inl ⟨nothing, fun _ => rfl⟩
  | cons first behind =>
    rename_i code stream item items
    rcases List.append_eq_append_iff.mp whole with ⟨missing, rfl, rfl⟩ | ⟨left, rfl, rfl⟩
    · by_cases complete : missing = []
      · subst complete
        refine .inr ⟨item, [], items, rfl, ?_, behind⟩
        have front := first.whole []
        rwa [List.append_nil, List.append_nil] at front
      · have strict : part ≠ part ++ missing := fun same => complete (by simpa using same)
        refine .inl ⟨first.part (List.prefix_append _ _) strict, fun empty => ?_⟩
        exact absurd (List.append_eq_nil_iff.mp empty).1 complete
    · exact .inr ⟨item, left, items, rfl, first.whole left, behind⟩

end Holds

end Framer
