import Mathlib.Data.List.Nodup
import MqttRs.Library.Runs

/-- Messages handed over under reusable keys: which one each key carries, and the messages that the receiver has
    accepted and the sender has seen through, in order. Messages are numbered as they are published. -/
structure Delivery (κ : Type) where
  inProgress : κ → Option Nat
  published : Nat
  accepted : List Nat
  completed : List Nat

namespace Delivery

variable {κ : Type}

inductive Event (κ : Type) where
  | publish (key : κ)
  | accept (key : κ)
  | complete (key : κ)
  | internal

def empty : Delivery κ := { inProgress := fun _ => none, published := 0, accepted := [], completed := [] }

/-- Exactly-once delivery: nothing is accepted or completed twice, what is completed was accepted, and what was
    published is completed or still carried by its key. -/
structure ExactlyOnce (d : Delivery κ) : Prop where
  acceptedOnce : d.accepted.Nodup
  completedOnce : d.completed.Nodup
  completedAccepted : ∀ message ∈ d.completed, message ∈ d.accepted
  kept : ∀ message, message < d.published → message ∈ d.completed ∨ ∃ key, d.inProgress key = some message

/-- What exactly-once delivery rests on: messages in progress are distinct, published and not completed. -/
structure Sound (d : Delivery κ) : Prop extends ExactlyOnce d where
  acceptedPublished : ∀ message ∈ d.accepted, message < d.published
  carriedPublished : ∀ key message, d.inProgress key = some message → message < d.published
  distinct : ∀ key other message, d.inProgress key = some message → d.inProgress other = some message → key = other
  carriedOpen : ∀ key message, d.inProgress key = some message → message ∉ d.completed

theorem empty_sound : Sound (empty : Delivery κ) where
  acceptedOnce := .nil
  completedOnce := .nil
  completedAccepted := nofun
  kept := nofun
  acceptedPublished := nofun
  carriedPublished := nofun
  distinct := nofun
  carriedOpen := nofun

theorem accept_sound {d : Delivery κ} {key : κ} {message : Nat} (sound : d.Sound)
    (carried : d.inProgress key = some message) (new : message ∉ d.accepted) :
    Sound { d with accepted := d.accepted ++ [message] } where
  acceptedOnce := List.nodup_append.mpr ⟨sound.acceptedOnce, List.nodup_singleton _, fun a member b last => by
    rw [List.mem_singleton.mp last]
    exact fun same => new (same ▸ member)⟩
  completedOnce := sound.completedOnce
  completedAccepted m member := List.mem_append_left _ (sound.completedAccepted m member)
  kept := sound.kept
  acceptedPublished m member := by
    rcases List.mem_append.mp member with old | last
    · exact sound.acceptedPublished m old
    · rw [List.mem_singleton.mp last]
      exact sound.carriedPublished key message carried
  carriedPublished := sound.carriedPublished
  distinct := sound.distinct
  carriedOpen := sound.carriedOpen

theorem log_sound {d : Delivery κ} {key : κ} {message : Nat} {log : List Nat} (sound : d.Sound)
    (logged : d.accepted = log.eraseDups) (carried : d.inProgress key = some message) :
    Sound { d with accepted := (log ++ [message]).eraseDups } := by
  by_cases known : message ∈ log
  · have again : (log ++ [message]).eraseDups = d.accepted := by
      simp [logged, List.eraseDups_append, List.removeAll, known]
    rw [again]
    exact sound
  · have first : (log ++ [message]).eraseDups = d.accepted ++ [message] := by
      have alone : [message].removeAll log = [message] := by simp [List.removeAll, known]
      rw [List.eraseDups_append, alone, logged]
      rfl
    rw [first]
    exact accept_sound sound carried (by simpa [logged] using known)

variable [DecidableEq κ]

inductive Step : Delivery κ → Event κ → Delivery κ → Prop
  | publish (d : Delivery κ) (key : κ) (free : d.inProgress key = none) :
      Step d (.publish key)
        { d with
          inProgress := Function.update d.inProgress key (some d.published)
          published := d.published + 1 }
  | accept (d : Delivery κ) (key : κ) (message : Nat) (carried : d.inProgress key = some message)
      (new : message ∉ d.accepted) :
      Step d (.accept key) { d with accepted := d.accepted ++ [message] }
  | complete (d : Delivery κ) (key : κ) (message : Nat) (carried : d.inProgress key = some message)
      (done : message ∈ d.accepted) :
      Step d (.complete key)
        { d with inProgress := Function.update d.inProgress key none, completed := d.completed ++ [message] }
  | internal (d : Delivery κ) : Step d .internal d

theorem update_eq_some {f : κ → Option Nat} {key other : κ} {value : Option Nat} {message : Nat}
    (found : Function.update f key value other = some message) :
    (other = key ∧ value = some message) ∨ (other ≠ key ∧ f other = some message) := by
  by_cases same : other = key
  · subst same
    exact .inl ⟨rfl, by simpa using found⟩
  · exact .inr ⟨same, by simpa [same] using found⟩

theorem publish_sound {d : Delivery κ} {key : κ} (sound : d.Sound) (free : d.inProgress key = none) :
    Sound { d with
      inProgress := Function.update d.inProgress key (some d.published)
      published := d.published + 1 } where
  acceptedOnce := sound.acceptedOnce
  completedOnce := sound.completedOnce
  completedAccepted := sound.completedAccepted
  kept message below := by
    rcases Nat.lt_succ_iff_lt_or_eq.mp below with old | rfl
    · refine (sound.kept message old).imp_right fun ⟨carrier, carried⟩ => ⟨carrier, ?_⟩
      have other : carrier ≠ key := fun same => by simp [same, free] at carried
      simpa [other] using carried
    · exact .inr ⟨key, by simp⟩
  acceptedPublished message member := Nat.lt_succ_of_lt (sound.acceptedPublished message member)
  carriedPublished carrier message carried := by
    rcases update_eq_some carried with ⟨-, new⟩ | ⟨-, old⟩
    · cases new
      exact Nat.lt_succ_self _
    · exact Nat.lt_succ_of_lt (sound.carriedPublished carrier message old)
  distinct first second message carriedFirst carriedSecond := by
    rcases update_eq_some carriedFirst with ⟨rfl, new⟩ | ⟨-, old⟩ <;>
      rcases update_eq_some carriedSecond with ⟨same, new'⟩ | ⟨-, old'⟩
    · exact same.symm
    · cases new
      exact absurd (sound.carriedPublished _ _ old') (Nat.lt_irrefl _)
    · cases new'
      exact absurd (sound.carriedPublished _ _ old) (Nat.lt_irrefl _)
    · exact sound.distinct first second message old old'
  carriedOpen carrier message carried := by
    rcases update_eq_some carried with ⟨-, new⟩ | ⟨-, old⟩
    · cases new
      intro member
      exact absurd (sound.acceptedPublished _ (sound.completedAccepted _ member)) (Nat.lt_irrefl _)
    · exact sound.carriedOpen carrier message old

theorem complete_sound {d : Delivery κ} {key : κ} {message : Nat} (sound : d.Sound)
    (carried : d.inProgress key = some message) (done : message ∈ d.accepted) :
    Sound { d with
      inProgress := Function.update d.inProgress key none
      completed := d.completed ++ [message] } where
  acceptedOnce := sound.acceptedOnce
  completedOnce := List.nodup_append.mpr ⟨sound.completedOnce, List.nodup_singleton _, fun a member b last => by
    rw [List.mem_singleton.mp last]
    exact fun same => sound.carriedOpen key message carried (same ▸ member)⟩
  completedAccepted m member := by
    rcases List.mem_append.mp member with old | last
    · exact sound.completedAccepted m old
    · exact List.mem_singleton.mp last ▸ done
  kept m below := by
    rcases sound.kept m below with old | ⟨carrier, found⟩
    · exact .inl (List.mem_append_left _ old)
    · by_cases same : carrier = key
      · subst same
        rw [carried] at found
        cases found
        exact .inl (by simp)
      · exact .inr ⟨carrier, by simpa [same] using found⟩
  acceptedPublished := sound.acceptedPublished
  carriedPublished carrier m found := by
    rcases update_eq_some found with ⟨-, new⟩ | ⟨-, old⟩
    · cases new
    · exact sound.carriedPublished carrier m old
  distinct first second m foundFirst foundSecond := by
    rcases update_eq_some foundFirst with ⟨-, new⟩ | ⟨-, old⟩
    · cases new
    rcases update_eq_some foundSecond with ⟨-, new⟩ | ⟨-, old'⟩
    · cases new
    exact sound.distinct first second m old old'
  carriedOpen carrier m found := by
    rcases update_eq_some found with ⟨-, new⟩ | ⟨other, old⟩
    · cases new
    · intro member
      rcases List.mem_append.mp member with earlier | last
      · exact sound.carriedOpen carrier m old earlier
      · rw [List.mem_singleton.mp last] at old
        exact other (sound.distinct carrier key message old carried)

theorem Step.sound {d e : Delivery κ} {event : Event κ} (step : Step d event e) (sound : d.Sound) : e.Sound := by
  cases step with
  | publish key free => exact publish_sound sound free
  | accept key message carried new => exact accept_sound sound carried new
  | complete key message carried done => exact complete_sound sound carried done
  | internal => exact sound

theorem exactly_once {d : Delivery κ} {events : List (Event κ)} (run : Run Step empty events d) : d.ExactlyOnce :=
  (run.invariant (fun sound step => step.sound sound) empty_sound).toExactlyOnce

end Delivery
