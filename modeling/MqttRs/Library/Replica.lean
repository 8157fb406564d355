import Mathlib.Logic.Function.Basic

/-- A message to a receiver that keeps a copy of the sender's table: a value outside the table, a value now
    defined under a key, or a reference to the value that the key stands for. -/
inductive TableMessage (κ ν : Type) where
  | plain (value : ν)
  | define (key : κ) (value : ν)
  | refer (key : κ)

namespace TableMessage

variable {κ ν : Type} [DecidableEq κ]

def read (table : κ → Option ν) : TableMessage κ ν → Option ν
  | plain value => some value
  | define _ value => some value
  | refer key => table key

def update (table : κ → Option ν) : TableMessage κ ν → κ → Option ν
  | define key value => Function.update table key (some value)
  | plain _ | refer _ => table

/-- Reading the messages in flight in order, each gives what was meant, and afterwards the receiver's table
    holds all of the sender's. -/
def Faithful (receiver : κ → Option ν) : List (ν × TableMessage κ ν) → (κ → Option ν) → Prop
  | [], sender => ∀ key value, sender key = some value → receiver key = some value
  | (meant, message) :: rest, sender =>
    message.read receiver = some meant ∧ Faithful (message.update receiver) rest sender

variable {sender receiver : κ → Option ν} {queue : List (ν × TableMessage κ ν)} {message : TableMessage κ ν} {meant : ν}

theorem Faithful.send (faithful : Faithful receiver queue sender) (means : message.read sender = some meant) :
    Faithful receiver (queue ++ [(meant, message)]) (message.update sender) := by
  induction queue generalizing receiver with
  | nil =>
    constructor
    · cases message with
      | plain value => exact means
      | define key value => exact means
      | refer key => exact faithful key meant means
    · intro key value known
      cases message with
      | plain value => exact faithful key _ known
      | refer key => exact faithful _ _ known
      | define changed new =>
        simp only [update, Function.update_apply] at known ⊢
        by_cases same : key = changed
        · simpa only [same, ↓reduceIte] using known
        · simp only [same, ↓reduceIte] at known ⊢
          exact faithful key value known
  | cons first rest ih => exact ⟨faithful.1, ih faithful.2⟩

theorem Faithful.deliver (faithful : Faithful receiver ((meant, message) :: queue) sender) :
    message.read receiver = some meant ∧ Faithful (message.update receiver) queue sender :=
  faithful

end TableMessage
