import MqttRs.Library.Reader
import MqttRs.Library.Writer

/-! Readers that take exactly what a writer writes. -/

namespace ByteReader

variable {ε ε' α : Type}

def Inverts (reader : ByteReader ε α) (accepts : α → Prop) (writer : α → ByteWriter ε') : Prop :=
  ∀ bytes value rest, reader.Reads bytes value rest ↔
    accepts value ∧ ∃ front, (writer value).Writes front ∧ bytes = front ++ rest

/-- A loop over items reads what a loop over the values writes. -/
theorem Inverts.readsAll_iff {item : ByteReader ε α} {accepts : α → Prop} {writer : α → ByteWriter ε'}
    (inverts : item.Inverts accepts writer) {bytes : List UInt8} {values : List α} :
    item.ReadsAll bytes values ↔ (∀ value ∈ values, accepts value) ∧ (ByteWriter.each writer values).Writes bytes := by
  induction values generalizing bytes with
  | nil => simp [ReadsAll, ByteWriter.each]
  | cons value values ih =>
    simp only [ReadsAll, ByteWriter.each, ByteWriter.writes_append, List.forall_mem_cons, inverts _ _ _, ih]
    constructor
    · intro read
      obtain ⟨rest, ⟨accepted, front, writes, rfl⟩, allAccepted, written⟩ := read
      exact ⟨⟨accepted, allAccepted⟩, front, rest, writes, written, rfl⟩
    · intro written
      obtain ⟨⟨accepted, allAccepted⟩, front, rest, writes, written, rfl⟩ := written
      exact ⟨rest, ⟨accepted, front, writes, rfl⟩, allAccepted, written⟩

/-- A reader takes at least one byte when its writer never writes nothing. -/
theorem Inverts.consumes {item : ByteReader ε α} {accepts : α → Prop} {writer : α → ByteWriter ε'}
    (inverts : item.Inverts accepts writer) (positive : ∀ value, 0 < (writer value).size) : item.Consumes := by
  intro bytes value rest read
  obtain ⟨_, front, writes, rfl⟩ := (inverts _ _ _).mp read
  have length := (writer value).length_bytes writes
  have nonempty := positive value
  rw [List.length_append]
  omega

end ByteReader
