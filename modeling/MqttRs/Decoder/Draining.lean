import MqttRs.Decoder.BufferBound
import MqttRs.Library.Loops

namespace MqttRs

namespace Decoder

/-- One turn of a caller's loop that calls `decode` until it returns `Ok(None)` and goes on after errors. -/
def drainTurn (d : Decoder) : Option (Loops.Turn Decoder (Except DecodeError VersionedIncomingPacket)) :=
  match d.decode with
  | (.ok none, d) => some (.done d)
  | (.ok (some packet), d) => some (.again (.ok packet) d)
  | (.error reason, d) => some (.again (.error reason) d)
  | (.panic, _) | (.hang, _) => none

def drain (d : Decoder) (calls : Nat) : Option (List (Except DecodeError VersionedIncomingPacket) × Decoder) :=
  Loops.repeatFor drainTurn calls d

/-- A call of `decode` asks for more bytes and consumes none, or consumes two at least, so that a loop of calls ends. -/
structure Drains (d : Decoder) : Prop where
  returns : d.decode.1.Returns
  consumes : d.decode.1 ≠ .ok none → d.decode.2.pending.length + 2 ≤ d.pending.length
  waits : d.decode.1 = .ok none → d.decode.2.pending = d.pending
  ends : ∃ results e, d.drain (d.pending.length / 2 + 1) = some (results, e) ∧ results.length ≤ d.pending.length / 2

section Measure

variable {d : Decoder} {reason : DecodeError} {rlenLen remainingLength : Nat}

theorem readHeader_broken_length {limits : Limits} {bytes : List UInt8} (read : readHeader limits bytes = .broken reason) :
    2 ≤ bytes.length := by
  match bytes with
  | [] => cases read
  | [_] => cases read
  | _ :: _ :: rest => exact Nat.le_add_left 2 rest.length

theorem header_broken_length (front : d.header = .broken reason) : 2 ≤ d.pending.length := by
  rcases d.header_cases with ⟨_, _, -, cached⟩ | ⟨-, read⟩
  · rw [cached] at front
    cases front
  · exact readHeader_broken_length (read.symm.trans front)

theorem header_frame_length (wellformed : d.Wellformed) (front : d.header = .frame rlenLen remainingLength) :
    1 ≤ rlenLen := by
  obtain ⟨-, -, -, shortest, -⟩ := header_front wellformed front
  rw [shortest]
  exact List.length_pos_of_ne_nil (Base128.digits_ne_nil 3 remainingLength)

theorem decode_consumes (wellformed : d.Wellformed) :
    (d.decode.1 = .ok none ∧ d.decode.2.pending = d.pending) ∨
      (d.decode.1 ≠ .ok none ∧ d.decode.2.pending.length + 2 ≤ d.pending.length) := by
  rcases decode_cases wellformed with
    ⟨-, waiting, -, result⟩ | ⟨reason, front, result⟩ | ⟨rlenLen, remainingLength, -, -, result⟩ |
    ⟨rlenLen, remainingLength, answer, front, complete, -, result⟩ <;> rw [result]
  · exact .inl ⟨rfl, rfl⟩
  · refine .inr ⟨?_, header_broken_length front⟩
    intro wrong
    cases wrong
  · exact .inl ⟨rfl, rfl⟩
  · have one := header_frame_length wellformed front
    refine .inr ⟨?_, ?_⟩
    · intro wrong
      cases answer <;> cases wrong
    · rw [pending_consume, List.length_drop]
      omega

theorem drainTurn_comesBack (wellformed : d.Wellformed) : d.drainTurn ≠ none := by
  have returns := decode_returns wellformed
  unfold drainTurn
  split <;> rename_i called
  · exact Option.some_ne_none _
  · exact Option.some_ne_none _
  · exact Option.some_ne_none _
  · rw [called] at returns
    exact returns.elim
  · rw [called] at returns
    exact returns.elim

theorem drainTurn_again {result : Except DecodeError VersionedIncomingPacket} {e : Decoder}
    (turned : d.drainTurn = some (.again result e)) : d.decode.1 ≠ .ok none ∧ d.decode.2 = e := by
  unfold drainTurn at turned
  split at turned <;> rename_i called <;> cases turned <;> rw [called]
  · exact ⟨by simp, rfl⟩
  · exact ⟨by simp, rfl⟩

theorem drainTurn_shrinks : Loops.Shrinks drainTurn Wellformed (fun d => d.pending.length) 2 where
  comesBack := drainTurn_comesBack
  smaller {d result e} wellformed turned := by
    obtain ⟨goes, rfl⟩ := drainTurn_again turned
    refine ⟨decode_wellformed wellformed, ?_⟩
    rcases decode_consumes wellformed with ⟨stops, -⟩ | ⟨-, fewer⟩
    · exact absurd stops goes
    · exact fewer

theorem Wellformed.drains (wellformed : d.Wellformed) : d.Drains where
  returns := decode_returns wellformed
  consumes goes := by
    rcases decode_consumes wellformed with ⟨stops, -⟩ | ⟨-, fewer⟩
    · exact absurd stops goes
    · exact fewer
  waits stops := by
    rcases decode_consumes wellformed with ⟨-, same⟩ | ⟨goes, -⟩
    · exact same
    · exact absurd stops goes
  ends := drainTurn_shrinks.ends_within (by decide) wellformed

end Measure

/-- In every state of every run, whatever the limits were set to, calling `decode` until it asks for more bytes ends. -/
theorem draining_terminates {version : MqttVersion} {limits : Limits} {ops : List DecoderOp} {d : Decoder}
    (run : Run (Steps next) ((new version).withLimits limits) ops d) : d.Drains := by
  have wellformed := run.invariant next_wellformed (new_wellformed version limits)
  exact wellformed.drains

def threeFramesRun : List DecoderOp := [.feed [0xD0, 0x00, 0xC0, 0x00, 0x40], .setLimits { maxPacketSize := 4 }]

theorem threeFramesRun_drains :
    ∃ d, Run (Steps next) ((new .v5).withLimits .new) threeFramesRun d ∧
      (d.drain 3).map (fun ended => (ended.1.length, ended.2.pending)) = some (2, [0x40]) ∧ d.Drains := by
  have completes : (runFrom next ((new .v5).withLimits .new) threeFramesRun).any (fun d =>
      decide ((d.drain 3).map (fun ended => (ended.1.length, ended.2.pending)) = some (2, [0x40]))) = true := by decide
  obtain ⟨d, ends, drained⟩ := (Option.any_eq_true _ _).mp completes
  have run := run_of_runFrom ends
  exact ⟨d, run, of_decide_eq_true drained, draining_terminates run⟩

end Decoder

end MqttRs
