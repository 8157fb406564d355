import MqttRs.Library.Lists
import MqttRs.Library.MachineInt
import MqttRs.Library.OrderedMap

namespace MqttRs

inductive FlowState where
  | awaitingPuback
  | awaitingPubrec
  | awaitingPubcomp
  | awaitingPubrel
  | incomingAwaitingPuback
  deriving DecidableEq

inductive Action where
  | sendPuback (packetId : UInt16)
  | sendPubrec (packetId : UInt16) (isDuplicate : Bool)
  | sendPubrel (packetId : UInt16)
  | sendPubcomp (packetId : UInt16)
  | resendPubcomp (packetId : UInt16)
  | resendPublish (packetId : UInt16)
  | resendPubrel (packetId : UInt16)
  | complete (packetId : UInt16)
  | aborted (packetId : UInt16)
  deriving DecidableEq

inductive FlowError where
  | unknown
  | stateMismatch
  deriving DecidableEq

structure OutgoingFlow where
  seq : UInt64
  state : FlowState
  quotaCharged : Bool
  deriving DecidableEq

structure QosFlowManager where
  outgoing : OrderedMap UInt16 OutgoingFlow
  incoming : OrderedMap UInt16 FlowState
  nextSeq : UInt64
  deriving DecidableEq

namespace QosFlowManager

def new : QosFlowManager := { outgoing := .empty, incoming := .empty, nextSeq := 0 }

-- `next_seq += 1` wraps at `2^64` in a release build.
def allocateSeq (m : QosFlowManager) : UInt64 × QosFlowManager :=
  (m.nextSeq, { m with nextSeq := m.nextSeq + 1 })

def isActive (m : QosFlowManager) (packetId : UInt16) : Bool :=
  m.outgoing.contains packetId || m.incoming.contains packetId

def hasIncomingFlow (m : QosFlowManager) (packetId : UInt16) : Bool := m.incoming.contains packetId

def isQuotaCharged (m : QosFlowManager) (packetId : UInt16) : Bool :=
  (m.outgoing.get? packetId).any (fun flow => flow.quotaCharged)

def markQuotaCharged (m : QosFlowManager) (packetId : UInt16) : QosFlowManager :=
  match m.outgoing.get? packetId with
  | some flow => { m with outgoing := m.outgoing.insert packetId { flow with quotaCharged := true } }
  | none => m

def clearQuotaCharges (m : QosFlowManager) : QosFlowManager :=
  { m with outgoing := m.outgoing.mapValues (fun flow => { flow with quotaCharged := false }) }

def publishSent (m : QosFlowManager) (state : FlowState) (packetId : UInt16) : QosFlowManager :=
  if packetId = 0 || m.outgoing.contains packetId then m
  else
    let (seq, m) := m.allocateSeq
    { m with outgoing := m.outgoing.insert packetId { seq, state, quotaCharged := true } }

def publishSentQos1 (m : QosFlowManager) (packetId : UInt16) : QosFlowManager :=
  m.publishSent .awaitingPuback packetId

def publishSentQos2 (m : QosFlowManager) (packetId : UInt16) : QosFlowManager :=
  m.publishSent .awaitingPubrec packetId

/-- An acknowledgement that finishes the outgoing flow waiting for it and rejects any other flow. -/
def finalAckReceived (m : QosFlowManager) (expected : FlowState) (packetId : UInt16) :
    Except FlowError (Option Action) × QosFlowManager :=
  match m.outgoing.get? packetId with
  | some flow =>
    let m := { m with outgoing := m.outgoing.erase packetId }
    if flow.state = expected then (.ok (some (.complete packetId)), m)
    else (.error .stateMismatch, { m with outgoing := m.outgoing.insert packetId flow })
  | none =>
    if m.incoming.contains packetId then (.error .stateMismatch, m) else (.ok none, m)

def pubackReceived (m : QosFlowManager) (packetId : UInt16) :
    Except FlowError (Option Action) × QosFlowManager :=
  m.finalAckReceived .awaitingPuback packetId

def pubrecReceived (m : QosFlowManager) (packetId : UInt16) (reasonCode : UInt8) :
    Except FlowError (Option Action) × QosFlowManager :=
  if 0x80 ≤ reasonCode then
    match m.outgoing.get? packetId with
    | some flow =>
      match flow.state with
      | .awaitingPubrec =>
        (.ok (some (.aborted packetId)), { m with outgoing := m.outgoing.erase packetId })
      | _ => (.error .stateMismatch, m)
    | none =>
      if m.incoming.contains packetId then (.error .stateMismatch, m) else (.ok none, m)
  else
    match m.outgoing.get? packetId with
    | some flow =>
      let m := { m with outgoing := m.outgoing.erase packetId }
      match flow.state with
      | .awaitingPubrec =>
        let (seq, m) := m.allocateSeq
        let flow := { seq, state := .awaitingPubcomp, quotaCharged := flow.quotaCharged }
        (.ok (some (.sendPubrel packetId)), { m with outgoing := m.outgoing.insert packetId flow })
      -- A repeated PUBREC is answered again but keeps the sequence number of the first one.
      | .awaitingPubcomp =>
        (.ok (some (.sendPubrel packetId)), { m with outgoing := m.outgoing.insert packetId flow })
      | _ => (.error .stateMismatch, { m with outgoing := m.outgoing.insert packetId flow })
    | none =>
      if m.incoming.contains packetId then (.error .stateMismatch, m) else (.ok none, m)

def pubrelReceived (m : QosFlowManager) (packetId : UInt16) :
    Except FlowError (Option Action) × QosFlowManager :=
  match m.incoming.get? packetId with
  | some state =>
    let m := { m with incoming := m.incoming.erase packetId }
    match state with
    | .awaitingPubrel => (.ok (some (.sendPubcomp packetId)), m)
    | other => (.error .stateMismatch, { m with incoming := m.incoming.insert packetId other })
  | none =>
    if m.outgoing.contains packetId then (.error .stateMismatch, m)
    else (.ok (some (.resendPubcomp packetId)), m)

def pubcompReceived (m : QosFlowManager) (packetId : UInt16) :
    Except FlowError (Option Action) × QosFlowManager :=
  m.finalAckReceived .awaitingPubcomp packetId

def publishReceivedQos1 (m : QosFlowManager) (packetId : UInt16) : Action × QosFlowManager :=
  (.sendPuback packetId, { m with incoming := m.incoming.insert packetId .incomingAwaitingPuback })

def pubackSent (m : QosFlowManager) (packetId : UInt16) : QosFlowManager :=
  match m.incoming.get? packetId with
  | some state =>
    let m := { m with incoming := m.incoming.erase packetId }
    if state ≠ .incomingAwaitingPuback then { m with incoming := m.incoming.insert packetId state } else m
  | none => m

def publishReceivedQos2 (m : QosFlowManager) (packetId : UInt16) : Action × QosFlowManager :=
  let isDuplicate := m.incoming.contains packetId
  (.sendPubrec packetId isDuplicate, { m with incoming := m.incoming.insert packetId .awaitingPubrel })

def needsRetransmission (m : QosFlowManager) (packetId : UInt16) : Option Action :=
  match m.outgoing.get? packetId with
  | none => none
  | some flow =>
    match flow.state with
    | .awaitingPuback => some (.resendPublish packetId)
    | .awaitingPubrec => some (.resendPublish packetId)
    | .awaitingPubcomp => some (.resendPubrel packetId)
    | .awaitingPubrel | .incomingAwaitingPuback => none

/-- The order of `(seq, packet_id)` pairs: by sequence number, then by identifier. -/
def SeqBefore (a b : UInt64 × UInt16) : Prop := a.1 < b.1 ∨ (a.1 = b.1 ∧ a.2 ≤ b.2)

instance (a b : UInt64 × UInt16) : Decidable (SeqBefore a b) := inferInstanceAs (Decidable (_ ∨ _))

def pendingPacketIds (m : QosFlowManager) : List UInt16 :=
  let flows := m.outgoing.entries.map (fun entry => (entry.2.seq, entry.1))
  (flows.insertionSort SeqBefore).map Prod.snd

def release (m : QosFlowManager) (packetId : UInt16) : QosFlowManager :=
  { m with outgoing := m.outgoing.erase packetId, incoming := m.incoming.erase packetId }

def reset (_ : QosFlowManager) : QosFlowManager := { outgoing := .empty, incoming := .empty, nextSeq := 0 }

section Lemmas

variable {m : QosFlowManager} {packetId : UInt16} {flow : OutgoingFlow} {state expected : FlowState} {reasonCode : UInt8}

theorem erase_insert_outgoing (present : m.outgoing.get? packetId = some flow) :
    (m.outgoing.erase packetId).insert packetId flow = m.outgoing := by
  rw [OrderedMap.insert_erase, OrderedMap.insert_of_get present]

theorem erase_insert_incoming (present : m.incoming.get? packetId = some state) :
    (m.incoming.erase packetId).insert packetId state = m.incoming := by
  rw [OrderedMap.insert_erase, OrderedMap.insert_of_get present]

theorem publishSent_new (nonzero : packetId ≠ 0) (absent : m.outgoing.get? packetId = none) :
    m.publishSent state packetId =
      { m with
        outgoing := m.outgoing.insert packetId { seq := m.nextSeq, state, quotaCharged := true }
        nextSeq := m.nextSeq + 1 } := by
  simp [publishSent, allocateSeq, OrderedMap.contains, nonzero, absent]

theorem publishSent_present (present : m.outgoing.get? packetId = some flow) :
    m.publishSent state packetId = m := by
  simp [publishSent, OrderedMap.contains, present]

theorem publishSent_zero : m.publishSent state 0 = m := by
  simp [publishSent]

theorem finalAckReceived_finished (present : m.outgoing.get? packetId = some flow)
    (waiting : flow.state = expected) :
    m.finalAckReceived expected packetId =
      (.ok (some (.complete packetId)), { m with outgoing := m.outgoing.erase packetId }) := by
  simp [finalAckReceived, present, waiting]

theorem finalAckReceived_mismatch (present : m.outgoing.get? packetId = some flow)
    (other : flow.state ≠ expected) :
    m.finalAckReceived expected packetId = (.error .stateMismatch, m) := by
  simp [finalAckReceived, present, other, erase_insert_outgoing present]

theorem finalAckReceived_absent (absent : m.outgoing.get? packetId = none) :
    m.finalAckReceived expected packetId =
      (if m.incoming.contains packetId then .error .stateMismatch else .ok none, m) := by
  cases h : m.incoming.contains packetId <;> simp [finalAckReceived, absent, h]

/-- A final acknowledgement either finishes the flow that waits for it or leaves the manager alone. -/
theorem finalAckReceived_cases (m : QosFlowManager) (expected : FlowState) (packetId : UInt16) :
    (∃ flow, m.outgoing.get? packetId = some flow ∧ flow.state = expected ∧
      m.finalAckReceived expected packetId =
        (.ok (some (.complete packetId)), { m with outgoing := m.outgoing.erase packetId })) ∨
    m.finalAckReceived expected packetId = (.ok none, m) ∨
    m.finalAckReceived expected packetId = (.error .stateMismatch, m) := by
  cases present : m.outgoing.get? packetId with
  | none =>
    rw [finalAckReceived_absent present]
    cases m.incoming.contains packetId
    · exact .inr (.inl rfl)
    · exact .inr (.inr rfl)
  | some flow =>
    by_cases waiting : flow.state = expected
    · exact .inl ⟨flow, rfl, waiting, finalAckReceived_finished present waiting⟩
    · exact .inr (.inr (finalAckReceived_mismatch present waiting))

theorem pubrecReceived_aborted (failure : 0x80 ≤ reasonCode)
    (present : m.outgoing.get? packetId = some flow) (waiting : flow.state = .awaitingPubrec) :
    m.pubrecReceived packetId reasonCode =
      (.ok (some (.aborted packetId)), { m with outgoing := m.outgoing.erase packetId }) := by
  simp [pubrecReceived, failure, present, waiting]

theorem pubrecReceived_first (success : ¬0x80 ≤ reasonCode)
    (present : m.outgoing.get? packetId = some flow) (waiting : flow.state = .awaitingPubrec) :
    m.pubrecReceived packetId reasonCode =
      (.ok (some (.sendPubrel packetId)),
        { m with
          outgoing := m.outgoing.insert packetId
            { seq := m.nextSeq, state := .awaitingPubcomp, quotaCharged := flow.quotaCharged }
          nextSeq := m.nextSeq + 1 }) := by
  simp [pubrecReceived, success, present, waiting, allocateSeq, OrderedMap.insert_erase]

theorem pubrecReceived_repeated (success : ¬0x80 ≤ reasonCode)
    (present : m.outgoing.get? packetId = some flow) (waiting : flow.state = .awaitingPubcomp) :
    m.pubrecReceived packetId reasonCode = (.ok (some (.sendPubrel packetId)), m) := by
  simp [pubrecReceived, success, present, waiting, erase_insert_outgoing present]

/-- A PUBREC ends the flow, moves it on to PUBREL, or leaves the manager as it was. -/
theorem pubrecReceived_cases (m : QosFlowManager) (packetId : UInt16) (reasonCode : UInt8) :
    (∃ flow, m.outgoing.get? packetId = some flow ∧ flow.state = .awaitingPubrec ∧ 0x80 ≤ reasonCode ∧
      m.pubrecReceived packetId reasonCode =
        (.ok (some (.aborted packetId)), { m with outgoing := m.outgoing.erase packetId })) ∨
    (∃ flow, m.outgoing.get? packetId = some flow ∧ flow.state = .awaitingPubrec ∧ ¬0x80 ≤ reasonCode ∧
      m.pubrecReceived packetId reasonCode =
        (.ok (some (.sendPubrel packetId)),
          { m with
            outgoing := m.outgoing.insert packetId
              { seq := m.nextSeq, state := .awaitingPubcomp, quotaCharged := flow.quotaCharged }
            nextSeq := m.nextSeq + 1 })) ∨
    m.pubrecReceived packetId reasonCode = (.ok (some (.sendPubrel packetId)), m) ∨
    m.pubrecReceived packetId reasonCode = (.ok none, m) ∨
    m.pubrecReceived packetId reasonCode = (.error .stateMismatch, m) := by
  cases present : m.outgoing.get? packetId with
  | none =>
    right; right; right
    by_cases failure : 0x80 ≤ reasonCode <;>
      cases other : m.incoming.contains packetId <;>
      simp [pubrecReceived, failure, present, other]
  | some flow =>
    by_cases failure : 0x80 ≤ reasonCode
    · by_cases waiting : flow.state = .awaitingPubrec
      · exact .inl ⟨flow, rfl, waiting, failure, pubrecReceived_aborted failure present waiting⟩
      · refine .inr (.inr (.inr (.inr ?_)))
        simp [pubrecReceived, failure, present]
    · cases known : flow.state with
      | awaitingPubrec =>
        exact .inr (.inl ⟨flow, rfl, known, failure, pubrecReceived_first failure present known⟩)
      | awaitingPubcomp => exact .inr (.inr (.inl (pubrecReceived_repeated failure present known)))
      | awaitingPuback | awaitingPubrel | incomingAwaitingPuback =>
        refine .inr (.inr (.inr (.inr ?_)))
        simp [pubrecReceived, failure, present, known, erase_insert_outgoing present]

theorem pubrelReceived_finished (present : m.incoming.get? packetId = some .awaitingPubrel) :
    m.pubrelReceived packetId =
      (.ok (some (.sendPubcomp packetId)), { m with incoming := m.incoming.erase packetId }) := by
  simp [pubrelReceived, present]

theorem pubrelReceived_mismatch (present : m.incoming.get? packetId = some state)
    (other : state ≠ .awaitingPubrel) : m.pubrelReceived packetId = (.error .stateMismatch, m) := by
  cases state <;>
    first
    | exact absurd rfl other
    | simp [pubrelReceived, present, erase_insert_incoming present]

theorem pubrelReceived_absent (absent : m.incoming.get? packetId = none) :
    m.pubrelReceived packetId =
      (if m.outgoing.contains packetId then .error .stateMismatch else .ok (some (.resendPubcomp packetId)), m) := by
  cases h : m.outgoing.contains packetId <;> simp [pubrelReceived, absent, h]

/-- PUBACK sent: the incoming QoS 1 flow ends, any other incoming flow stays. -/
theorem pubackSent_finished (present : m.incoming.get? packetId = some .incomingAwaitingPuback) :
    m.pubackSent packetId = { m with incoming := m.incoming.erase packetId } := by
  simp [pubackSent, present]

theorem pubackSent_other (other : m.incoming.get? packetId ≠ some .incomingAwaitingPuback) :
    m.pubackSent packetId = m := by
  cases present : m.incoming.get? packetId with
  | none => simp [pubackSent, present]
  | some state =>
    have different : state ≠ .incomingAwaitingPuback := fun same => other (same ▸ present)
    simp [pubackSent, present, different, erase_insert_incoming present]

theorem pubrelReceived_outgoing (m : QosFlowManager) (packetId : UInt16) :
    (m.pubrelReceived packetId).2.outgoing = m.outgoing := by
  unfold pubrelReceived
  cases m.incoming.get? packetId with
  | none =>
    dsimp only
    split <;> rfl
  | some state => cases state <;> rfl

theorem pubackSent_outgoing (m : QosFlowManager) (packetId : UInt16) :
    (m.pubackSent packetId).outgoing = m.outgoing := by
  unfold pubackSent
  cases m.incoming.get? packetId with
  | none => rfl
  | some state =>
    dsimp only
    split <;> rfl

theorem markQuotaCharged_present (present : m.outgoing.get? packetId = some flow) :
    m.markQuotaCharged packetId =
      { m with outgoing := m.outgoing.insert packetId { flow with quotaCharged := true } } := by
  simp [markQuotaCharged, present]

instance : Std.Total SeqBefore where
  total a b := by
    simp only [SeqBefore, UInt64.lt_iff_toNat_lt, ← UInt64.toNat_inj]
    have order := le_total a.2 b.2
    rcases Nat.lt_trichotomy a.1.toNat b.1.toNat with less | same | greater
    · exact .inl (.inl less)
    · exact order.imp (fun h => .inr ⟨same, h⟩) (fun h => .inr ⟨same.symm, h⟩)
    · exact .inr (.inl greater)

instance : IsTrans (UInt64 × UInt16) SeqBefore where
  trans a b c := by
    simp only [SeqBefore, UInt64.lt_iff_toNat_lt, ← UInt64.toNat_inj]
    rintro (less | ⟨same, order⟩) (less' | ⟨same', order'⟩)
    · exact .inl (less.trans less')
    · exact .inl (same' ▸ less)
    · exact .inl (same ▸ less')
    · exact .inr ⟨same.trans same', order.trans order'⟩

instance : Std.Antisymm SeqBefore where
  antisymm a b := by
    simp only [SeqBefore, UInt64.lt_iff_toNat_lt, ← UInt64.toNat_inj]
    rintro (less | ⟨same, order⟩) (less' | ⟨same', order'⟩)
    · omega
    · omega
    · omega
    · exact Prod.ext (UInt64.toNat_inj.mp same) (le_antisymm order order')

theorem pendingPacketIds_perm (m : QosFlowManager) : m.pendingPacketIds.Perm m.outgoing.keys := by
  have sorted := (List.perm_insertionSort SeqBefore (m.outgoing.entries.map (fun entry => (entry.2.seq, entry.1))))
  simpa [pendingPacketIds, OrderedMap.keys, Function.comp_def] using sorted.map Prod.snd

theorem pendingPacketIds_nodup (m : QosFlowManager) : m.pendingPacketIds.Nodup :=
  m.pendingPacketIds_perm.nodup_iff.mpr m.outgoing.keys_nodup

theorem mem_pendingPacketIds : packetId ∈ m.pendingPacketIds ↔ ∃ flow, m.outgoing.get? packetId = some flow :=
  m.pendingPacketIds_perm.mem_iff.trans OrderedMap.mem_keys

/-- Ending a flow takes its identifier out of the retransmission order and moves no other. -/
theorem pendingPacketIds_erase (m : QosFlowManager) (incoming : OrderedMap UInt16 FlowState) (packetId : UInt16) :
    pendingPacketIds { m with outgoing := m.outgoing.erase packetId, incoming := incoming } =
      m.pendingPacketIds.filter (fun id => decide (id ≠ packetId)) := by
  simp only [pendingPacketIds, OrderedMap.erase, List.filter_map,
    ← List.insertionSort_filter, Function.comp_def]

end Lemmas

end QosFlowManager

end MqttRs
