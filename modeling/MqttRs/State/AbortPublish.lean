import MqttRs.State.SendQuota

namespace MqttRs

namespace Session

/-- What `abort_publish` is for: end one outgoing flow and give back the quota it charged, nothing else. -/
structure AbortsOnlyOutgoing (s : Session) (packetId : UInt16) : Prop where
  incoming : (s.abortPublish packetId).qosFlow.incoming = s.qosFlow.incoming
  incomingCount : (s.abortPublish packetId).flowControl.incomingCount = s.flowControl.incomingCount
  others : ∀ other, other ≠ packetId →
    (s.abortPublish packetId).qosFlow.outgoing.get? other = s.qosFlow.outgoing.get? other
  order : (s.abortPublish packetId).qosFlow.pendingPacketIds =
    s.qosFlow.pendingPacketIds.filter (fun id => decide (id ≠ packetId))
  quota : (s.abortPublish packetId).outstanding + (if s.qosFlow.isQuotaCharged packetId then 1 else 0) =
    s.outstanding

/-- No incoming flow shares the identifier, a charged flow is still counted, and an uncharged one finds the
    counter at zero. -/
def AbortIsClean (s : Session) (packetId : UInt16) : Prop :=
  s.qosFlow.hasIncomingFlow packetId = false ∧
    ∀ flow ∈ s.qosFlow.outgoing.get? packetId,
      if flow.quotaCharged then 0 < s.outstanding else s.outstanding = 0

section Frame

variable {s : Session} {packetId : UInt16}

theorem abortPublish_outgoing (s : Session) (packetId other : UInt16) :
    (s.abortPublish packetId).qosFlow.outgoing.get? other =
      if other = packetId then none else s.qosFlow.outgoing.get? other := by
  simp [abortPublish, QosFlowManager.release]

theorem abortPublish_incoming (s : Session) (packetId : UInt16) :
    (s.abortPublish packetId).qosFlow.incoming = s.qosFlow.incoming.erase packetId := rfl

theorem abortPublish_pendingPacketIds (s : Session) (packetId : UInt16) :
    (s.abortPublish packetId).qosFlow.pendingPacketIds =
      s.qosFlow.pendingPacketIds.filter (fun id => decide (id ≠ packetId)) :=
  s.qosFlow.pendingPacketIds_erase (s.qosFlow.incoming.erase packetId) packetId

theorem abortPublish_incomingCount (s : Session) (packetId : UInt16) :
    (s.abortPublish packetId).flowControl.incomingCount = s.flowControl.incomingCount := by
  simp only [abortPublish]
  split <;> rfl

theorem abortPublish_outstanding (s : Session) (packetId : UInt16) :
    (s.abortPublish packetId).outstanding =
      if s.qosFlow.isActive packetId then s.outstanding - 1 else s.outstanding := by
  simp only [abortPublish, outstanding]
  split <;> simp [FlowControl.publishAcked]

theorem erase_incoming_eq_iff :
    s.qosFlow.incoming.erase packetId = s.qosFlow.incoming ↔ s.qosFlow.hasIncomingFlow packetId = false := by
  rw [QosFlowManager.hasIncomingFlow, OrderedMap.contains_false_iff]
  constructor
  · intro same
    rw [← same]
    simp
  · exact OrderedMap.erase_of_absent

theorem quota_returned_iff (alone : s.qosFlow.hasIncomingFlow packetId = false) :
    (s.abortPublish packetId).outstanding + (if s.qosFlow.isQuotaCharged packetId then 1 else 0) = s.outstanding ↔
      ∀ flow ∈ s.qosFlow.outgoing.get? packetId,
        if flow.quotaCharged then 0 < s.outstanding else s.outstanding = 0 := by
  rw [abortPublish_outstanding]
  simp only [QosFlowManager.hasIncomingFlow] at alone
  cases present : s.qosFlow.outgoing.get? packetId with
  | none => simp [QosFlowManager.isActive, QosFlowManager.isQuotaCharged, OrderedMap.contains, present,
      OrderedMap.contains_false_iff.mp alone]
  | some flow =>
    have active : s.qosFlow.isActive packetId = true := by
      simp [QosFlowManager.isActive, OrderedMap.contains, present]
    simp only [active, QosFlowManager.isQuotaCharged, present, Option.any_some, ↓reduceIte, Option.mem_def,
      Option.some.injEq, forall_eq']
    split <;> omega

end Frame

/-- `abort_publish` leaves the receiving side and the other flows' quota alone exactly on a clean abort. -/
theorem abortPublish_only_outgoing_iff (s : Session) (packetId : UInt16) :
    s.AbortsOnlyOutgoing packetId ↔ s.AbortIsClean packetId := by
  constructor
  · rintro ⟨incoming, -, -, -, quota⟩
    rw [abortPublish_incoming] at incoming
    have alone := erase_incoming_eq_iff.mp incoming
    exact ⟨alone, (quota_returned_iff alone).mp quota⟩
  · rintro ⟨alone, counted⟩
    refine ⟨?_, abortPublish_incomingCount s packetId, ?_, abortPublish_pendingPacketIds s packetId, ?_⟩
    · rw [abortPublish_incoming]
      exact erase_incoming_eq_iff.mpr alone
    · intro other different
      rw [abortPublish_outgoing, if_neg different]
    · exact (quota_returned_iff alone).mpr counted

def sharedIdentifierRun : List SessionOp :=
  [.connectSent, .applyConnack (.successV5 false none), .handlePublishQos2 1, .allocatePacketId,
    .publishSent .atLeastOnce 1]

theorem abortPublish_ends_incoming : ¬∀ s packetId, Reachable s → s.AbortsOnlyOutgoing packetId := by
  intro claim
  have completes : (runFrom (fun s op => some (perform s op)) (initial .v5 "client" false)
      sharedIdentifierRun).any (fun s => s.qosFlow.hasIncomingFlow 1) = true := by decide
  obtain ⟨s, ends, present⟩ := (Option.any_eq_true _ _).mp completes
  have run : Run (fun s op t => t = perform s op) (initial .v5 "client" false) sharedIdentifierRun s :=
    (run_of_runFrom ends).mono fun step => (Option.some.inj step).symm
  have kept := (claim s 1 ⟨.v5, "client", false, _, _, rfl, run⟩).incoming
  rw [abortPublish_incoming] at kept
  have alone := erase_incoming_eq_iff.mp kept
  rw [alone] at present
  cases present

end Session

end MqttRs
