import MqttRs.State.Session.Ops

namespace MqttRs

namespace TopicAliasManager

/-- Setting the own maximum changes nothing when it is in place and the receiving table has room for it. -/
theorem setOwnMaximum_eq_self_iff (t : TopicAliasManager) (max : UInt16) :
    t.setOwnMaximum max = t ↔ t.ownMaximum = max ∧ max.toNat < t.aliasToTopic.length := by
  constructor
  · intro same
    have maximum : max = t.ownMaximum := congrArg (fun u : TopicAliasManager => u.ownMaximum) same
    have table : ensureCapacity t.aliasToTopic max.toNat = t.aliasToTopic :=
      congrArg (fun u : TopicAliasManager => u.aliasToTopic) same
    refine ⟨maximum.symm, ?_⟩
    by_contra short
    have length := congrArg List.length table
    rw [ensureCapacity, if_pos (not_lt.mp short), List.length_append, List.length_replicate] at length
    omega
  · rintro ⟨rfl, room⟩
    simp [setOwnMaximum, ensureReceiveCapacity, ensureCapacity, not_le.mpr room]

end TopicAliasManager

namespace Session

/-- The call checks its arguments or the state first, and reports an error. -/
def Fails (s : Session) : SessionOp → Prop
  | .configureForConnect keepAlive expiry aliases receive size =>
    ∃ reason, (s.configureForConnect keepAlive expiry aliases receive size).1 = .error reason
  | .connectSentWithAuth method => ∃ reason, (s.connectSentWithAuth method).1 = .error reason
  | .publishSent qos id => ∃ reason, (s.publishSent qos id).1 = .error reason
  | .resendPublish id => ∃ reason, (s.resendPublish id).1 = .error reason
  | .handlePublishQos1 id => ∃ reason, (s.handlePublishQos1 id).1 = .error reason
  | .handlePublishQos2 id => ∃ reason, (s.handlePublishQos2 id).1 = .error reason
  | .handlePuback id => ∃ reason, (s.handlePuback id).1 = .error reason
  | .handlePubrec id reasonCode => ∃ reason, (s.handlePubrec id reasonCode).1 = .error reason
  | .handlePubrel id => ∃ reason, (s.handlePubrel id).1 = .error reason
  | .handlePubcomp id => ∃ reason, (s.handlePubcomp id).1 = .error reason
  | .reauthenticateSent => ∃ reason, s.reauthenticateSent.1 = .error reason
  | _ => False

def RepeatsSettings (s : Session) : SessionOp → Prop
  | .configureForConnect keepAlive expiry aliases receive _ =>
    receive = 0 →
      s.keepAlive.keepAliveSecs = keepAlive ∧ s.sessionExpiryInterval = expiry ∧
        s.topicAliasManager.ownMaximum = aliases ∧ aliases.toNat < s.topicAliasManager.aliasToTopic.length
  | _ => True

section Failures

variable {s : Session} {packetId : UInt16}

theorem configureForConnect_zero (s : Session) (keepAlive : UInt16) (expiry : UInt32) (aliases : UInt16)
    (size : UInt32) :
    s.configureForConnect keepAlive expiry aliases 0 size =
      (.error .invalidReceiveMaximum,
        { s with
          keepAlive := s.keepAlive.setKeepAlive keepAlive
          sessionExpiryInterval := expiry
          topicAliasManager := s.topicAliasManager.setOwnMaximum aliases }) := rfl

theorem configureForConnect_positive (s : Session) (keepAlive : UInt16) (expiry : UInt32) (aliases : UInt16)
    {receive : UInt16} (size : UInt32) (positive : receive ≠ 0) :
    (s.configureForConnect keepAlive expiry aliases receive size).1 = .ok () := by
  simp only [configureForConnect, FlowControl.setOwnReceiveMaximum, positive, ↓reduceIte]
  split <;> rfl

theorem configureForConnect_zero_unchanged_iff (s : Session) (keepAlive : UInt16) (expiry : UInt32)
    (aliases : UInt16) (size : UInt32) :
    (s.configureForConnect keepAlive expiry aliases 0 size).2 = s ↔
      s.keepAlive.keepAliveSecs = keepAlive ∧ s.sessionExpiryInterval = expiry ∧
        s.topicAliasManager.ownMaximum = aliases ∧ aliases.toNat < s.topicAliasManager.aliasToTopic.length := by
  rw [configureForConnect_zero, ← TopicAliasManager.setOwnMaximum_eq_self_iff]
  constructor
  · intro same
    have secs : keepAlive = s.keepAlive.keepAliveSecs := congrArg (fun t : Session => t.keepAlive.keepAliveSecs) same
    have interval : expiry = s.sessionExpiryInterval := congrArg (fun t : Session => t.sessionExpiryInterval) same
    have table : s.topicAliasManager.setOwnMaximum aliases = s.topicAliasManager :=
      congrArg (fun t : Session => t.topicAliasManager) same
    exact ⟨secs.symm, interval.symm, table⟩
  · rintro ⟨rfl, rfl, table⟩
    rw [table]
    rfl

theorem connectSentWithAuth_failed {method : String} {reason : AuthError}
    (failed : (s.connectSentWithAuth method).1 = .error reason) : (s.connectSentWithAuth method).2 = s := by
  unfold connectSentWithAuth at failed ⊢
  split
  · rfl
  · rename_i v5
    simp [v5] at failed

theorem publishSent_failed {qos : QoS} {reason : FlowControlError}
    (failed : (s.publishSent qos packetId).1 = .error reason) : (s.publishSent qos packetId).2 = s := by
  rcases s.publishSent_cases qos packetId with ⟨-, -, -, sent⟩ | ⟨other, refused⟩
  · rw [sent] at failed
    cases failed
  · rw [refused]

theorem resendPublish_failed {reason : FlowControlError}
    (failed : (s.resendPublish packetId).1 = .error reason) : (s.resendPublish packetId).2 = s := by
  rcases s.resendPublish_cases packetId with ⟨flow, -, -, -, sent⟩ | same
  · rw [sent] at failed
    cases failed
  · exact same

theorem handlePublish_failed (received : QosFlowManager → UInt16 → Action × QosFlowManager)
    {reason : FlowControlError} (failed : (s.handlePublish received packetId).1 = .error reason) :
    (s.handlePublish received packetId).2 = s := by
  unfold handlePublish at failed ⊢
  split
  · rename_i refused
    exact countIncoming_refused refused
  · rename_i counted
    simp [counted] at failed

theorem handleFinalAck_failed (expected : FlowState) {reason : FlowError}
    (failed : (s.handleFinalAck expected packetId).1 = .error reason) :
    (s.handleFinalAck expected packetId).2 = s := by
  rcases s.handleFinalAck_cases expected packetId with ⟨flow, -, -, result⟩ | result | result
  · rw [result] at failed
    cases failed
  all_goals rw [result]

theorem handlePubrec_failed {reasonCode : UInt8} {reason : FlowError}
    (failed : (s.handlePubrec packetId reasonCode).1 = .error reason) :
    (s.handlePubrec packetId reasonCode).2 = s := by
  rcases s.handlePubrec_cases packetId reasonCode with
    ⟨flow, -, -, -, result⟩ | ⟨flow, -, -, -, result⟩ | result | result | result
  · rw [result] at failed
    cases failed
  · rw [result] at failed
    cases failed
  all_goals rw [result]

theorem handlePubrel_failed {reason : FlowError} (failed : (s.handlePubrel packetId).1 = .error reason) :
    (s.handlePubrel packetId).2 = s := by
  have unchanged : (s.qosFlow.pubrelReceived packetId).2 = s.qosFlow := by
    simp only [handlePubrel] at failed
    cases present : s.qosFlow.incoming.get? packetId with
    | none => rw [QosFlowManager.pubrelReceived_absent present]
    | some state =>
      by_cases waiting : state = .awaitingPubrel
      · rw [waiting] at present
        rw [QosFlowManager.pubrelReceived_finished present] at failed
        cases failed
      · rw [QosFlowManager.pubrelReceived_mismatch present waiting]
  simp only [handlePubrel, unchanged]

theorem reauthenticateSent_failed {reason : AuthError} (failed : s.reauthenticateSent.1 = .error reason) :
    s.reauthenticateSent.2 = s := by
  simp only [reauthenticateSent, AuthStateMachine.reauthenticateSent] at failed ⊢
  split
  · rfl
  · rename_i done
    simp [done] at failed

end Failures

/-- A failed call leaves the whole session as it was, except that `configure_for_connect` with a Receive
    Maximum of 0 has already written the three settings before it. -/
theorem failed_call_unchanged_iff (s : Session) (op : SessionOp) :
    (s.Fails op → s.perform op = s) ↔ s.RepeatsSettings op := by
  cases op
  case configureForConnect keepAlive expiry aliases receive size =>
    by_cases zero : receive = 0
    · subst zero
      have failed : s.Fails (.configureForConnect keepAlive expiry aliases 0 size) := ⟨_, rfl⟩
      have unchanged := s.configureForConnect_zero_unchanged_iff keepAlive expiry aliases size
      exact ⟨fun keeps _ => unchanged.mp (keeps failed), fun repeats _ => unchanged.mpr (repeats rfl)⟩
    · have accepted := s.configureForConnect_positive keepAlive expiry aliases size zero
      refine iff_of_true ?_ (fun missing => absurd missing zero)
      rintro ⟨reason, failed⟩
      cases accepted.symm.trans failed
  case connectSentWithAuth =>
    exact iff_of_true (fun ⟨_, failed⟩ => connectSentWithAuth_failed failed) trivial
  case publishSent => exact iff_of_true (fun ⟨_, failed⟩ => publishSent_failed failed) trivial
  case resendPublish => exact iff_of_true (fun ⟨_, failed⟩ => resendPublish_failed failed) trivial
  case handlePublishQos1 =>
    exact iff_of_true (fun ⟨_, failed⟩ => handlePublish_failed QosFlowManager.publishReceivedQos1 failed) trivial
  case handlePublishQos2 =>
    exact iff_of_true (fun ⟨_, failed⟩ => handlePublish_failed QosFlowManager.publishReceivedQos2 failed) trivial
  case handlePuback => exact iff_of_true (fun ⟨_, failed⟩ => handleFinalAck_failed _ failed) trivial
  case handlePubrec => exact iff_of_true (fun ⟨_, failed⟩ => handlePubrec_failed failed) trivial
  case handlePubrel => exact iff_of_true (fun ⟨_, failed⟩ => handlePubrel_failed failed) trivial
  case handlePubcomp => exact iff_of_true (fun ⟨_, failed⟩ => handleFinalAck_failed _ failed) trivial
  case reauthenticateSent => exact iff_of_true (fun ⟨_, failed⟩ => reauthenticateSent_failed failed) trivial
  all_goals exact iff_of_true False.elim trivial

theorem failed_configure_keeps_settings :
    ¬∀ s : Session, s.Reachable → ∀ op, s.Fails op → s.perform op = s := by
  intro claim
  have reachable : (initial .v5 "client" true).Reachable :=
    ⟨.v5, "client", true, initial .v5 "client" true, [], rfl, .nil _⟩
  have unchanged := claim _ reachable (.configureForConnect 60 0 0 0 0) ⟨.invalidReceiveMaximum, rfl⟩
  have keepAlive := congrArg (fun t : Session => t.keepAlive.keepAliveSecs) unchanged
  exact absurd keepAlive (by decide)

end Session

end MqttRs
