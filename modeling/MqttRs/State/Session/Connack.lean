import MqttRs.State.Session

namespace MqttRs

namespace AuthStateMachine

variable {a : AuthStateMachine} {method : Option String}

theorem connackReceived_unchanged (refused : (a.connackReceived method).1 ≠ .ok ()) :
    (a.connackReceived method).2 = a := by
  unfold connackReceived at refused ⊢
  split
  · split
    · rfl
    · split
      · rfl
      · split <;> simp_all
  · split <;> rfl

/-- A CONNACK is accepted during the initial authentication only with the method of the CONNECT. -/
theorem connackReceived_initial (initial : a.state = .initialAuthenticating)
    (accepted : (a.connackReceived method).1 = .ok ()) : ∃ name, method = some name ∧ a.authMethod = some name := by
  simp only [connackReceived, initial] at accepted
  split at accepted
  · cases accepted
  · rename_i expected known
    split at accepted
    · cases accepted
    · rename_i name
      split at accepted
      · cases accepted
      · rename_i same
        exact ⟨name, rfl, by simpa [eq_comm] using not_not.mp same ▸ known⟩

end AuthStateMachine

namespace Session

variable {s : Session} {params : ConnackParams}

theorem checkMethod_unchanged (refused : (s.checkMethod params).1 ≠ .ok ()) : (s.checkMethod params).2 = s := by
  unfold checkMethod at refused ⊢
  split
  · rename_i v5
    simp only [v5, ↓reduceIte] at refused
    have same : (s.authState.connackReceived params.authenticationMethod).1 ≠ .ok () →
        (s.authState.connackReceived params.authenticationMethod).2 = s.authState :=
      AuthStateMachine.connackReceived_unchanged
    split <;> rename_i result <;> simp_all
  · rfl

theorem checkMethod_frame (s : Session) (params : ConnackParams) :
    (s.checkMethod params).2 = { s with authState := (s.checkMethod params).2.authState } := by
  unfold checkMethod
  split
  · split <;> rfl
  · rfl

theorem receiveMaximum_ne_zero (checked : s.checkConnack params = .ok ()) : params.receiveMaximum ≠ some 0 := by
  intro zero
  simp only [checkConnack, zero, ↓reduceIte] at checked
  repeat' split at checked
  all_goals cases checked

/-- The server can only resume a session that the CONNECT asked to keep. -/
theorem cleanStart_of_resumed (checked : s.checkConnack params = .ok ()) (resumed : params.sessionPresent = true) :
    s.cleanStart = false := by
  cases clean : s.cleanStart with
  | false => rfl
  | true =>
    simp only [checkConnack, resumed, clean, Bool.and_self, ↓reduceIte] at checked
    repeat' split at checked
    all_goals cases checked

/-- The session that an accepted CONNACK leads to. -/
def acceptConnack (s : Session) (params : ConnackParams) : Session :=
  let s := (s.checkMethod params).2.connected params.sessionPresent
  { s with
    flowControl := match params.receiveMaximum with
      | some max => { s.flowControl with receiveMaximum := max, initialized := true }
      | none => s.flowControl }.applyParams params

theorem applyConnack_accepted (checked : s.checkConnack params = .ok ())
    (method : (s.checkMethod params).1 = .ok ()) : s.applyConnack params = (.ok (), s.acceptConnack params) := by
  have nonzero := receiveMaximum_ne_zero checked
  unfold applyConnack acceptConnack
  simp only [checked]
  cases after : s.checkMethod params with
  | mk outcome next =>
    obtain rfl : outcome = .ok () := by simpa [after] using method
    cases announced : params.receiveMaximum with
    | none => rfl
    | some max =>
      have positive : max ≠ 0 := fun zero => nonzero (zero ▸ announced)
      simp [FlowControl.setReceiveMaximum, positive]

theorem applyConnack_refused
    (refused : s.checkConnack params = .ok () → (s.checkMethod params).1 ≠ .ok ()) :
    (s.applyConnack params).1 ≠ .ok () ∧ (s.applyConnack params).2 = s := by
  unfold applyConnack
  cases checked : s.checkConnack params with
  | error reason => exact ⟨nofun, rfl⟩
  | ok done =>
    have unchanged := checkMethod_unchanged (refused checked)
    have failed := refused checked
    cases after : s.checkMethod params with
    | mk outcome next =>
      rw [after] at unchanged failed
      cases outcome with
      | ok value => exact absurd rfl failed
      | error reason => exact ⟨nofun, unchanged⟩
      | panic => exact ⟨nofun, unchanged⟩
      | hang => exact ⟨nofun, unchanged⟩

theorem applyConnack_cases (s : Session) (params : ConnackParams) :
    (s.checkConnack params = .ok () ∧ (s.checkMethod params).1 = .ok () ∧
      s.applyConnack params = (.ok (), s.acceptConnack params)) ∨
    ((s.applyConnack params).1 ≠ .ok () ∧ (s.applyConnack params).2 = s) := by
  by_cases checked : s.checkConnack params = .ok ()
  · by_cases method : (s.checkMethod params).1 = .ok ()
    · exact .inl ⟨checked, method, applyConnack_accepted checked method⟩
    · exact .inr (applyConnack_refused fun _ => method)
  · exact .inr (applyConnack_refused fun done => absurd done checked)

theorem acceptConnack_eq (s : Session) (params : ConnackParams) :
    s.acceptConnack params =
      applyParams
        { s with
          connectionState := .connected
          packetIdManager :=
            if s.cleanStart || !params.sessionPresent then s.packetIdManager.reset else s.packetIdManager
          qosFlow := if s.cleanStart || !params.sessionPresent then s.qosFlow.reset else s.qosFlow
          subscriptionManager :=
            if s.cleanStart || !params.sessionPresent then s.subscriptionManager.reset else s.subscriptionManager
          flowControl := match params.receiveMaximum with
            | some max => { s.flowControl with receiveMaximum := max, initialized := true }
            | none => s.flowControl
          authState := (s.checkMethod params).2.authState } params := by
  have frame := checkMethod_frame s params
  simp only [acceptConnack, connected]
  rw [frame]
  split <;> rfl

theorem acceptConnack_qosFlow (s : Session) (params : ConnackParams) :
    (s.acceptConnack params).qosFlow =
      if s.cleanStart || !params.sessionPresent then s.qosFlow.reset else s.qosFlow := by
  rw [acceptConnack_eq]
  rfl

theorem acceptConnack_flowControl (s : Session) (params : ConnackParams) :
    (s.acceptConnack params).flowControl =
      match params.receiveMaximum with
      | some max => { s.flowControl with receiveMaximum := max, initialized := true }
      | none => s.flowControl := by
  rw [acceptConnack_eq]
  rfl

theorem acceptConnack_connectionState (s : Session) (params : ConnackParams) :
    (s.acceptConnack params).connectionState = .connected := by
  rw [acceptConnack_eq]
  rfl

theorem acceptConnack_protocolVersion (s : Session) (params : ConnackParams) :
    (s.acceptConnack params).protocolVersion = s.protocolVersion := by
  rw [acceptConnack_eq]
  rfl

end Session

end MqttRs
