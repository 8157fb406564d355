import MqttRs.State.InitialAuth

namespace MqttRs

namespace AuthStateMachine

variable {a : AuthStateMachine} {method : Option String}

theorem connackReceived_ok_iff :
    (a.connackReceived method).1 = .ok () ↔
      if a.state = .initialAuthenticating then ∃ name, a.authMethod = some name ∧ method = some name
      else method = none := by
  unfold connackReceived
  cases known : a.state with
  | initialAuthenticating =>
    cases held : a.authMethod with
    | none => simp
    | some expected =>
      cases method with
      | none => simp
      | some name =>
        by_cases same : name = expected
        · simp [same]
        · simp [same]
  | idle | authenticated | reauthenticating => cases method <;> simp

theorem connackReceived_accepted (accepted : (a.connackReceived method).1 = .ok ()) :
    (a.connackReceived method).2 =
      if a.state = .initialAuthenticating then { a with state := .authenticated } else a := by
  have needed := connackReceived_ok_iff.mp accepted
  unfold connackReceived
  cases known : a.state with
  | initialAuthenticating =>
    simp only [known, ↓reduceIte] at needed
    obtain ⟨name, held, rfl⟩ := needed
    simp [held]
  | idle | authenticated | reauthenticating =>
    simp only [known, reduceCtorEq, ↓reduceIte] at needed
    simp [needed]

theorem connackReceived_error (holds : a.state = .initialAuthenticating → a.authMethod ≠ none)
    (refused : (a.connackReceived method).1 ≠ .ok ()) :
    ∃ reason, (a.connackReceived method).1 = .error reason := by
  unfold connackReceived at refused ⊢
  cases known : a.state with
  | initialAuthenticating =>
    obtain ⟨expected, held⟩ := Option.ne_none_iff_exists'.mp (holds known)
    cases method with
    | none => exact ⟨.missing, by simp [held]⟩
    | some name =>
      by_cases same : name = expected
      · simp [known, held, same] at refused
      · exact ⟨.mismatch, by simp [held, same]⟩
  | idle | authenticated | reauthenticating =>
    cases method with
    | none => simp [known] at refused
    | some name => exact ⟨.unexpected, rfl⟩

theorem authReceived_initial {reasonCode : UInt8}
    (initial : (a.authReceived reasonCode method).2.state = .initialAuthenticating) :
    (a.authReceived reasonCode method).2 = a := by
  unfold authReceived at initial ⊢
  simp only [reset] at initial ⊢
  repeat' split at initial
  all_goals simp_all

end AuthStateMachine

namespace Session

def successReason : MqttVersion → ConnackReason
  | .v5 => .v5 .success
  | .v311 => .v311 .accepted

/-- What `apply_connack` asks of a session and a CONNACK before it looks at the Authentication Method. -/
structure PassesChecks (s : Session) (params : ConnackParams) : Prop where
  connecting : s.connectionState = .connecting
  success : params.reasonCode = successReason s.protocolVersion
  v311Fields : s.protocolVersion = .v311 → params.hasV5OnlyFields = false
  freshSession : ¬(params.sessionPresent = true ∧ s.cleanStart = true)
  assignedClientId : s.protocolVersion = .v5 → s.clientId.isEmpty = true →
    ∃ assigned, params.assignedClientIdentifier = some assigned ∧ assigned.isEmpty = false
  receiveMaximum : params.receiveMaximum ≠ some 0
  maximumPacketSize : params.maximumPacketSize ≠ some 0
  maximumQos : params.maximumQos ≠ some .exactlyOnce

/-- Every parameter that the CONNACK supplies replaces the negotiated value, every other one stays, and the
    session state stays exactly when the server resumed it. -/
structure Negotiated (s : Session) (params : ConnackParams) (t : Session) : Prop where
  connectionState : t.connectionState = .connected
  authState : t.authState =
    if s.authState.state = .initialAuthenticating then { s.authState with state := .authenticated } else s.authState
  protocolVersion : t.protocolVersion = s.protocolVersion
  cleanStart : t.cleanStart = s.cleanStart
  limits : t.limits = s.limits
  clientId : t.clientId = if s.clientId.isEmpty then params.assignedClientIdentifier.getD s.clientId else s.clientId
  sessionExpiryInterval : t.sessionExpiryInterval = params.sessionExpiryInterval.getD s.sessionExpiryInterval
  flowControl : t.flowControl =
    { s.flowControl with
      receiveMaximum := params.receiveMaximum.getD s.flowControl.receiveMaximum
      initialized := params.receiveMaximum.isSome || s.flowControl.initialized }
  peerMaximum : t.topicAliasManager.peerMaximum = params.topicAliasMaximum.getD s.topicAliasManager.peerMaximum
  ownMaximum : t.topicAliasManager.ownMaximum = s.topicAliasManager.ownMaximum
  aliasToTopic : t.topicAliasManager.aliasToTopic = s.topicAliasManager.aliasToTopic
  topicToAlias : ∃ unused, t.topicAliasManager.topicToAlias =
    s.topicAliasManager.topicToAlias ++ List.replicate unused none
  keepAlive : t.keepAlive =
    { s.keepAlive with keepAliveSecs := params.serverKeepAlive.getD s.keepAlive.keepAliveSecs }
  serverCapabilities : t.serverCapabilities =
    { maximumPacketSize := params.maximumPacketSize.or s.serverCapabilities.maximumPacketSize
      maximumQos := params.maximumQos.getD s.serverCapabilities.maximumQos
      retainAvailable := params.retainAvailable.getD s.serverCapabilities.retainAvailable
      wildcardSubscriptionAvailable :=
        params.wildcardSubscriptionAvailable.getD s.serverCapabilities.wildcardSubscriptionAvailable
      subscriptionIdentifiersAvailable :=
        params.subscriptionIdentifiersAvailable.getD s.serverCapabilities.subscriptionIdentifiersAvailable
      sharedSubscriptionAvailable :=
        params.sharedSubscriptionAvailable.getD s.serverCapabilities.sharedSubscriptionAvailable }
  resumed : params.sessionPresent = true →
    t.qosFlow = s.qosFlow ∧ t.packetIdManager = s.packetIdManager ∧ t.subscriptionManager = s.subscriptionManager
  discarded : params.sessionPresent = false →
    t.qosFlow = .new ∧ t.packetIdManager = .new ∧ t.subscriptionManager = .new

variable {s : Session} {params : ConnackParams}

theorem refuse_eq_ok {ε : Type} {condition : Prop} [Decidable condition] {reason : ε} {rest : Except ε Unit} :
    (if condition then .error reason else rest) = .ok () ↔ ¬condition ∧ rest = .ok () := by
  split <;> simp [*]

theorem reason_accepted_iff (s : Session) (reason : ConnackReason) :
    (match reason with | .v5 _ => s.isV5 | .v311 _ => s.isV311) = true ∧ reason.isSuccess = true ↔
      reason = successReason s.protocolVersion := by
  cases version : s.protocolVersion <;> cases reason <;>
    simp [isV5, isV311, version, ConnackReason.isSuccess, successReason]

theorem checkConnack_ok_iff : s.checkConnack params = .ok () ↔ s.PassesChecks params := by
  have reason := reason_accepted_iff s params.reasonCode
  simp only [checkConnack, refuse_eq_ok]
  constructor
  · rintro ⟨connecting, version, v311, success, fresh, assigned, receive, size, qos, -⟩
    rw [Bool.not_eq_true, Bool.not_eq_false'] at version success
    refine ⟨by simpa using connecting, reason.mp ⟨version, success⟩, ?_, ?_, ?_, receive, size, qos⟩
    · intro old
      simpa [isV311, old] using v311
    · simpa using fresh
    · intro new unnamed
      simp only [isV5, new, unnamed, decide_true, Bool.and_self, Bool.true_and] at assigned
      cases supplied : params.assignedClientIdentifier with
      | none => simp [supplied] at assigned
      | some name => exact ⟨name, rfl, by simpa [supplied] using assigned⟩
  · rintro ⟨connecting, success, v311, fresh, assigned, receive, size, qos⟩
    obtain ⟨version, accepted⟩ := reason.mpr success
    rw [← Bool.not_eq_false', ← Bool.not_eq_true] at version accepted
    refine ⟨by simpa using connecting, version, ?_, accepted, by simpa using fresh, ?_, receive, size, qos, trivial⟩
    · intro flagged
      simp only [isV311, Bool.and_eq_true, decide_eq_true_eq] at flagged
      simp [v311 flagged.1] at flagged
    · intro flagged
      simp only [isV5, Bool.and_eq_true, decide_eq_true_eq] at flagged
      obtain ⟨⟨new, unnamed⟩, missing⟩ := flagged
      obtain ⟨name, supplied, named⟩ := assigned new unnamed
      simp [supplied, named] at missing

theorem checkMethod_v5 (v5 : s.protocolVersion = .v5) :
    ((s.checkMethod params).1 = .ok () ↔ (s.authState.connackReceived params.authenticationMethod).1 = .ok ()) ∧
      (s.checkMethod params).2.authState = (s.authState.connackReceived params.authenticationMethod).2 := by
  simp only [checkMethod, isV5, v5, decide_true, ↓reduceIte]
  split <;> rename_i result <;> simp [result]

theorem checkMethod_v311 (v311 : s.protocolVersion = .v311) : s.checkMethod params = (.ok (), s) := by
  simp [checkMethod, isV5, v311]

theorem checkMethod_ok_iff :
    (s.checkMethod params).1 = .ok () ↔
      (s.protocolVersion = .v5 →
        if s.authState.state = .initialAuthenticating then
          ∃ name, s.authState.authMethod = some name ∧ params.authenticationMethod = some name
        else params.authenticationMethod = none) := by
  cases version : s.protocolVersion with
  | v5 =>
    rw [(checkMethod_v5 version).1, AuthStateMachine.connackReceived_ok_iff]
    simp
  | v311 => simp [checkMethod_v311 version]

theorem checkMethod_authState (v5 : s.authState.state = .initialAuthenticating → s.protocolVersion = .v5)
    (accepted : (s.checkMethod params).1 = .ok ()) :
    (s.checkMethod params).2.authState =
      if s.authState.state = .initialAuthenticating then { s.authState with state := .authenticated }
      else s.authState := by
  cases version : s.protocolVersion with
  | v5 =>
    have received := (checkMethod_v5 version).1.mp accepted
    rw [(checkMethod_v5 version).2]
    exact AuthStateMachine.connackReceived_accepted received
  | v311 =>
    have idle : s.authState.state ≠ .initialAuthenticating := by
      intro initial
      rw [v5 initial] at version
      cases version
    rw [checkMethod_v311 version, if_neg idle]

theorem setPeerMaximum_topicToAlias (t : TopicAliasManager) (max : UInt16) :
    ∃ unused, (t.setPeerMaximum max).topicToAlias = t.topicToAlias ++ List.replicate unused none := by
  unfold TopicAliasManager.setPeerMaximum TopicAliasManager.ensureSendCapacity TopicAliasManager.ensureCapacity
  dsimp only
  split
  · exact ⟨_, rfl⟩
  · exact ⟨0, (List.append_nil _).symm⟩

theorem acceptConnack_negotiated (passes : s.PassesChecks params) (method : (s.checkMethod params).1 = .ok ())
    (v5 : s.authState.state = .initialAuthenticating → s.protocolVersion = .v5) :
    Negotiated s params (s.acceptConnack params) := by
  have auth := checkMethod_authState v5 method
  have fresh := passes.freshSession
  rw [acceptConnack_eq]
  constructor
  case authState => exact auth
  case clientId =>
    cases known : params.assignedClientIdentifier <;> simp [applyParams, known]
  case flowControl =>
    cases params.receiveMaximum <;> simp [applyParams]
  case peerMaximum =>
    cases known : params.topicAliasMaximum <;>
      simp [applyParams, known, TopicAliasManager.setPeerMaximum, TopicAliasManager.ensureSendCapacity]
  case ownMaximum | aliasToTopic =>
    cases known : params.topicAliasMaximum <;>
      simp [applyParams, known, TopicAliasManager.setPeerMaximum, TopicAliasManager.ensureSendCapacity]
  case topicToAlias =>
    cases known : params.topicAliasMaximum with
    | none => exact ⟨0, by simp [applyParams, known]⟩
    | some max => simpa only [applyParams, known] using setPeerMaximum_topicToAlias s.topicAliasManager max
  case keepAlive =>
    cases known : params.serverKeepAlive <;> simp [applyParams, known, KeepAlive.setKeepAlive]
  case serverCapabilities =>
    cases known : params.maximumPacketSize <;> simp [applyParams, known]
  case resumed =>
    intro resumed
    have kept : s.cleanStart = false := by simpa [resumed] using fresh
    simp [applyParams, resumed, kept]
  case discarded =>
    intro lost
    simp only [applyParams, lost, Bool.not_false, Bool.or_true, ↓reduceIte]
    exact ⟨rfl, rfl, rfl⟩
  all_goals rfl

end Session

namespace AuthClient

/-- The CONNACKs that `apply_connack` accepts, the Authentication Method being the one asked for in the CONNECT
    when the initial authentication is still open. -/
structure ConnackAcceptable (c : AuthClient) (params : ConnackParams) : Prop extends
    Session.PassesChecks c.session params where
  method : c.session.protocolVersion = .v5 →
    if c.session.authState.state = .initialAuthenticating then
      ∃ name, c.requested = some name ∧ params.authenticationMethod = some name
    else params.authenticationMethod = none

/-- A CONNACK is accepted exactly when it is acceptable, and is applied as a whole or leaves the session as it is. -/
structure AtomicConnack (c : AuthClient) (params : ConnackParams) : Prop where
  refused : (c.session.applyConnack params).1 ≠ .ok () →
    (∃ reason, (c.session.applyConnack params).1 = .error reason) ∧ (c.session.applyConnack params).2 = c.session
  accepted_iff : (c.session.applyConnack params).1 = .ok () ↔ c.ConnackAcceptable params
  negotiated : (c.session.applyConnack params).1 = .ok () →
    c.session.Negotiated params (c.session.applyConnack params).2

/-- The initial authentication is only ever open on v5.0 and under the method of the last CONNECT. -/
def HoldsRequested (c : AuthClient) : Prop :=
  c.session.authState.state = .initialAuthenticating →
    c.session.protocolVersion = .v5 ∧ c.requested ≠ none ∧ c.session.authState.authMethod = c.requested

variable {c d : AuthClient} {op : SessionOp} {params : ConnackParams}

theorem holdsRequested_of_left {s : Session} {requested : Option String}
    (left : s.authState.state ≠ .initialAuthenticating) : HoldsRequested { session := s, requested } :=
  fun initial => absurd initial left

theorem holdsRequested_of_same {s : Session} {requested : Option String} (holds : c.HoldsRequested)
    (same : requested = c.requested) (version : s.protocolVersion = c.session.protocolVersion)
    (auth : s.authState = c.session.authState) : HoldsRequested { session := s, requested } := by
  intro initial
  have held := holds (auth ▸ initial)
  rw [auth, version, same]
  exact held

theorem applyConnack_holds (holds : c.HoldsRequested) (params : ConnackParams) :
    HoldsRequested { session := (c.session.applyConnack params).2, requested := c.requested } := by
  rcases c.session.applyConnack_cases params with ⟨-, method, accepted⟩ | ⟨-, same⟩
  · rw [accepted]
    have auth := Session.checkMethod_authState (fun initial => (holds initial).1) method
    apply holdsRequested_of_left
    rw [Session.acceptConnack_eq]
    simp only [Session.applyParams, auth]
    split
    · intro initial
      cases initial
    · assumption
  · rw [same]
    exact holds

theorem perform_holds (holds : c.HoldsRequested) :
    HoldsRequested { session := c.session.perform op, requested := c.requestedAfter op } := by
  cases kept : Session.keepsConnection op with
  | true =>
    have connection := c.session.perform_sameConnection kept
    exact holdsRequested_of_same holds (by cases op <;> first | rfl | cases kept) connection.1 connection.3
  | false =>
    cases op
    case applyConnack params => exact applyConnack_holds holds params
    case connectSent | reset =>
      apply holdsRequested_of_left
      intro initial
      cases initial
    case connectSentWithAuth method =>
      cases v5 : c.session.isV5 with
      | false =>
        intro initial
        simp only [Session.perform, Session.connectSentWithAuth, v5] at initial
        have version := (holds initial).1
        simp [Session.isV5, version] at v5
      | true =>
        intro initial
        simp only [Session.isV5, decide_eq_true_eq] at v5
        simp only [requestedAfter, Session.perform, Session.connectSentWithAuth, Session.isV5, v5]
        refine ⟨v5, ?_, rfl⟩
        intro missing
        cases missing
    case connected sessionPresent =>
      refine holdsRequested_of_same holds rfl ?_ ?_ <;> simp only [Session.perform, Session.connected] <;>
        split <;> rfl
    case disconnectSent | disconnectReceived | disconnected => exact holdsRequested_of_same holds rfl rfl rfl
    case reauthenticateSent =>
      simp only [Session.perform, Session.reauthenticateSent, AuthStateMachine.reauthenticateSent]
      split
      · exact holds
      · apply holdsRequested_of_left
        intro initial
        cases initial
    case authReceived reasonCode method =>
      intro initial
      have same := AuthStateMachine.authReceived_initial initial
      exact holdsRequested_of_same (s := c.session.perform (.authReceived reasonCode method)) holds rfl rfl same initial
    all_goals cases kept

theorem applyConnack_ok_iff :
    (c.session.applyConnack params).1 = .ok () ↔
      c.session.PassesChecks params ∧ (c.session.checkMethod params).1 = .ok () := by
  rw [← Session.checkConnack_ok_iff]
  rcases c.session.applyConnack_cases params with ⟨checked, method, accepted⟩ | ⟨refused, -⟩
  · simp [checked, method, accepted]
  · refine ⟨fun accepted => absurd accepted refused, ?_⟩
    rintro ⟨checked, method⟩
    rw [Session.applyConnack_accepted checked method]

theorem connackAcceptable_iff (holds : c.HoldsRequested) :
    c.ConnackAcceptable params ↔
      c.session.PassesChecks params ∧ (c.session.checkMethod params).1 = .ok () := by
  rw [Session.checkMethod_ok_iff]
  have expected : c.session.authState.state = .initialAuthenticating →
      c.session.authState.authMethod = c.requested := fun initial => (holds initial).2.2
  constructor
  · rintro ⟨passes, method⟩
    refine ⟨passes, fun v5 => ?_⟩
    have needed := method v5
    split at needed
    · rename_i initial
      rw [if_pos initial, expected initial]
      exact needed
    · rename_i other
      rw [if_neg other]
      exact needed
  · rintro ⟨passes, method⟩
    refine ⟨passes, fun v5 => ?_⟩
    have needed := method v5
    split at needed
    · rename_i initial
      rw [if_pos initial, ← expected initial]
      exact needed
    · rename_i other
      rw [if_neg other]
      exact needed

theorem applyConnack_error (holds : c.HoldsRequested) (refused : (c.session.applyConnack params).1 ≠ .ok ()) :
    ∃ reason, (c.session.applyConnack params).1 = .error reason := by
  unfold Session.applyConnack at refused ⊢
  cases checked : c.session.checkConnack params with
  | error reason => exact ⟨reason, rfl⟩
  | ok done =>
    have method : (c.session.checkMethod params).1 ≠ .ok () := by
      intro method
      have accepted := Session.applyConnack_accepted checked method
      unfold Session.applyConnack at accepted
      exact refused (congrArg Prod.fst accepted)
    have known : c.session.authState.state = .initialAuthenticating → c.session.authState.authMethod ≠ none := by
      intro initial
      rw [(holds initial).2.2]
      exact (holds initial).2.1
    obtain ⟨reason, failed⟩ : ∃ reason, (c.session.checkMethod params).1 = .error reason := by
      cases version : c.session.protocolVersion with
      | v5 =>
        rw [Ne, (Session.checkMethod_v5 version).1] at method
        obtain ⟨reason, failed⟩ := AuthStateMachine.connackReceived_error known method
        refine ⟨Session.methodError reason, ?_⟩
        simp only [Session.checkMethod, Session.isV5, version, decide_true, ↓reduceIte]
        split <;> simp_all
      | v311 => simp [Session.checkMethod_v311 version] at method
    rcases after : c.session.checkMethod params with ⟨outcome, next⟩
    obtain rfl : outcome = .error reason := by simpa only [after] using failed
    exact ⟨reason, rfl⟩

theorem next_holds {c d : AuthClient} {op : SessionOp} (holds : c.HoldsRequested) (step : Steps next c op d) :
    d.HoldsRequested := by
  cases step
  exact perform_holds holds

theorem HoldsRequested.atomicConnack (holds : c.HoldsRequested) (params : ConnackParams) : c.AtomicConnack params := by
  refine ⟨?_, ?_, ?_⟩
  · intro refused
    have error := applyConnack_error holds refused
    rcases c.session.applyConnack_cases params with ⟨-, -, accepted⟩ | ⟨-, same⟩
    · rw [accepted] at refused
      exact absurd rfl refused
    · exact ⟨error, same⟩
  · rw [connackAcceptable_iff holds]
    exact applyConnack_ok_iff
  · intro ok
    have ⟨passes, method⟩ := applyConnack_ok_iff.mp ok
    have accepted := Session.applyConnack_accepted (Session.checkConnack_ok_iff.mpr passes) method
    rw [accepted]
    exact Session.acceptConnack_negotiated passes method fun initial => (holds initial).1

theorem applyConnack_atomic {version : MqttVersion} {clientId : String} {cleanStart : Bool} {fresh : Session}
    {ops : List SessionOp} {c : AuthClient} (created : Session.new version clientId cleanStart = .ok fresh)
    (run : Run (Steps next) (start fresh) ops c) (params : ConnackParams) : c.AtomicConnack params := by
  have begun : (start fresh).HoldsRequested := by
    rw [Session.new_eq_ok created]
    exact holdsRequested_of_left nofun
  exact (run.invariant next_holds begun).atomicConnack params

def authenticatedConnect : List SessionOp :=
  [.configureForConnect 30 0 0 10 0, .connectSentWithAuth "SCRAM", .publishSent .atLeastOnce 1]

theorem authenticatedConnect_atomic :
    ∃ c, Run (Steps next) (start (Session.initial .v5 "client" false)) authenticatedConnect c ∧
      c.AtomicConnack { ConnackParams.successV5 true (some 5) with authenticationMethod := some "SCRAM" } := by
  have created : Session.new .v5 "client" false = .ok (Session.initial .v5 "client" false) := rfl
  have completes : (runFrom next (start (Session.initial .v5 "client" false)) authenticatedConnect).isSome = true := by
    decide
  obtain ⟨c, ends⟩ := Option.isSome_iff_exists.mp completes
  have run := run_of_runFrom ends
  exact ⟨c, run, applyConnack_atomic created run _⟩

end AuthClient

end MqttRs
