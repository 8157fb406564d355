import MqttRs.State.Negotiation

namespace MqttRs

structure ConnectSettings where
  keepAliveSecs : UInt16
  sessionExpiryInterval : UInt32
  topicAliasMaximum : UInt16
  receiveMaximum : UInt16
  maximumPacketSize : UInt32

namespace Session

def configureWith (s : Session) (settings : ConnectSettings) : Except FlowControlError Unit × Session :=
  s.configureForConnect settings.keepAliveSecs settings.sessionExpiryInterval settings.topicAliasMaximum
    settings.receiveMaximum settings.maximumPacketSize

def Reconnects (s : Session) (settings : ConnectSettings) (params : ConnackParams) (t : Session) : Prop :=
  ∃ configured, s.configureWith settings = (.ok (), configured) ∧
    configured.connectSent.applyConnack params = (.ok (), t)

/-- Two sessions whose connections have the same parameters and nothing in flight. -/
structure SameParameters (s t : Session) : Prop where
  connectionState : s.connectionState = t.connectionState
  keepAliveSecs : s.keepAlive.keepAliveSecs = t.keepAlive.keepAliveSecs
  awaitingPingresp : s.keepAlive.isAwaitingPingresp = t.keepAlive.isAwaitingPingresp
  sessionExpiryInterval : s.sessionExpiryInterval = t.sessionExpiryInterval
  topicAliasManager : s.topicAliasManager = t.topicAliasManager
  noAliases : s.topicAliasManager.aliasCount = 0 ∧ t.topicAliasManager.aliasCount = 0
  flowControl : s.flowControl = t.flowControl
  nothingOutstanding : s.flowControl.outstandingCount = 0 ∧ t.flowControl.outstandingCount = 0
  nothingIncoming : s.flowControl.incomingCount = 0 ∧ t.flowControl.incomingCount = 0
  serverCapabilities : s.serverCapabilities = t.serverCapabilities
  authState : s.authState = t.authState
  limits : s.limits = t.limits

section Connection

variable {s t : Session} {settings : ConnectSettings} {params : ConnackParams}

def configuredWith (s : Session) (settings : ConnectSettings) : Session :=
  { s with
    keepAlive := s.keepAlive.setKeepAlive settings.keepAliveSecs
    sessionExpiryInterval := settings.sessionExpiryInterval
    topicAliasManager := s.topicAliasManager.setOwnMaximum settings.topicAliasMaximum
    flowControl := { s.flowControl with ownReceiveMaximum := settings.receiveMaximum }
    limits := if 0 < settings.maximumPacketSize then
        Limits.new.withMaxPacketSize settings.maximumPacketSize.toNat
      else s.limits }

theorem configureWith_ok {configured : Session} (accepted : s.configureWith settings = (.ok (), configured)) :
    configured = s.configuredWith settings := by
  unfold configureWith configureForConnect FlowControl.setOwnReceiveMaximum at accepted
  by_cases zero : settings.receiveMaximum = 0
  · simp [zero] at accepted
  · simp only [zero, ↓reduceIte] at accepted
    split at accepted <;> rename_i size <;> cases accepted <;> simp [configuredWith, size]

theorem reconnects_accepted (reconnects : s.Reconnects settings params t) :
    ((s.configuredWith settings).connectSent.checkMethod params).1 = .ok () ∧
      t = (s.configuredWith settings).connectSent.acceptConnack params := by
  obtain ⟨configured, accepted, applied⟩ := reconnects
  rw [configureWith_ok accepted] at applied
  rcases (s.configuredWith settings).connectSent.applyConnack_cases params with ⟨-, method, result⟩ | ⟨refused, -⟩
  · rw [result] at applied
    exact ⟨method, (congrArg Prod.snd applied).symm⟩
  · rw [applied] at refused
    exact absurd rfl refused

/-- The parameters of a connection as far as they follow from the settings and the CONNACK alone. -/
structure ConnectedBy (settings : ConnectSettings) (params : ConnackParams) (t : Session) : Prop where
  connectionState : t.connectionState = .connected
  keepAliveSecs : t.keepAlive.keepAliveSecs = params.serverKeepAlive.getD settings.keepAliveSecs
  awaitingPingresp : t.keepAlive.pingreqSentAt = none
  sessionExpiryInterval : t.sessionExpiryInterval =
    params.sessionExpiryInterval.getD settings.sessionExpiryInterval
  topicAliasManager : t.topicAliasManager =
    { aliasToTopic := []
      topicToAlias := List.replicate ((params.topicAliasMaximum.getD 0).toNat + 1) none
      ownMaximum := settings.topicAliasMaximum
      peerMaximum := params.topicAliasMaximum.getD 0 }
  flowControl : t.flowControl =
    { receiveMaximum := params.receiveMaximum.getD 65535
      outstandingCount := 0
      initialized := params.receiveMaximum.isSome
      ownReceiveMaximum := settings.receiveMaximum
      incomingCount := 0 }
  serverCapabilities : t.serverCapabilities = (applyParams (initial .v5 "" true) params).serverCapabilities
  authState : t.authState = .new

theorem connectSent_topicAliasManager (s : Session) :
    s.connectSent.topicAliasManager =
      { aliasToTopic := [], topicToAlias := [none], ownMaximum := s.topicAliasManager.ownMaximum, peerMaximum := 0 } :=
  rfl

theorem setPeerMaximum_unused (own max : UInt16) :
    TopicAliasManager.setPeerMaximum
        { aliasToTopic := [], topicToAlias := [none], ownMaximum := own, peerMaximum := 0 } max =
      { aliasToTopic := [], topicToAlias := List.replicate (max.toNat + 1) none
        ownMaximum := own, peerMaximum := max } := by
  unfold TopicAliasManager.setPeerMaximum TopicAliasManager.ensureSendCapacity TopicAliasManager.ensureCapacity
  dsimp only
  split
  · simp [List.replicate_succ]
  · rename_i fits
    obtain zero : max.toNat = 0 := by simpa using fits
    simp [zero]

theorem reconnects_connected (reconnects : s.Reconnects settings params t) : ConnectedBy settings params t := by
  have ⟨method, result⟩ := reconnects_accepted reconnects
  have auth := checkMethod_authState (s := (s.configuredWith settings).connectSent) nofun method
  have aliases := connectSent_topicAliasManager (s.configuredWith settings)
  rw [result, acceptConnack_eq]
  constructor
  case authState => exact auth
  case keepAliveSecs =>
    cases known : params.serverKeepAlive <;>
      simp [applyParams, known, connectSent, resetConnectionState, KeepAlive.pingrespReceived, configuredWith,
        KeepAlive.setKeepAlive]
  case awaitingPingresp =>
    cases known : params.serverKeepAlive <;>
      simp [applyParams, known, connectSent, resetConnectionState, KeepAlive.pingrespReceived, KeepAlive.setKeepAlive]
  case sessionExpiryInterval => rfl
  case topicAliasManager =>
    simp only [applyParams, aliases]
    cases params.topicAliasMaximum with
    | none => rfl
    | some max => exact setPeerMaximum_unused _ max
  case flowControl =>
    cases params.receiveMaximum <;>
      simp [applyParams, connectSent, resetConnectionState, FlowControl.reset, configuredWith]
  all_goals rfl

theorem reconnects_limits (reconnects : s.Reconnects settings params t) :
    t.limits = if 0 < settings.maximumPacketSize then
        Limits.new.withMaxPacketSize settings.maximumPacketSize.toNat
      else s.limits := by
  rw [(reconnects_accepted reconnects).2, acceptConnack_eq]
  rfl

theorem connectedBy_noAliases (connected : ConnectedBy settings params t) : t.topicAliasManager.aliasCount = 0 := by
  simp [TopicAliasManager.aliasCount, connected.topicAliasManager, List.countP_replicate]

end Connection

/-- After a reconnect with the same settings and CONNACK, the connections of two sessions have the same
    parameters exactly when the settings give a Maximum Packet Size or the earlier size limits were the same. -/
theorem reconnect_sameParameters_iff {s₁ s₂ t₁ t₂ : Session} {settings : ConnectSettings} {params : ConnackParams}
    (first : s₁.Reconnects settings params t₁) (second : s₂.Reconnects settings params t₂) :
    SameParameters t₁ t₂ ↔ 0 < settings.maximumPacketSize ∨ s₁.limits = s₂.limits := by
  have left := reconnects_connected first
  have right := reconnects_connected second
  have limits : t₁.limits = t₂.limits ↔ 0 < settings.maximumPacketSize ∨ s₁.limits = s₂.limits := by
    rw [reconnects_limits first, reconnects_limits second]
    split <;> rename_i size <;> simp [size]
  refine ⟨fun same => limits.mp same.limits, fun condition => ?_⟩
  constructor
  case limits => exact limits.mpr condition
  case noAliases => exact ⟨connectedBy_noAliases left, connectedBy_noAliases right⟩
  case awaitingPingresp => simp only [KeepAlive.isAwaitingPingresp, left.awaitingPingresp, right.awaitingPingresp]
  case nothingOutstanding | nothingIncoming => simp only [left.flowControl, right.flowControl, and_self]
  case connectionState => rw [left.connectionState, right.connectionState]
  case keepAliveSecs => rw [left.keepAliveSecs, right.keepAliveSecs]
  case sessionExpiryInterval => rw [left.sessionExpiryInterval, right.sessionExpiryInterval]
  case topicAliasManager => rw [left.topicAliasManager, right.topicAliasManager]
  case flowControl => rw [left.flowControl, right.flowControl]
  case serverCapabilities => rw [left.serverCapabilities, right.serverCapabilities]
  case authState => rw [left.authState, right.authState]

def unlimitedSettings : ConnectSettings where
  keepAliveSecs := 60
  sessionExpiryInterval := 0
  topicAliasMaximum := 4
  receiveMaximum := 10
  maximumPacketSize := 0

def limitedSession : Session :=
  (initial .v5 "client" true).configuredWith { unlimitedSettings with maximumPacketSize := 100 }

def reconnected (s : Session) (settings : ConnectSettings) : Session :=
  ((s.configuredWith settings).connectSent.applyConnack (.successV5 false none)).2

theorem limitedSession_sameParameters :
    SameParameters (reconnected limitedSession { unlimitedSettings with maximumPacketSize := 50 })
        (reconnected (initial .v5 "client" true) { unlimitedSettings with maximumPacketSize := 50 }) ↔
      (0 : UInt32) < 50 ∨ limitedSession.limits = (initial .v5 "client" true).limits := by
  have first : limitedSession.Reconnects { unlimitedSettings with maximumPacketSize := 50 } (.successV5 false none)
      (reconnected limitedSession { unlimitedSettings with maximumPacketSize := 50 }) := ⟨_, rfl, rfl⟩
  have second : (initial .v5 "client" true).Reconnects { unlimitedSettings with maximumPacketSize := 50 }
      (.successV5 false none) (reconnected (initial .v5 "client" true) { unlimitedSettings with maximumPacketSize := 50 }) :=
    ⟨_, rfl, rfl⟩
  exact reconnect_sameParameters_iff first second

theorem reconnect_keeps_old_limits :
    ¬∀ s₁ s₂ settings params t₁ t₂, Reachable s₁ → Reachable s₂ → s₁.protocolVersion = s₂.protocolVersion →
      s₁.clientId = s₂.clientId → s₁.cleanStart = s₂.cleanStart → s₁.Reconnects settings params t₁ →
      s₂.Reconnects settings params t₂ → SameParameters t₁ t₂ := by
  intro claim
  have limited : Reachable limitedSession :=
    ⟨.v5, "client", true, _, [.configureForConnect 60 0 4 10 100], rfl, .cons rfl (.nil _)⟩
  have fresh : Reachable (initial .v5 "client" true) := ⟨.v5, "client", true, _, [], rfl, .nil _⟩
  have same := claim limitedSession (initial .v5 "client" true) unlimitedSettings (.successV5 false none)
    (reconnected limitedSession unlimitedSettings) (reconnected (initial .v5 "client" true) unlimitedSettings)
    limited fresh rfl rfl rfl ⟨_, rfl, rfl⟩ ⟨_, rfl, rfl⟩
  have limits := same.limits
  revert limits
  decide

end Session

end MqttRs
