import MqttRs.State.Correspondence.Steps
import MqttRs.State.Replay

namespace MqttRs

section Resumed

variable {s t : Session} {settings : ConnectSettings} {params : ConnackParams}

theorem Session.resumed_eq_some (resumed : s.resumed settings params = some t) :
    s.Reconnects settings params t ∧ params.sessionPresent = true := by
  unfold Session.resumed at resumed
  split at resumed
  · rename_i configured accepted
    split at resumed
    · rename_i session applied
      split at resumed <;> cases resumed
      rename_i present
      exact ⟨⟨configured, accepted, applied⟩, present⟩
    · cases resumed
  · cases resumed

/-- A resumed session has all its flows, none of them counted, and nothing in flight. -/
theorem Session.resumed_flows (resumed : s.resumed settings params = some t) :
    t.qosFlow = s.qosFlow.clearQuotaCharges ∧ t.QuotaBacked ∧ t.flowControl.incomingCount = 0 := by
  obtain ⟨reconnects, present⟩ := resumed_eq_some resumed
  have connected := reconnects_connected reconnects
  obtain ⟨configured, accepted, applied⟩ := reconnects
  obtain rfl := configureWith_ok accepted
  have done : ((s.configuredWith settings).connectSent.applyConnack params).1 = .ok () := by rw [applied]
  have flows := (resumed_keeps done present).1
  rw [applied] at flows
  refine ⟨flows, ?_, by rw [connected.flowControl]⟩
  rcases (s.configuredWith settings).connectSent.applyConnack_cases params with ⟨checked, -, result⟩ | ⟨refused, -⟩
  · obtain rfl : (s.configuredWith settings).connectSent.acceptConnack params = t :=
      congrArg Prod.snd (result.symm.trans applied)
    exact acceptConnack_backed (connectSent_backed _) checked fun _ => rfl
  · exact absurd done refused

theorem PacketIdUser.resumed_eq_some {u v : PacketIdUser} (resumed : u.resumed settings params = some v) :
    u.session.resumed settings params = some v.session ∧ v.held = u.held := by
  obtain ⟨session, found, rfl⟩ := Option.map_eq_some_iff.mp resumed
  exact ⟨found, rfl⟩

/-- The identifiers of unfinished exchanges and those that the user holds stay taken. -/
theorem PacketIdUser.resumed_balanced {u v : PacketIdUser} (balanced : u.Balanced)
    (resumed : u.resumed settings params = some v) : v.Balanced := by
  obtain ⟨found, held⟩ := resumed_eq_some resumed
  obtain ⟨⟨configured, accepted, applied⟩, present⟩ := Session.resumed_eq_some found
  have configures : u.next (.configureForConnect settings.keepAliveSecs settings.sessionExpiryInterval
      settings.topicAliasMaximum settings.receiveMaximum settings.maximumPacketSize) = some ⟨configured, u.held⟩ := by
    have session : u.session.perform (.configureForConnect settings.keepAliveSecs settings.sessionExpiryInterval
      settings.topicAliasMaximum settings.receiveMaximum settings.maximumPacketSize) = configured :=
      congrArg Prod.snd accepted
    simp only [next, allowed, ↓reduceIte, session, heldAfter]
  have connects : next ⟨configured, u.held⟩ .connectSent = some ⟨configured.connectSent, u.held⟩ := rfl
  have resumes : next ⟨configured.connectSent, u.held⟩ (.applyConnack params) = some v := by
    have kept : configured.connectSent.cleanStart = false := by
      rcases configured.connectSent.applyConnack_cases params with ⟨checked, -, -⟩ | ⟨refused, -⟩
      · exact Session.cleanStart_of_resumed checked present
      · rw [applied] at refused
        exact absurd rfl refused
    simp [next, allowed, heldAfter, Session.perform, applied, kept, present, ← held]
  exact next_balanced (next_balanced (next_balanced balanced configures) connects) resumes

end Resumed

namespace Correspondence

variable {c d : Correspondence} {e : Exchange} {id : UInt16} {publisher : PacketIdUser} {subscriber : Session}
  {action : Action}

theorem asks_eq (c : Correspondence) (id : UInt16) :
    (c.exchange id).asks id = c.publisher.session.qosFlow.needsRetransmission id := by
  simp only [exchange, Exchange.asks, Conversation.sending, QosFlowManager.needsRetransmission]
  cases c.publisher.session.qosFlow.outgoing.get? id with
  | none => rfl
  | some flow => cases known : flow.state <;> simp [known]

/-- What is sent again: the PUBLISH of a flow that waits for its first answer, and else its PUBREL. -/
theorem Standing.asks_cases (standing : Standing e) (asks : e.asks id = some action) :
    (action = .resendPublish id ∧ ∃ qos, e.level = some qos ∧ e.sending = some (Session.openingState qos)) ∨
    (action = .resendPubrel id ∧ ∃ message receiving, (∀ state ∈ receiving, state = FlowState.awaitingPubrel) ∧
      e = ⟨message, some .exactlyOnce, true, some .awaitingPubcomp, receiving⟩) := by
  cases standing with
  | idle => cases asks
  | published message qos real =>
    refine .inl ⟨?_, qos, rfl, rfl⟩
    cases qos <;> cases asks <;> rfl
  | taken =>
    cases asks
    exact .inl ⟨rfl, .atLeastOnce, rfl, rfl⟩
  | stored =>
    cases asks
    exact .inl ⟨rfl, .exactlyOnce, rfl, rfl⟩
  | released message receiving kept =>
    cases asks
    exact .inr ⟨rfl, message, receiving, kept, rfl⟩

section Resending

variable {rest : List (UInt16 × Action)}

theorem resent_settles (steady : c.Steady) (listed : c.resends = (id, action) :: rest) (packet : PublisherPacket)
    (keyed : packet.packetId = id) (balanced : publisher.Balanced) (backed : publisher.session.QuotaBacked)
    (others : ∀ other, other ≠ id →
      publisher.session.qosFlow.outgoing.get? other = c.publisher.session.qosFlow.outgoing.get? other)
    (same : (publisher.session.qosFlow.outgoing.get? id).map OutgoingFlow.state = c.sending id)
    (stage : Stage id (c.exchange id) ⟨[packet], [], [], []⟩) (work : packet.work < resendWork action) :
    c.Settles { c with publisher, forward := c.forward ++ [packet], resends := rest } := by
  obtain ⟨-, -, carried⟩ := stage_of_resend steady listed
  simp only [traffic, Traffic.mk.injEq] at carried
  obtain ⟨noForward, noBackward, notOwed, own⟩ := carried
  have notListed : rest.filter (fun entry => decide (entry.1 = id)) = [] := by simpa [listed] using own
  have sending : ∀ other, (publisher.session.qosFlow.outgoing.get? other).map OutgoingFlow.state = c.sending other := by
    intro other
    by_cases here : other = id
    · rw [here]
      exact same
    · rw [others other here]
      rfl
  have exchanges : ∀ other,
      exchange { c with publisher, forward := c.forward ++ [packet], resends := rest } other = c.exchange other :=
    fun other => exchange_other rfl (fun _ => rfl) (sending other) rfl rfl
  refine ⟨.steady (steady_of_one id steady ?_ ?_ steady.matched balanced backed steady.silent ?_ steady.once ?_
    steady.counted), ?_⟩
  · intro other different
    refine ⟨exchanges other, traffic_other ?_ rfl rfl ?_⟩
    · simp [traffic, keyed, Ne.symm different]
    · simp [traffic, listed, Ne.symm different]
  · convert stage using 1
    · exact exchanges id
    · simp [traffic, keyed, noForward, noBackward, notOwed, notListed]
  · convert steady.sound using 1
    simp only [delivery, Delivery.mk.injEq, and_true]
    funext other
    exact congrArg (Option.map fun _ => c.messages other) (sending other)
  · intro entry member
    have different : entry.1 ≠ id := by
      intro here
      have found : entry ∈ rest.filter fun entry => decide (entry.1 = id) := by simp [member, here]
      rw [notListed] at found
      cases found
    rw [QosFlowManager.isQuotaCharged, others entry.1 different]
    exact steady.uncharged entry (listed ▸ .tail _ member)
  · simp only [Correspondence.work, listed, List.map_append, List.sum_append, List.map_cons, List.map_nil,
      List.sum_cons, List.sum_nil]
    omega

theorem resendPublish_of_listed (steady : c.Steady) (listed : c.resends = (id, .resendPublish id) :: rest)
    {flow : OutgoingFlow} (present : c.publisher.session.qosFlow.outgoing.get? id = some flow) :
    c.publisher.session.resendPublish id =
      if c.publisher.session.flowControl.outstandingCount < c.publisher.session.flowControl.receiveMaximum then
        (.ok (some (.resendPublish id)),
          { c.publisher.session with
            flowControl := { c.publisher.session.flowControl with
              outstandingCount := c.publisher.session.flowControl.outstandingCount.saturatingAdd 1 }
            qosFlow := c.publisher.session.qosFlow.markQuotaCharged id })
      else (.error .receiveMaximumExceeded, c.publisher.session) := by
  obtain ⟨-, asks, -⟩ := stage_of_resend steady listed
  rw [asks_eq] at asks
  have uncharged := steady.uncharged (id, .resendPublish id) (listed ▸ .head _)
  exact Session.resendPublish_uncharged asks present (by simpa [QosFlowManager.isQuotaCharged, present] using uncharged)

theorem resendPublish_settles (steady : c.Steady) (listed : c.resends = (id, .resendPublish id) :: rest) {qos : QoS}
    (level : (c.exchange id).level = some qos) (waits : c.sending id = some (Session.openingState qos))
    (step : c.resend = some d) : c.Settles d := by
  obtain ⟨standing, -, -⟩ := stage_of_resend steady listed
  obtain ⟨flow, present, state⟩ := Option.map_eq_some_iff.mp waits
  have known : c.levels (c.messages id) = qos := by simpa [exchange, waits] using level
  have result := resendPublish_of_listed steady listed present
  by_cases room : c.publisher.session.flowControl.outstandingCount < c.publisher.session.flowControl.receiveMaximum
  · rw [if_pos room] at result
    have resends : c.publisher.next (.resendPublish id) =
      some { c.publisher with session := (c.publisher.session.resendPublish id).2 } := rfl
    have balanced := PacketIdUser.next_balanced steady.balanced resends
    have backed := Session.resendPublish_backed steady.backed id
    have charged : (c.publisher.session.resendPublish id).2.qosFlow.outgoing =
        c.publisher.session.qosFlow.outgoing.insert id { flow with quotaCharged := true } := by
      rw [result, QosFlowManager.markQuotaCharged_present present]
    have granted : c.publisher.session.resendPublish id =
        (.ok (some (.resendPublish id)), (c.publisher.session.resendPublish id).2) :=
      Prod.ext (by rw [result]) rfl
    clear result
    generalize (c.publisher.session.resendPublish id).2 = session at *
    simp only [resend, listed, granted, known] at step
    cases step
    refine resent_settles steady listed _ rfl balanced backed ?_ ?_ (.publishing _ standing qos level waits) ?_
    · intro other different
      simp [charged, different]
    · simp [charged, state, waits]
    · cases qos <;> simp [PublisherPacket.work, resendWork]
  · rw [if_neg room] at result
    simp only [resend, listed, result] at step
    cases step

theorem resendPubrel_settles (steady : c.Steady) (listed : c.resends = (id, .resendPubrel id) :: rest) {message : Nat}
    {receiving : Option FlowState} (kept : ∀ state ∈ receiving, state = FlowState.awaitingPubrel)
    (known : c.exchange id = ⟨message, some .exactlyOnce, true, some .awaitingPubcomp, receiving⟩)
    (step : c.resend = some d) : c.Settles d := by
  obtain ⟨-, asks, -⟩ := stage_of_resend steady listed
  rw [asks_eq] at asks
  have granted : c.publisher.session.resendPubrel id = some (.resendPubrel id) := by
    simp only [Session.resendPubrel, asks]
  simp only [resend, listed, granted] at step
  cases step
  exact resent_settles steady listed (.pubrel id) rfl steady.balanced steady.backed (fun _ _ => rfl) rfl
    (known ▸ .releasing message receiving kept) (Nat.lt_succ_self 2)

theorem resend_settles (steady : c.Steady) (step : c.resend = some d) : c.Settles d := by
  cases listed : c.resends with
  | nil =>
    simp only [resend, listed] at step
    cases step
  | cons entry rest =>
    obtain ⟨id, action⟩ := entry
    obtain ⟨standing, asks, -⟩ := stage_of_resend steady listed
    rcases standing.asks_cases asks with ⟨rfl, qos, level, waits⟩ | ⟨rfl, message, receiving, kept, known⟩
    · exact resendPublish_settles steady listed level waits step
    · exact resendPubrel_settles steady listed kept known step

end Resending

section Reconnecting

variable {settings subscriberSettings : ConnectSettings} {params subscriberParams : ConnackParams}

theorem retransmissions_of_key (s : Session) (id : UInt16) :
    s.pendingRetransmissions.filter (fun entry => decide (entry.1 = id)) =
      ((s.qosFlow.needsRetransmission id).map fun action => (id, action)).toList := by
  have keyed : ∀ id entry,
      (s.qosFlow.needsRetransmission id).map (fun action => (id, action)) = some entry → entry.1 = id := by
    intro id entry asked
    obtain ⟨action, -, rfl⟩ := Option.map_eq_some_iff.mp asked
    rfl
  rw [Session.pendingRetransmissions, List.filter_filterMap_of_key keyed s.qosFlow.pendingPacketIds_nodup id]
  split
  · rfl
  · rename_i absent
    have none : s.qosFlow.outgoing.get? id = none := by
      by_contra present
      exact absent (QosFlowManager.mem_pendingPacketIds.mpr (Option.ne_none_iff_exists'.mp present))
    simp [QosFlowManager.needsRetransmission, none]

theorem Standing.stage (standing : Standing e) :
    Stage id e ⟨[], [], [], ((e.asks id).map fun action => (id, action)).toList⟩ := by
  cases asked : e.asks id with
  | some action => exact .lost e standing action asked
  | none =>
    cases standing with
    | idle message => exact .idle message
    | published message qos => cases qos <;> cases asked
    | taken | stored | released => cases asked

theorem reconnected_steady (lasting : c.Lasting) (publishes : c.publisher.resumed settings params = some publisher)
    (receives : c.subscriber.resumed subscriberSettings subscriberParams = some subscriber) :
    (c.reconnected publisher subscriber).Steady := by
  obtain ⟨found, -⟩ := PacketIdUser.resumed_eq_some publishes
  obtain ⟨flows, backed, -⟩ := Session.resumed_flows found
  obtain ⟨received, -, uncounted⟩ := Session.resumed_flows receives
  have incoming : subscriber.qosFlow.incoming = c.subscriber.qosFlow.incoming := by rw [received]; rfl
  have sending : ∀ id, (c.reconnected publisher subscriber).sending id = c.sending id := by
    intro id
    simp only [Conversation.sending, reconnected, flows, QosFlowManager.clearQuotaCharges, OrderedMap.get?_mapValues,
      Option.map_map]
    rfl
  have exchanges : ∀ id, (c.reconnected publisher subscriber).exchange id = c.exchange id := fun id =>
    exchange_other rfl (fun _ => rfl) (sending id) rfl (by rw [reconnected, incoming])
  have stages : ∀ id, Stage id ((c.reconnected publisher subscriber).exchange id)
      ((c.reconnected publisher subscriber).traffic id) := by
    intro id
    have carried : (c.reconnected publisher subscriber).traffic id =
        ⟨[], [], [], (((c.exchange id).asks id).map fun action => (id, action)).toList⟩ := by
      rw [← exchanges, asks_eq, ← retransmissions_of_key]
      rfl
    rw [exchanges, carried]
    exact (lasting.standing id).stage
  refine ⟨⟨PacketIdUser.resumed_balanced lasting.balanced publishes, backed, ?_, fun id => (stages id).standing, ?_,
    lasting.once⟩, rfl, stages, ?_, ?_⟩
  · show subscriber.qosFlow.outgoing = .empty
    rw [received, QosFlowManager.clearQuotaCharges, lasting.silent]
    rfl
  · convert lasting.sound using 1
    simp only [delivery, sending]
    rfl
  · intro entry _
    show publisher.session.qosFlow.isQuotaCharged entry.1 = false
    rw [flows, QosFlowManager.isQuotaCharged, QosFlowManager.clearQuotaCharges, OrderedMap.get?_mapValues]
    cases c.publisher.session.qosFlow.outgoing.get? entry.1 <;> rfl
  · show subscriber.flowControl.incomingCount.toNat ≤ _
    rw [uncounted]
    exact Nat.zero_le _

end Reconnecting

end Correspondence

end MqttRs
