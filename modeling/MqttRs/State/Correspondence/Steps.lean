import MqttRs.State.Conversation.Stages
import MqttRs.State.Correspondence.Stages
import MqttRs.State.ReceiveQuota

namespace MqttRs

namespace Correspondence

variable {c d : Correspondence} {id : UInt16} {publisher : PacketIdUser} {subscriber : Session}

section Frame

theorem steady_of_one (id : UInt16) (steady : c.Steady) (elsewhere : Elsewhere c d id)
    (here : Stage id (d.exchange id) (d.traffic id)) (matched : d.failed = false) (balanced : d.publisher.Balanced)
    (backed : d.publisher.session.QuotaBacked) (silent : d.subscriber.qosFlow.outgoing = .empty)
    (sound : d.delivery.Sound) (once : ∀ message, d.levels message = .exactlyOnce → d.accepted.count message ≤ 1)
    (uncharged : ∀ entry ∈ d.resends, d.publisher.session.qosFlow.isQuotaCharged entry.1 = false)
    (counted : d.incomingCount ≤ d.subscriber.qosFlow.incoming.size) : d.Steady :=
  have stages := stages_of_one id steady elsewhere here
  ⟨⟨balanced, backed, silent, fun other => (stages other).standing, sound, once⟩, matched, stages, uncharged, counted⟩

theorem publisher_steady (steady : c.Steady) (balanced : publisher.Balanced)
    (same : Session.SameSending c.publisher.session publisher.session) : Steady { c with publisher } := by
  have exchanges : ∀ id, exchange { c with publisher } id = c.exchange id := by
    intro id
    simp only [exchange, Conversation.sending, same.outgoing]
  have deliveries : delivery { c with publisher } = c.delivery := by
    simp only [delivery, Conversation.sending, same.outgoing]
  refine ⟨⟨balanced, same.backed steady.backed, steady.silent, ?_, ?_, steady.once⟩, steady.matched, ?_, ?_,
    steady.counted⟩
  · intro id
    rw [exchanges id]
    exact steady.standing id
  · rw [deliveries]
    exact steady.sound
  · intro id
    rw [exchanges id]
    exact steady.stages id
  · intro entry listed
    have before := steady.uncharged entry listed
    rw [QosFlowManager.isQuotaCharged] at before ⊢
    rw [same.outgoing]
    exact before

theorem subscriber_steady (steady : c.Steady) (sending : Session.SameSending c.subscriber subscriber)
    (receiving : Session.SameReceiving c.subscriber subscriber) : Steady { c with subscriber } := by
  have exchanges : ∀ id, exchange { c with subscriber } id = c.exchange id := by
    intro id
    simp only [exchange, Conversation.sending, receiving.incoming]
  refine ⟨⟨steady.balanced, steady.backed, ?_, ?_, steady.sound, steady.once⟩, steady.matched, ?_, steady.uncharged, ?_⟩
  · rw [sending.outgoing]
    exact steady.silent
  · intro id
    rw [exchanges id]
    exact steady.standing id
  · intro id
    rw [exchanges id]
    exact steady.stages id
  · rw [Conversation.incomingCount, receiving.incomingCount, receiving.incoming]
    exact steady.counted

end Frame

section Publishing

theorem published_older (sound : c.delivery.Sound) : c.published ∉ c.accepted := fun member =>
  Nat.lt_irrefl _ (sound.acceptedPublished _ (List.mem_eraseDups.mpr member))

theorem carried_older (sound : c.delivery.Sound) (open' : c.sending id ≠ none) : c.messages id ≠ c.published := by
  obtain ⟨state, flow⟩ := Option.ne_none_iff_exists'.mp open'
  have carried : c.delivery.inProgress id = some (c.messages id) := by simp [delivery, flow]
  exact Nat.ne_of_lt (sound.carriedPublished _ _ carried)

theorem relevel_steady (steady : c.Steady) (qos : QoS) :
    Steady { c with levels := Function.update c.levels c.published qos } := by
  have exchanges : ∀ id, exchange { c with levels := Function.update c.levels c.published qos } id = c.exchange id :=
    fun id => exchange_other rfl (fun open' => Function.update_of_ne (carried_older steady.sound open') _ _) rfl rfl rfl
  refine ⟨⟨steady.balanced, steady.backed, steady.silent, ?_, steady.sound, ?_⟩, steady.matched, ?_, steady.uncharged,
    steady.counted⟩
  · intro id
    rw [exchanges id]
    exact steady.standing id
  · intro message level
    by_cases new : message = c.published
    · rw [new, List.count_eq_zero.mpr (published_older steady.sound)]
      exact Nat.zero_le 1
    · exact steady.once message (by simpa [new] using level)
  · intro id
    rw [exchanges id]
    exact steady.stages id

theorem sent_steady (steady : c.Steady) {qos : QoS} (real : qos ≠ .atMostOnce) (level : c.levels c.published = qos)
    (balanced : publisher.Balanced) (backed : publisher.session.QuotaBacked)
    (absent : c.publisher.session.qosFlow.outgoing.get? id = none) {flow : OutgoingFlow}
    (state : flow.state = Session.openingState qos)
    (outgoing : publisher.session.qosFlow.outgoing = c.publisher.session.qosFlow.outgoing.insert id flow) :
    Steady { c with
      publisher
      forward := c.forward ++ [.publish qos id c.published]
      messages := Function.update c.messages id c.published
      published := c.published + 1 } := by
  have free : c.sending id = none := by simp [Conversation.sending, absent]
  obtain ⟨message, idle, quiet⟩ := stage_of_free steady free
  simp only [exchange, Exchange.mk.injEq] at idle
  simp only [traffic, Traffic.mk.injEq] at quiet
  obtain ⟨-, -, -, -, closed⟩ := idle
  obtain ⟨noForward, noBackward, notOwed, notListed⟩ := quiet
  refine steady_of_one id steady ?_ ?_ steady.matched balanced backed steady.silent ?_ steady.once ?_ steady.counted
  · intro other different
    refine ⟨exchange_other ?_ (fun _ => rfl) ?_ rfl rfl, traffic_other ?_ rfl rfl rfl⟩
    · simp [different]
    · simp [Conversation.sending, outgoing, different]
    · simp [traffic, Ne.symm different]
  · have fresh := published_older steady.sound
    convert Stage.publishing _ (Standing.published c.published qos real) qos rfl rfl using 1
    · simp [exchange, Conversation.sending, outgoing, state, fresh, closed, level]
    · simp [traffic, noForward, noBackward, notOwed, notListed]
  · convert (Delivery.Step.publish c.delivery id (by simp [delivery, free])).sound steady.sound using 1
    simp only [delivery, Delivery.mk.injEq, and_true]
    funext other
    by_cases same : other = id
    · subst same
      simp [Conversation.sending, outgoing]
    · simp [Conversation.sending, outgoing, same]
  · refine uncharged_other steady notListed fun other different => ?_
    simp [outgoing, different]

theorem publish_steady (steady : c.Steady) {qos : QoS}
    (step : c.publisher.next (.publishSent qos id) = some publisher) :
    (c.conversed (.publish qos id) (c.toConversation.publish qos id publisher)).Steady := by
  obtain ⟨permitted, session⟩ := PacketIdUser.next_eq_some step
  have balanced := PacketIdUser.next_balanced steady.balanced step
  have unused := (PacketIdUser.exchanges_of_held steady.balanced (of_decide_eq_true permitted)).1
  have fresh : c.publisher.session.qosFlow.outgoing.contains id = false := by
    cases known : c.publisher.session.qosFlow.outgoing.contains id with
    | false => rfl
    | true => simp [Session.exchanges, known] at unused
  have absent := OrderedMap.contains_false_iff.mp fresh
  have backed : publisher.session.QuotaBacked := session ▸ Session.publishSent_backed steady.backed qos fresh
  have leveled := relevel_steady steady qos
  rw [Session.perform] at session
  rcases c.publisher.session.publishSent_cases qos id with ⟨real, nonzero, -, sent⟩ | ⟨reason, refused⟩
  · rw [sent, QosFlowManager.publishSent_new nonzero absent] at session
    have outgoing := congrArg (fun s : Session => s.qosFlow.outgoing) session
    simp only [Conversation.publish, sent, ↓reduceIte, conversed]
    exact sent_steady leveled real (by simp) balanced backed absent rfl outgoing
  · rw [refused] at session
    simp only [Conversation.publish, refused, reduceCtorEq, ↓reduceIte, conversed]
    exact publisher_steady leveled balanced (session ▸ .refl _)

end Publishing

section Taking

variable {qos : QoS} {message : Nat} {reasonCode : UInt8} {sent : List PublisherPacket}

/-- What a PUBLISH finds: nothing, or what an earlier one under its identifier has left. -/
theorem exchange_of_publish (steady : c.Steady) (queued : c.forward = .publish qos id message :: sent) :
    (qos ≠ .atMostOnce ∧ c.messages id ∉ c.accepted ∧ c.subscriber.qosFlow.incoming.get? id = none) ∨
    (qos = .atLeastOnce ∧ c.messages id ∈ c.accepted ∧
      ∀ state ∈ c.subscriber.qosFlow.incoming.get? id, state = FlowState.incomingAwaitingPuback) ∨
    (qos = .exactlyOnce ∧ c.messages id ∈ c.accepted ∧
      c.subscriber.qosFlow.incoming.get? id = some .awaitingPubrel) := by
  obtain ⟨-, level, flow, -⟩ := stage_of_publish steady queued
  have standing := steady.standing id
  have accepted : (c.exchange id).accepted = decide (c.messages id ∈ c.accepted) := by simp [exchange, flow]
  have receiving : (c.exchange id).receiving = c.subscriber.qosFlow.incoming.get? id := rfl
  have sending : (c.exchange id).sending = some (Session.openingState qos) := flow
  rw [← receiving]
  generalize c.exchange id = e at *
  cases standing with
  | idle => cases sending
  | published message qos' real =>
    cases level
    exact .inl ⟨real, of_decide_eq_false accepted.symm, rfl⟩
  | taken message receiving kept =>
    cases level
    exact .inr (.inl ⟨rfl, of_decide_eq_true accepted.symm, kept⟩)
  | stored =>
    cases level
    exact .inr (.inr ⟨rfl, of_decide_eq_true accepted.symm, rfl⟩)
  | released =>
    cases level
    cases sending

/-- A PUBLISH that the receive quota refuses is dropped with the connection. -/
theorem refuse_sound (steady : c.Steady) (queued : c.forward = .publish qos id message :: sent) (owed : List UInt16)
    (closed : c.subscriber.qosFlow.incoming.get? id = none)
    (full : c.subscriber.flowControl.ownReceiveMaximum ≤ c.subscriber.flowControl.incomingCount) :
    Sound { c with forward := sent, failed := true, owed } := by
  obtain ⟨-, -, flow, -⟩ := stage_of_publish steady queued
  have beyond := beyond_of_refused steady flow closed full
  exact .refused rfl ⟨steady.balanced, steady.backed, steady.silent, steady.standing, steady.sound, steady.once⟩ beyond

theorem take_steady (subscriber : Session) (replies : List SubscriberPacket) (owing : List UInt16)
    (accepted : List Nat) (steady : c.Steady) (queued : c.forward = .publish qos id message :: sent) {state : FlowState}
    (opens : subscriber.qosFlow.incoming = c.subscriber.qosFlow.incoming.insert id state)
    (silent : subscriber.qosFlow.outgoing = .empty)
    (counted : subscriber.flowControl.incomingCount.toNat ≤ subscriber.qosFlow.incoming.size)
    (logged : accepted = c.accepted ++ [message] ∨ (accepted = c.accepted ∧ message ∈ c.accepted))
    (once : c.levels message = .exactlyOnce → accepted.count message ≤ 1)
    (answers : ∀ reply ∈ replies, reply.packetId = id) (owes : ∀ other ∈ owing, other = id)
    (stage : Stage id ⟨message, some qos, true, some (Session.openingState qos), some state⟩ ⟨[], replies, owing, []⟩) :
    Steady { c with
      subscriber
      forward := sent
      backward := c.backward ++ replies
      accepted
      owed := owing ++ c.owed } := by
  obtain ⟨rfl, level, flow, traffic⟩ := stage_of_publish steady queued
  simp only [Correspondence.traffic, Traffic.mk.injEq] at traffic
  obtain ⟨forward, noBackward, notOwed, notListed⟩ := traffic
  have noSent : sent.filter (fun packet => decide (packet.packetId = id)) = [] := by simpa [queued] using forward
  have own : replies.filter (fun packet => decide (packet.packetId = id)) = replies :=
    List.filter_eq_self.mpr fun reply member => decide_eq_true (answers reply member)
  have ownOwed : owing.filter (fun other => decide (other = id)) = owing :=
    List.filter_eq_self.mpr fun other member => decide_eq_true (owes other member)
  have carried : c.delivery.inProgress id = some (c.messages id) := by simp [delivery, flow]
  have known : c.messages id ∈ accepted := by
    rcases logged with rfl | ⟨rfl, member⟩
    · simp
    · exact member
  refine steady_of_one id steady ?_ ?_ steady.matched steady.balanced steady.backed silent ?_ ?_ steady.uncharged counted
  · intro other different
    refine ⟨exchange_other rfl (fun _ => rfl) rfl ?_ ?_, traffic_other ?_ ?_ ?_ rfl⟩
    · rcases logged with rfl | ⟨rfl, -⟩
      · exact Conversation.accepted_elsewhere steady.sound.distinct flow different
      · rfl
    · simp [opens, different]
    · simp [Correspondence.traffic, queued, Ne.symm different]
    · have none : replies.filter (fun packet => decide (packet.packetId = other)) = [] := by
        refine List.filter_eq_nil_iff.mpr fun reply member => ?_
        simpa [answers reply member] using Ne.symm different
      simp [Correspondence.traffic, none]
    · have none : owing.filter (fun id => decide (id = other)) = [] := by
        refine List.filter_eq_nil_iff.mpr fun owed member => ?_
        simpa [owes owed member] using Ne.symm different
      simp [Correspondence.traffic, none]
  · convert stage using 1
    · have level : c.levels (c.messages id) = qos := by simpa [exchange, flow] using level
      have flow : (c.publisher.session.qosFlow.outgoing.get? id).map OutgoingFlow.state =
        some (Session.openingState qos) := flow
      simp [exchange, Conversation.sending, flow, known, opens, level]
    · simp [Correspondence.traffic, noSent, noBackward, notOwed, notListed, own, ownOwed]
  · rcases logged with rfl | ⟨rfl, -⟩
    · exact Delivery.log_sound steady.sound rfl carried
    · exact steady.sound
  · intro other level
    by_cases same : other = c.messages id
    · rw [same]
      exact once (same ▸ level)
    · rcases logged with rfl | ⟨rfl, -⟩
      · simpa [List.count_append, Ne.symm same] using steady.once other level
      · exact steady.once other level

/-- A PUBLISH is counted, unless its flow is open already, or refused at the limit. -/
theorem counted_of_publish (steady : c.Steady) (id : UInt16) :
    (∃ t, c.subscriber.countIncoming id = (.ok (), t) ∧ t.qosFlow = c.subscriber.qosFlow ∧
      ∀ state, t.flowControl.incomingCount.toNat ≤ (c.subscriber.qosFlow.incoming.insert id state).size) ∨
    (c.subscriber.countIncoming id = (.error .receiveMaximumExceeded, c.subscriber) ∧
      c.subscriber.qosFlow.incoming.get? id = none ∧
      c.subscriber.flowControl.ownReceiveMaximum ≤ c.subscriber.flowControl.incomingCount) := by
  have before : c.subscriber.flowControl.incomingCount.toNat ≤ c.subscriber.qosFlow.incoming.size := steady.counted
  rcases c.subscriber.countIncoming_cases id with ⟨known, same⟩ | ⟨new, room, counts⟩ | ⟨new, full, refused⟩
  · obtain ⟨old, present⟩ := OrderedMap.contains_iff.mp known
    refine .inl ⟨_, same, rfl, fun state => ?_⟩
    rw [OrderedMap.size_insert_present _ _ present]
    exact before
  · have absent := OrderedMap.contains_false_iff.mp new
    refine .inl ⟨_, counts, rfl, fun state => ?_⟩
    rw [OrderedMap.size_insert_new _ _ absent]
    exact (UInt16.saturatingAdd_one_of_lt room).trans_le (Nat.add_le_add_right before 1)
  · exact .inr ⟨refused, OrderedMap.contains_false_iff.mp new, full⟩

theorem opened_flows {t : Session} (flows : t.qosFlow = c.subscriber.qosFlow) (state : FlowState) :
    (Subscriber.opened t id state).qosFlow.incoming = c.subscriber.qosFlow.incoming.insert id state ∧
      (Subscriber.opened t id state).qosFlow.outgoing = c.subscriber.qosFlow.outgoing := by
  rw [← flows]
  exact ⟨rfl, rfl⟩

/-- A stored message that comes again is not handed to the application again. -/
theorem receivePublishQos2_steady (steady : c.Steady) (success : ¬0x80 ≤ reasonCode)
    (queued : c.forward = .publish .exactlyOnce id (c.messages id) :: sent) {t : Session}
    (counts : c.subscriber.countIncoming id = (.ok (), t)) (flows : t.qosFlow = c.subscriber.qosFlow)
    (counted : ∀ state, t.flowControl.incomingCount.toNat ≤ (c.subscriber.qosFlow.incoming.insert id state).size) :
    (c.conversed (.subscriberTakes reasonCode)
      ({ c.toConversation with forward := sent }.receivePublish .exactlyOnce id (c.messages id) reasonCode)).Steady := by
  obtain ⟨opens, silent⟩ := opened_flows flows .awaitingPubrel
  have stage : Stage id
      ⟨c.messages id, some .exactlyOnce, true, some (Session.openingState .exactlyOnce), some .awaitingPubrel⟩
      ⟨[], [.pubrec id reasonCode], [], []⟩ := .stored (c.messages id) reasonCode success
  simp only [Conversation.receivePublish, Subscriber.handlePublishQos2_counted counts, Session.pubrecSent, success,
    ↓reduceIte, conversed, owedAfter, levelsAfter, queued]
  refine take_steady _ _ [] _ steady queued opens (silent.trans steady.silent) ?_ ?_ ?_ ?_ ?_ stage
  · rw [opens]
    exact counted .awaitingPubrel
  · rcases exchange_of_publish steady queued with ⟨-, new, closed⟩ | ⟨other, -, -⟩ | ⟨-, known, waiting⟩
    · left
      simp [flows, OrderedMap.contains, closed]
    · cases other
    · right
      simp [flows, OrderedMap.contains, waiting, known]
  · intro level
    rcases exchange_of_publish steady queued with ⟨-, new, closed⟩ | ⟨other, -, -⟩ | ⟨-, known, waiting⟩
    · simp [flows, OrderedMap.contains, closed, List.count_append, List.count_eq_zero.mpr new]
    · cases other
    · simpa [flows, OrderedMap.contains, waiting] using steady.once _ level
  · simp
  · simp

theorem receivePublishQos1_steady (steady : c.Steady)
    (queued : c.forward = .publish .atLeastOnce id (c.messages id) :: sent) {t : Session}
    (counts : c.subscriber.countIncoming id = (.ok (), t)) (flows : t.qosFlow = c.subscriber.qosFlow)
    (counted : ∀ state, t.flowControl.incomingCount.toNat ≤ (c.subscriber.qosFlow.incoming.insert id state).size) :
    (c.conversed (.subscriberTakes reasonCode)
      ({ c.toConversation with forward := sent }.receivePublish .atLeastOnce id (c.messages id) reasonCode)).Steady := by
  obtain ⟨-, level, flow, -⟩ := stage_of_publish steady queued
  have level : c.levels (c.messages id) = .atLeastOnce := by simpa [exchange, flow] using level
  obtain ⟨opens, silent⟩ := opened_flows flows .incomingAwaitingPuback
  have stage : Stage id
      ⟨c.messages id, some .atLeastOnce, true, some (Session.openingState .atLeastOnce), some .incomingAwaitingPuback⟩
      ⟨[], [], [id], []⟩ := .received (c.messages id)
  simp only [Conversation.receivePublish, Subscriber.handlePublishQos1_counted counts, reduceCtorEq, ↓reduceIte,
    conversed, owedAfter, levelsAfter, queued]
  have taken := take_steady _ [] [id] (c.accepted ++ [c.messages id]) steady queued opens (silent.trans steady.silent)
    (by rw [opens]; exact counted .incomingAwaitingPuback) (.inl rfl) (fun other => by simp [level] at other) (by simp)
    (by simp) stage
  simpa using taken

theorem receivePublish_settles (steady : c.Steady) (success : ¬0x80 ≤ reasonCode)
    (queued : c.forward = .publish qos id message :: sent) :
    c.Settles (c.conversed (.subscriberTakes reasonCode)
      ({ c.toConversation with forward := sent }.receivePublish qos id message reasonCode)) := by
  obtain ⟨rfl, -, -, -⟩ := stage_of_publish steady queued
  have found := exchange_of_publish steady queued
  rcases counted_of_publish steady id with ⟨t, counts, flows, counted⟩ | ⟨refused, closed, full⟩
  · cases qos with
    | exactlyOnce =>
      refine ⟨.steady (receivePublishQos2_steady steady success queued counts flows counted), ?_⟩
      simp only [Conversation.receivePublish, Subscriber.handlePublishQos2_counted counts, conversed, owedAfter,
        queued, work, PublisherPacket.work, SubscriberPacket.work, List.map_cons, List.map_append, List.map_nil,
        List.sum_cons, List.sum_append, List.sum_nil, ↓reduceIte]
      omega
    | atLeastOnce =>
      refine ⟨.steady (receivePublishQos1_steady steady queued counts flows counted), ?_⟩
      simp only [Conversation.receivePublish, Subscriber.handlePublishQos1_counted counts, reduceCtorEq, conversed,
        owedAfter, queued, work, PublisherPacket.work, List.map_cons, List.sum_cons, List.length_cons, ↓reduceIte]
      omega
    | atMostOnce => simp at found
  · obtain ⟨refused1, refused2⟩ := Subscriber.handlePublish_refused refused
    cases qos with
    | exactlyOnce =>
      simp only [Conversation.receivePublish, refused2, ↓reduceIte, conversed, owedAfter, levelsAfter, queued]
      refine ⟨refuse_sound steady queued _ closed full, ?_⟩
      simp only [work, queued, PublisherPacket.work, List.map_cons, List.sum_cons, ↓reduceIte]
      omega
    | atLeastOnce =>
      simp only [Conversation.receivePublish, refused1, reduceCtorEq, ↓reduceIte, conversed, owedAfter, levelsAfter,
        queued]
      refine ⟨refuse_sound steady queued _ closed full, ?_⟩
      simp only [work, queued, PublisherPacket.work, List.map_cons, List.sum_cons, List.length_cons, reduceCtorEq,
        ↓reduceIte]
      omega
    | atMostOnce => simp at found

end Taking

section Answering

variable {reasonCode : UInt8} {sent : List PublisherPacket}

theorem answer_steady (subscriber : Session) (reply : SubscriberPacket) (owed : List UInt16) (steady : c.Steady)
    {e : Exchange} (known : c.exchange id = e)
    (receiving : ∀ other, subscriber.qosFlow.incoming.get? other =
      if other = id then none else c.subscriber.qosFlow.incoming.get? other)
    (silent : subscriber.qosFlow.outgoing = .empty)
    (counted : subscriber.flowControl.incomingCount.toNat ≤ subscriber.qosFlow.incoming.size)
    (answers : reply.packetId = id)
    (others : ∀ other, other ≠ id →
      sent.filter (fun packet => decide (packet.packetId = other)) = (c.traffic other).forward ∧
        owed.filter (fun id => decide (id = other)) = (c.traffic other).owed)
    (noForward : sent.filter (fun packet => decide (packet.packetId = id)) = [])
    (notOwed : owed.filter (fun other => decide (other = id)) = [])
    (noBackward : (c.traffic id).backward = []) (notListed : (c.traffic id).resends = [])
    (stage : Stage id { e with receiving := none } ⟨[], [reply], [], []⟩) :
    Steady { c with subscriber, forward := sent, backward := c.backward ++ [reply], owed } := by
  refine steady_of_one id steady ?_ ?_ steady.matched steady.balanced steady.backed silent steady.sound steady.once
    steady.uncharged counted
  · intro other different
    obtain ⟨forward, owes⟩ := others other different
    refine ⟨exchange_other rfl (fun _ => rfl) rfl rfl ?_, traffic_other forward ?_ owes rfl⟩
    · rw [receiving, if_neg different]
    · simp [traffic, answers, Ne.symm different]
  · simp only [traffic] at noBackward notListed
    convert stage using 1
    · simp [← known, exchange, Conversation.sending, receiving]
    · simp [traffic, answers, noForward, notOwed, noBackward, notListed]

theorem erase_counted (steady : c.Steady) {state : FlowState}
    (present : c.subscriber.qosFlow.incoming.get? id = some state) :
    (c.subscriber.flowControl.incomingCount.saturatingSub 1).toNat ≤ (c.subscriber.qosFlow.incoming.erase id).size := by
  have before : c.subscriber.flowControl.incomingCount.toNat ≤ c.subscriber.qosFlow.incoming.size := steady.counted
  have size := OrderedMap.size_erase_present _ present
  rw [UInt16.toNat_saturatingSub]
  simp only [UInt16.reduceToNat]
  omega

theorem receivePubrel_settles (steady : c.Steady) (queued : c.forward = .pubrel id :: sent) :
    c.Settles (c.conversed (.subscriberTakes reasonCode)
      ({ c.toConversation with forward := sent }.receivePubrel id)) := by
  obtain ⟨message, receiving, kept, known, carried⟩ := stage_of_pubrel steady queued
  have flow : c.subscriber.qosFlow.incoming.get? id = receiving := congrArg Exchange.receiving known
  have forward : sent.filter (fun packet => decide (packet.packetId = id)) = [] := by
    simpa [traffic, queued] using congrArg Traffic.forward carried
  have others : ∀ other, other ≠ id →
      sent.filter (fun packet => decide (packet.packetId = other)) = (c.traffic other).forward ∧
        c.owed.filter (fun id => decide (id = other)) = (c.traffic other).owed := by
    intro other different
    simp [traffic, queued, Ne.symm different]
  have answer (subscriber : Session) (closes : ∀ other, subscriber.qosFlow.incoming.get? other =
        if other = id then none else c.subscriber.qosFlow.incoming.get? other)
      (silent : subscriber.qosFlow.outgoing = .empty)
      (counted : subscriber.flowControl.incomingCount.toNat ≤ subscriber.qosFlow.incoming.size) :
      c.Settles { c with subscriber, forward := sent, backward := c.backward ++ [.pubcomp id] } := by
    refine ⟨.steady (answer_steady subscriber _ c.owed steady known closes silent counted rfl others forward
      (congrArg Traffic.owed carried) (congrArg Traffic.backward carried) (congrArg Traffic.resends carried)
      (.released message)), ?_⟩
    simp only [work, queued, List.map_cons, List.map_append, List.map_nil, List.sum_cons, List.sum_append,
      List.sum_nil, PublisherPacket.work, SubscriberPacket.work]
    omega
  cases receiving with
  | some state =>
    obtain rfl := kept state rfl
    simp only [Conversation.receivePubrel, Session.handlePubrel, QosFlowManager.pubrelReceived_finished flow, conversed,
      owedAfter, levelsAfter, queued]
    refine answer _ ?_ steady.silent (erase_counted steady flow)
    simp [Session.pubcompSent]
  | none =>
    have absent : c.subscriber.qosFlow.outgoing.contains id = false := by
      rw [steady.silent]
      rfl
    simp only [Conversation.receivePubrel, Session.handlePubrel, QosFlowManager.pubrelReceived_absent flow, absent,
      Bool.false_eq_true, ↓reduceIte, conversed, owedAfter, levelsAfter, queued]
    refine answer _ ?_ steady.silent steady.counted
    intro other
    split
    · rename_i same
      rw [same, flow]
    · rfl

theorem acknowledge_settles (steady : c.Steady) (owes : id ∈ c.owed) :
    c.Settles (c.conversed (.acknowledge id)
      { c.toConversation with subscriber := c.subscriber.pubackSent id, backward := c.backward ++ [.puback id] }) := by
  obtain ⟨message, known, carried⟩ := stage_of_owed steady owes
  have waiting : c.subscriber.qosFlow.incoming.get? id = some .incomingAwaitingPuback :=
    congrArg Exchange.receiving known
  have own : c.owed.filter (fun other => decide (other = id)) = [id] := congrArg Traffic.owed carried
  simp only [conversed, owedAfter, levelsAfter]
  refine ⟨.steady (answer_steady _ _ _ steady known ?_ ?_ ?_ rfl (fun other different => ⟨rfl, ?_⟩)
    (congrArg Traffic.forward carried) ?_ (congrArg Traffic.backward carried) (congrArg Traffic.resends carried)
    (.acknowledged message)), ?_⟩
  · simp [Session.pubackSent, QosFlowManager.pubackSent_finished waiting]
  · rw [Session.pubackSent, QosFlowManager.pubackSent_finished waiting]
    exact steady.silent
  · simp only [Session.pubackSent, QosFlowManager.pubackSent_finished waiting]
    exact erase_counted steady waiting
  · rw [← List.erase_filter]
    exact List.erase_of_not_mem (by simp [Ne.symm different])
  · rw [← List.erase_filter, own]
    simp
  · have fewer := List.length_erase_of_mem owes
    have some := List.length_pos_of_mem owes
    simp only [work, List.map_append, List.sum_append, List.map_cons, List.map_nil, List.sum_cons, List.sum_nil,
      SubscriberPacket.work]
    omega

end Answering

section Acknowledged

variable {replied : List SubscriberPacket}

theorem finish_settles (steady : c.Steady) {packet : SubscriberPacket} {e : Exchange} {state : FlowState}
    (queued : c.backward = packet :: replied) (answers : packet.packetId = id) (known : c.exchange id = e)
    (carried : c.traffic id = ⟨[], [packet], [], []⟩) (taken : e.accepted = true) (waiting : e.sending = some state)
    (closed : e.receiving = none) (balanced : publisher.Balanced)
    (session : publisher.session = c.publisher.session.finishOutgoing id) :
    c.Settles { c with publisher, backward := replied, completed := c.completed ++ [c.messages id] } := by
  subst known
  have flow : c.sending id = some state := waiting
  have accepted : c.messages id ∈ c.accepted := by simpa [exchange, flow] using taken
  have noBackward : replied.filter (fun packet => decide (packet.packetId = id)) = [] := by
    simpa [traffic, queued, answers] using congrArg Traffic.backward carried
  obtain ⟨sentFlow, present, -⟩ := Option.map_eq_some_iff.mp flow
  have outgoing : publisher.session.qosFlow.outgoing = c.publisher.session.qosFlow.outgoing.erase id := by
    rw [session]
    rfl
  have complete := Delivery.Step.complete c.delivery id (c.messages id) (by simp [delivery, flow])
    (List.mem_eraseDups.mpr accepted)
  refine ⟨.steady (steady_of_one id steady ?_ ?_ steady.matched balanced ?_ steady.silent ?_ steady.once ?_
    steady.counted), ?_⟩
  · intro other different
    refine ⟨exchange_other rfl (fun _ => rfl) ?_ rfl rfl, traffic_other rfl ?_ rfl rfl⟩
    · simp [Conversation.sending, outgoing, different]
    · have elsewhere : packet.packetId ≠ other := answers ▸ Ne.symm different
      simp [traffic, queued, elsewhere]
  · simp only [traffic, Traffic.mk.injEq] at carried
    obtain ⟨noForward, -, notOwed, notListed⟩ := carried
    convert Stage.idle (c.messages id) using 1
    · have closed : c.subscriber.qosFlow.incoming.get? id = none := closed
      simp [exchange, Conversation.sending, outgoing, closed]
    · simp [traffic, noForward, noBackward, notOwed, notListed]
  · exact session ▸ Session.finishOutgoing_backed steady.backed present
  · convert complete.sound steady.sound using 1
    simp only [delivery, Delivery.mk.injEq, and_true]
    funext other
    by_cases same : other = id
    · subst same
      simp [Conversation.sending, outgoing]
    · simp [Conversation.sending, outgoing, same]
  · refine uncharged_other steady (congrArg Traffic.resends carried) fun other different => ?_
    simp [outgoing, different]
  · have positive := packet.work_ne_zero
    simp only [work, queued, List.map_cons, List.sum_cons]
    omega

theorem receivePubrec_settles (steady : c.Steady) {reasonCode : UInt8}
    (queued : c.backward = .pubrec id reasonCode :: replied) (balanced : publisher.Balanced) {flow : OutgoingFlow}
    (present : c.publisher.session.qosFlow.outgoing.get? id = some flow)
    (session : publisher.session = c.publisher.session.advanceOutgoing id flow) :
    c.Settles { c with publisher, backward := replied, forward := c.forward ++ [.pubrel id] } := by
  obtain ⟨-, message, known, carried⟩ := stage_of_pubrec steady queued
  have noBackward : replied.filter (fun packet => decide (packet.packetId = id)) = [] := by
    simpa [traffic, queued] using congrArg Traffic.backward carried
  obtain ⟨advanced, state, outgoing⟩ : ∃ advanced : OutgoingFlow, advanced.state = .awaitingPubcomp ∧
      publisher.session.qosFlow.outgoing = c.publisher.session.qosFlow.outgoing.insert id advanced := by
    rw [session]
    exact ⟨_, rfl, rfl⟩
  refine ⟨.steady (steady_of_one id steady ?_ ?_ steady.matched balanced ?_ steady.silent ?_ steady.once ?_
    steady.counted), ?_⟩
  · intro other different
    refine ⟨exchange_other rfl (fun _ => rfl) ?_ rfl rfl, traffic_other ?_ ?_ rfl rfl⟩
    · simp [Conversation.sending, outgoing, different]
    · simp [traffic, Ne.symm different]
    · simp [traffic, queued, Ne.symm different]
  · have flow : c.sending id = some .awaitingPubrec := congrArg Exchange.sending known
    simp only [exchange, flow, Exchange.mk.injEq] at known
    obtain ⟨-, level, accepted, -, receiving⟩ := known
    simp only [traffic, Traffic.mk.injEq] at carried
    obtain ⟨noForward, -, notOwed, notListed⟩ := carried
    convert Stage.releasing (c.messages id) (some .awaitingPubrel) (fun _ same => (Option.some.inj same).symm) using 1
    · simp only [Option.map_some, Option.some.injEq, Option.isSome_some, Bool.true_and] at level accepted
      simp [exchange, Conversation.sending, outgoing, state, level, of_decide_eq_true accepted, receiving]
    · simp [traffic, noForward, noBackward, notOwed, notListed]
  · exact session ▸ Session.advanceOutgoing_backed steady.backed present
  · convert steady.sound using 1
    simp only [delivery, Delivery.mk.injEq, and_true]
    funext other
    by_cases same : other = id
    · subst same
      simp [Conversation.sending, outgoing, present]
    · simp [Conversation.sending, outgoing, same]
  · refine uncharged_other steady (congrArg Traffic.resends carried) fun other different => ?_
    simp [outgoing, different]
  · simp only [work, queued, List.map_append, List.sum_append, List.map_cons, List.map_nil, List.sum_cons,
      List.sum_nil, PublisherPacket.work, SubscriberPacket.work]
    omega

theorem answered_settles (steady : c.Steady) {packet : SubscriberPacket} (queued : c.backward = packet :: replied)
    (step : c.publisher.next (Conversation.receipt packet) = some publisher) :
    c.Settles (c.conversed .publisherTakes
      ({ c.toConversation with backward := replied }.answered
        (Conversation.result c.publisher.session packet) publisher)) := by
  have balanced := PacketIdUser.next_balanced steady.balanced step
  have session := (PacketIdUser.next_eq_some step).2
  cases packet with
  | puback id =>
    obtain ⟨message, known, carried⟩ := stage_of_puback steady queued
    obtain ⟨flow, present, waiting⟩ := Option.map_eq_some_iff.mp (congrArg Exchange.sending known)
    have finished := Session.handlePuback_finished present waiting
    simp only [Conversation.receipt, Session.perform, finished] at session
    simp only [Conversation.result, finished, Conversation.answered, conversed, owedAfter, levelsAfter]
    exact finish_settles steady queued rfl known carried rfl rfl rfl balanced session
  | pubcomp id =>
    obtain ⟨message, known, carried⟩ := stage_of_pubcomp steady queued
    obtain ⟨flow, present, waiting⟩ := Option.map_eq_some_iff.mp (congrArg Exchange.sending known)
    have finished := Session.handlePubcomp_finished present waiting
    simp only [Conversation.receipt, Session.perform, finished] at session
    simp only [Conversation.result, finished, Conversation.answered, conversed, owedAfter, levelsAfter]
    exact finish_settles steady queued rfl known carried rfl rfl rfl balanced session
  | pubrec id reasonCode =>
    obtain ⟨success, message, known, carried⟩ := stage_of_pubrec steady queued
    obtain ⟨flow, present, waiting⟩ := Option.map_eq_some_iff.mp (congrArg Exchange.sending known)
    have moved := Session.handlePubrec_advanced success present waiting
    simp only [Conversation.receipt, Session.perform, moved] at session
    simp only [Conversation.result, moved, Conversation.answered, conversed, owedAfter, levelsAfter]
    exact receivePubrec_settles steady queued balanced present session

end Acknowledged

end Correspondence

end MqttRs
