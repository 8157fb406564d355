import MqttRs.State.Conversation.Steps

namespace MqttRs

namespace Conversation

variable {c d : Conversation} {id : UInt16} {publisher : PacketIdUser} {subscriber : Session}

theorem settles_of_next (steady : c.Steady) {op : ConversationOp} (settling : op.settles = true)
    (step : Steps next c op d) : c.Settles d := by
  cases op with
  | subscriberTakes reasonCode =>
    simp only [Steps, next] at step
    split at step
    · cases step
    rename_i success
    split at step <;> cases step
    · rename_i queued
      exact receivePublish_settles steady success queued
    · rename_i queued
      exact receivePubrel_settles steady queued
  | acknowledge packetId =>
    simp only [Steps, next] at step
    split at step <;> cases step
    rename_i waiting
    exact acknowledge_settles steady waiting
  | publisherTakes =>
    simp only [Steps, next] at step
    split at step
    · cases step
    · rename_i packet replied queued
      obtain ⟨publisher, received, rfl⟩ := Option.map_eq_some_iff.mp step
      exact answered_settles steady queued received
  | publish | publisherCalls | subscriberCalls => cases settling

theorem next_steady {op : ConversationOp} (steady : c.Steady) (step : Steps next c op d) : d.Steady := by
  cases settling : op.settles with
  | true => exact (settles_of_next steady settling step).steady
  | false =>
    cases op with
    | publish qos packetId =>
      obtain ⟨publisher, sent, rfl⟩ := Option.map_eq_some_iff.mp step
      exact publish_steady steady sent
    | publisherCalls op =>
      simp only [Steps, next] at step
      split at step
      · rename_i keeps
        obtain ⟨publisher, called, rfl⟩ := Option.map_eq_some_iff.mp step
        have same := c.publisher.session.perform_sameSending keeps
        rw [← (PacketIdUser.next_eq_some called).2] at same
        exact publisher_steady steady (PacketIdUser.next_balanced steady.balanced called) same
      · cases step
    | subscriberCalls op =>
      simp only [Steps, next] at step
      split at step <;> cases step
      rename_i keeps
      exact subscriber_steady steady (c.subscriber.perform_sameReceiving keeps)
    | subscriberTakes | acknowledge | publisherTakes => cases settling

/-- No call for a packet of the other side fails, both quotas count exactly the open flows, a PUBLISH is refused only
    when as many are open as the subscriber takes, and every message is delivered exactly once. -/
structure Safe (c : Conversation) : Prop where
  matched : c.failed = false
  sent : c.publisher.session.outstanding = c.outgoingCount
  received : c.incomingCount = c.subscriber.qosFlow.incoming.size
  counted : c.incomingCount ≤ c.outgoingCount
  within : c.outgoingCount ≤ c.ownReceiveMaximum
  publishes : ∀ qos packetId, qos ≠ .atMostOnce → packetId ∈ c.publisher.held →
    ((c.publisher.session.publishSent qos packetId).1 = .ok () ↔ c.outgoingCount < c.publisher.session.sendLimit)
  delivered : c.delivery.ExactlyOnce

theorem Steady.safe (steady : c.Steady) : c.Safe where
  matched := steady.matched
  sent := steady.sent
  received := steady.received
  counted := incoming_le steady
  within := steady.within.trans steady.limit
  publishes qos packetId real held := by
    have nonzero := PacketIdUser.nonzero_of_held steady.balanced held
    rw [Session.publishSent_ok_iff, ← steady.sent, and_iff_right real, and_iff_right nonzero]
    exact UInt16.lt_iff_toNat_lt
  delivered := steady.sound.toExactlyOnce

/-- Two sessions that talk to each other keep to the protocol, in whatever order they send, receive and acknowledge
    packets and whatever else they do meanwhile. -/
theorem conversation_safe {ops : List ConversationOp} (paired : Paired publisher subscriber)
    (run : Run (Steps next) (start publisher subscriber) ops c) : c.Safe :=
  (run.invariant (fun steady step => next_steady steady step) (start_steady paired)).safe

def connectedPublisher : PacketIdUser :=
  .start ((Session.initial .v5 "publisher" true).connectSent.applyConnack (.successV5 false (some 2))).2

def configuredSubscriber : Session := ((Session.initial .v5 "subscriber" true).configureForConnect 60 0 0 2 0).2

theorem connected_paired : Paired connectedPublisher configuredSubscriber where
  balanced := ⟨PacketIdManager.new_valid, fun _ => rfl⟩
  sendsNothing := by decide
  nothingSent := by decide
  receivesNothing := by decide
  nothingReceived := by decide
  limit := by decide

def publishedRun : List ConversationOp :=
  [.publisherCalls .allocatePacketId, .publish .atLeastOnce 1, .publisherCalls .allocatePacketId,
    .publish .exactlyOnce 2, .publisherCalls .allocatePacketId, .publish .atLeastOnce 3, .subscriberTakes 0]

theorem publishedRun_safe :
    ∃ c, Run (Steps next) (start connectedPublisher configuredSubscriber) publishedRun c ∧ c.published = 2 ∧
      c.Safe := by
  have completes : (runFrom next (start connectedPublisher configuredSubscriber) publishedRun).any (fun c =>
      decide (c.published = 2)) = true := by decide
  obtain ⟨c, ends, published⟩ := (Option.any_eq_true _ _).mp completes
  have run := run_of_runFrom ends
  exact ⟨c, run, of_decide_eq_true published, conversation_safe connected_paired run⟩

/-- Nothing is on its way, no flow is open or counted, and what was published is completed. -/
structure Quiet (c : Conversation) : Prop where
  forward : c.forward = []
  backward : c.backward = []
  outgoing : c.publisher.session.qosFlow.outgoing = .empty
  incoming : c.subscriber.qosFlow.incoming = .empty
  sendQuota : c.publisher.session.outstanding = 0
  receiveQuota : c.incomingCount = 0
  completed : ∀ message, message < c.published → message ∈ c.completed

theorem work_eq_zero : c.work = 0 ↔ c.forward = [] ∧ c.backward = [] ∧
    ∀ id, c.subscriber.qosFlow.incoming.get? id ≠ some .incomingAwaitingPuback := by
  have waiting : c.subscriber.qosFlow.incoming.count unacknowledged = 0 ↔
      ∀ id, c.subscriber.qosFlow.incoming.get? id ≠ some .incomingAwaitingPuback := by
    rw [OrderedMap.count_eq_zero]
    constructor
    · intro none id present
      exact none id _ present rfl
    · intro none id state present waits
      exact none id (of_decide_eq_true waits ▸ present)
  rw [← waiting, ← List.sum_map_eq_zero_iff PublisherPacket.work_ne_zero,
    ← List.sum_map_eq_zero_iff SubscriberPacket.work_ne_zero, work]
  omega

theorem idle_of_work_zero (steady : c.Steady) (done : c.work = 0) (id : UInt16) :
    c.sending id = none ∧ c.subscriber.qosFlow.incoming.get? id = none := by
  obtain ⟨noForward, noBackward, acknowledged⟩ := work_eq_zero.mp done
  have stage := steady.stages id
  have forward : (c.view id).forward = [] := by simp [view, noForward]
  have backward : (c.view id).backward = [] := by simp [view, noBackward]
  have receiving : (c.view id).receiving ≠ some .incomingAwaitingPuback := acknowledged id
  suffices idle : (c.view id).sending = none ∧ (c.view id).receiving = none from idle
  generalize c.view id = v at stage forward backward receiving ⊢
  cases stage with
  | idle => exact ⟨rfl, rfl⟩
  | published | releasing => cases forward
  | acknowledged | stored | released => cases backward
  | received => exact absurd rfl receiving

theorem quiet_of_work_zero (steady : c.Steady) (done : c.work = 0) : c.Quiet := by
  have idle := idle_of_work_zero steady done
  obtain ⟨forward, backward, -⟩ := work_eq_zero.mp done
  have outgoing : c.publisher.session.qosFlow.outgoing = .empty :=
    OrderedMap.ext_get fun id => Option.map_eq_none_iff.mp (idle id).1
  have incoming : c.subscriber.qosFlow.incoming = .empty := OrderedMap.ext_get fun id => (idle id).2
  refine ⟨forward, backward, outgoing, incoming, ?_, ?_, ?_⟩
  · rw [steady.sent, outgoingCount, outgoing]
    rfl
  · rw [steady.received, incoming]
    rfl
  · intro message below
    refine (steady.sound.kept message below).resolve_right ?_
    rintro ⟨id, carried⟩
    simp [delivery, (idle id).1] at carried

theorem subscriber_takes (queued : c.forward ≠ []) : ∃ d, c.next (.subscriberTakes 0) = some d := by
  obtain ⟨packet, sent, queued⟩ := List.exists_cons_of_ne_nil queued
  cases packet <;> simp [next, queued]

theorem publisher_takes (replied : c.backward ≠ []) : ∃ d, c.next .publisherTakes = some d := by
  obtain ⟨packet, rest, replied⟩ := List.exists_cons_of_ne_nil replied
  have permitted : c.publisher.allowed (receipt packet) = true := by cases packet <;> rfl
  simp only [next, replied, PacketIdUser.next, permitted]
  exact ⟨_, rfl⟩

theorem step_of_work (left : c.work ≠ 0) : ∃ op d, op.settles = true ∧ c.next op = some d := by
  by_cases queued : c.forward = []
  · by_cases replied : c.backward = []
    · obtain ⟨id, waiting⟩ : ∃ id, c.subscriber.qosFlow.incoming.get? id = some .incomingAwaitingPuback := by
        by_contra none
        exact left (work_eq_zero.mpr ⟨queued, replied, not_exists.mp none⟩)
      exact ⟨.acknowledge id, _, rfl, by simp only [next, waiting]; rfl⟩
    · obtain ⟨d, step⟩ := publisher_takes replied
      exact ⟨.publisherTakes, d, rfl, step⟩
  · obtain ⟨d, step⟩ := subscriber_takes queued
    exact ⟨.subscriberTakes 0, d, rfl, step⟩

theorem run_settles {ops : List ConversationOp} (steady : c.Steady)
    (run : Run (Guarded (fun _ (op : ConversationOp) => op.settles = true) (Steps next)) c ops d) :
    d.Steady ∧ ops.length + d.work = c.work := by
  induction run with
  | nil => exact ⟨steady, Nat.zero_add _⟩
  | cons first _ ih =>
    obtain ⟨steady, work⟩ := settles_of_next steady first.1 first.2
    obtain ⟨ended, rest⟩ := ih steady
    refine ⟨ended, ?_⟩
    rw [List.length_cons]
    omega

/-- From every state that two sessions reach, what was published is carried to its end in a fixed number of steps,
    whatever their order, and none of these orders gets stuck before. -/
theorem conversation_settles {ops more : List ConversationOp} (paired : Paired publisher subscriber)
    (run : Run (Steps next) (start publisher subscriber) ops c)
    (settling : Run (Guarded (fun _ (op : ConversationOp) => op.settles = true) (Steps next)) c more d) :
    more.length + d.work = c.work ∧ (d.work = 0 → d.Quiet) ∧
      (d.work ≠ 0 → ∃ op e, op.settles = true ∧ d.next op = some e) := by
  have reached := run.invariant (fun steady step => next_steady steady step) (start_steady paired)
  obtain ⟨ended, length⟩ := run_settles reached settling
  exact ⟨length, quiet_of_work_zero ended, step_of_work⟩

def settlingRun : List ConversationOp :=
  [.subscriberTakes 0, .publisherTakes, .subscriberTakes 0, .publisherTakes, .acknowledge 1, .publisherTakes]

theorem settlingRun_settles :
    ∃ c d : Conversation, Run (Steps next) (start connectedPublisher configuredSubscriber) publishedRun c ∧
      settlingRun.length + d.work = c.work ∧ d.Quiet := by
  have completes : ((runFrom next (start connectedPublisher configuredSubscriber) publishedRun).any fun c =>
      (runFrom (fun c op => if op.settles then c.next op else none) c settlingRun).any fun d =>
        decide (d.work = 0)) = true := by decide
  obtain ⟨c, published, settled⟩ := (Option.any_eq_true _ _).mp completes
  obtain ⟨d, ends, done⟩ := (Option.any_eq_true _ _).mp settled
  have run := run_of_runFrom published
  have settling : Run (Guarded (fun _ (op : ConversationOp) => op.settles = true) (Steps next)) c settlingRun d :=
    run_guarded_of_runFrom ends
  obtain ⟨length, quiet, -⟩ := conversation_settles connected_paired run settling
  exact ⟨c, d, run, length, quiet (of_decide_eq_true done)⟩

end Conversation

end MqttRs
