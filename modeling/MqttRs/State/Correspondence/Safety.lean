import MqttRs.State.Conversation.Safety
import MqttRs.State.Correspondence.Resumption

namespace MqttRs

namespace Correspondence

variable {c d : Correspondence} {id : UInt16} {publisher : PacketIdUser} {subscriber : Session}

theorem start_steady (unused : Unused publisher subscriber) : (start publisher subscriber).Steady := by
  have idle : ∀ id, (start publisher subscriber).exchange id = ⟨0, none, false, none, none⟩ := by
    intro id
    simp [exchange, Conversation.sending, start, Conversation.start, unused.sendsNothing, unused.receivesNothing]
  have empty : (start publisher subscriber).delivery = .empty := by
    simp [delivery, Conversation.sending, start, Conversation.start, unused.sendsNothing, Delivery.empty]
  refine ⟨⟨unused.balanced, unused.backed, unused.silent, ?_, ?_, ?_⟩, rfl, ?_, ?_, ?_⟩
  · intro id
    rw [idle]
    exact .idle 0
  · rw [empty]
    exact Delivery.empty_sound
  · intro message level
    cases level
  · intro id
    rw [idle]
    exact .idle 0
  · intro entry listed
    exact absurd listed List.not_mem_nil
  · show subscriber.flowControl.incomingCount.toNat ≤ _
    rw [unused.nothingReceived]
    exact Nat.zero_le _

theorem Sound.lasting (sound : c.Sound) : c.Lasting := by
  cases sound with
  | steady steady => exact steady.toLasting
  | refused failed lasting => exact lasting

theorem Sound.steady_of_matched (sound : c.Sound) (matched : c.failed = false) : c.Steady := by
  cases sound with
  | steady steady => exact steady
  | refused failed => cases failed.symm.trans matched

theorem permits_iff {op : ConversationOp} (permitted : c.permits op = true) :
    c.failed = false ∧ (∀ id, op = .acknowledge id → id ∈ c.owed) ∧
      (∀ call, op = .subscriberCalls call → Session.keepsSending call = true) := by
  cases op <;> simp_all [permits]

theorem converse_settles (steady : c.Steady) {op : ConversationOp} (settling : op.settles = true)
    (permitted : c.permits op = true) {conversation : Conversation}
    (step : c.toConversation.next op = some conversation) : c.Settles (c.conversed op conversation) := by
  cases op with
  | subscriberTakes reasonCode =>
    simp only [Conversation.next] at step
    split at step
    · cases step
    rename_i success
    split at step <;> cases step
    · rename_i queued
      exact receivePublish_settles steady success queued
    · rename_i queued
      exact receivePubrel_settles steady queued
  | acknowledge packetId =>
    simp only [Conversation.next] at step
    split at step <;> cases step
    exact acknowledge_settles steady ((permits_iff permitted).2.1 packetId rfl)
  | publisherTakes =>
    simp only [Conversation.next] at step
    split at step
    · cases step
    · rename_i packet replied queued
      obtain ⟨publisher, received, rfl⟩ := Option.map_eq_some_iff.mp step
      exact answered_settles steady queued received
  | publish | publisherCalls | subscriberCalls => cases settling

theorem settles_of_next (sound : c.Sound) {op : CorrespondenceOp} (settling : op.settles = true)
    (step : Steps next c op d) : c.Settles d := by
  cases op with
  | converse op =>
    simp only [Steps, next] at step
    split at step
    · rename_i permitted
      obtain ⟨conversation, converses, rfl⟩ := Option.map_eq_some_iff.mp step
      exact converse_settles (sound.steady_of_matched (permits_iff permitted).1) settling permitted converses
    · cases step
  | resend =>
    simp only [Steps, next] at step
    split at step
    · cases step
    · rename_i matched
      exact resend_settles (sound.steady_of_matched (Bool.eq_false_iff.mpr matched)) step
  | reconnect => cases settling

theorem next_sound {op : CorrespondenceOp} (sound : c.Sound) (step : Steps next c op d) : d.Sound := by
  cases settling : op.settles with
  | true => exact (settles_of_next sound settling step).sound
  | false =>
    cases op with
    | resend => cases settling
    | reconnect settings params subscriberSettings subscriberParams =>
      simp only [Steps, next] at step
      split at step <;> cases step
      rename_i publisher subscriber publishes receives
      exact .steady (reconnected_steady sound.lasting publishes receives)
    | converse op =>
      simp only [Steps, next] at step
      split at step
      swap
      · cases step
      rename_i permitted
      obtain ⟨conversation, converses, rfl⟩ := Option.map_eq_some_iff.mp step
      have steady := sound.steady_of_matched (permits_iff permitted).1
      cases op with
      | publish qos packetId =>
        obtain ⟨publisher, sent, rfl⟩ := Option.map_eq_some_iff.mp converses
        exact .steady (publish_steady steady sent)
      | publisherCalls op =>
        simp only [Conversation.next] at converses
        split at converses
        · rename_i keeps
          obtain ⟨publisher, called, rfl⟩ := Option.map_eq_some_iff.mp converses
          have same := c.publisher.session.perform_sameSending keeps
          rw [← (PacketIdUser.next_eq_some called).2] at same
          exact .steady (publisher_steady steady (PacketIdUser.next_balanced steady.balanced called) same)
        · cases converses
      | subscriberCalls op =>
        simp only [Conversation.next] at converses
        split at converses <;> cases converses
        rename_i keeps
        have publishes := (permits_iff permitted).2.2 op rfl
        exact .steady (subscriber_steady steady (c.subscriber.perform_sameSending publishes)
          (c.subscriber.perform_sameReceiving keeps))
      | subscriberTakes | acknowledge | publisherTakes => cases settling

/-- A connection refuses a PUBLISH only beyond the Receive Maximum. A message of QoS 2 is delivered once and every
    message at least once: what is neither completed nor carried by an open flow was never published. -/
structure Safe (c : Correspondence) : Prop where
  refused : c.failed = true → c.ownReceiveMaximum < c.outgoingCount
  genuine : ∀ message ∈ c.accepted, message < c.published
  once : ∀ message, c.levels message = .exactlyOnce → c.accepted.count message ≤ 1
  completedOnce : c.completed.Nodup
  completedAccepted : ∀ message ∈ c.completed, message ∈ c.accepted
  kept : ∀ message < c.published, message ∈ c.completed ∨ ∃ id, c.sending id ≠ none ∧ c.messages id = message

theorem Sound.safe (sound : c.Sound) : c.Safe := by
  have lasting := sound.lasting
  refine ⟨?_, ?_, lasting.once, lasting.sound.completedOnce, ?_, ?_⟩
  · cases sound with
    | steady steady =>
      intro failed
      cases failed.symm.trans steady.matched
    | refused failed lasting beyond => exact fun _ => beyond
  · exact fun message taken => lasting.sound.acceptedPublished message (List.mem_eraseDups.mpr taken)
  · exact fun message done => List.mem_eraseDups.mp (lasting.sound.completedAccepted message done)
  · intro message below
    refine (lasting.sound.kept message below).imp_right fun ⟨id, carried⟩ => ⟨id, ?_⟩
    obtain ⟨state, sending, same⟩ := Option.map_eq_some_iff.mp carried
    exact ⟨by simp [sending], same⟩

/-- Two sessions keep what was published and give no message of QoS 2 twice, however often the connection between
    them is lost with what it carried and whatever they do on each one. -/
theorem correspondence_safe {ops : List CorrespondenceOp} (unused : Unused publisher subscriber)
    (run : Run (Steps next) (start publisher subscriber) ops c) : c.Safe :=
  (run.invariant (fun sound step => next_sound sound step) (.steady (start_steady unused))).safe

def settings : ConnectSettings := ⟨60, 3600, 0, 2, 0⟩

def lastingPublisher : PacketIdUser :=
  .start ((Session.initial .v5 "publisher" false).connectSent.applyConnack (.successV5 false (some 2))).2

def lastingSubscriber : Session := ((Session.initial .v5 "subscriber" false).configureForConnect 60 3600 0 2 0).2

theorem lasting_unused : Unused lastingPublisher lastingSubscriber where
  balanced := ⟨PacketIdManager.new_valid, fun _ => rfl⟩
  backed := ⟨by decide, by decide⟩
  sendsNothing := by decide
  receivesNothing := by decide
  nothingReceived := by decide
  silent := by decide

/-- A message of each QoS is taken, the one of QoS 2 is released, and the connection is lost with the PUBREL and the
    PUBACK that is owed. Both exchanges are taken up again. -/
def lossyRun : List CorrespondenceOp :=
  [.converse (.publisherCalls .allocatePacketId), .converse (.publish .exactlyOnce 1),
    .converse (.publisherCalls .allocatePacketId), .converse (.publish .atLeastOnce 2),
    .converse (.subscriberTakes 0), .converse (.subscriberTakes 0), .converse .publisherTakes,
    .reconnect settings (.successV5 true (some 2)) settings (.successV5 true none),
    .resend, .resend, .converse (.subscriberTakes 0)]

theorem lossyRun_safe :
    ∃ c, Run (Steps next) (start lastingPublisher lastingSubscriber) lossyRun c ∧ c.accepted = [0, 1, 1] ∧ c.Safe := by
  have completes : (runFrom next (start lastingPublisher lastingSubscriber) lossyRun).any (fun c =>
      decide (c.accepted = [0, 1, 1])) = true := by decide
  obtain ⟨c, ends, accepted⟩ := (Option.any_eq_true _ _).mp completes
  have run := run_of_runFrom ends
  exact ⟨c, run, of_decide_eq_true accepted, correspondence_safe lasting_unused run⟩

theorem resendWork_ne_zero (action : Action) : resendWork action ≠ 0 := by
  cases action <;> exact Nat.succ_ne_zero _

theorem work_eq_zero : c.work = 0 ↔ c.forward = [] ∧ c.backward = [] ∧ c.owed = [] ∧ c.resends = [] := by
  rw [← List.sum_map_eq_zero_iff PublisherPacket.work_ne_zero, ← List.sum_map_eq_zero_iff SubscriberPacket.work_ne_zero,
    ← List.length_eq_zero_iff,
    ← List.sum_map_eq_zero_iff fun entry : UInt16 × Action => resendWork_ne_zero entry.2, work]
  omega

theorem idle_or_lost (steady : c.Steady) (forward : c.forward = []) (backward : c.backward = []) (owed : c.owed = [])
    (id : UInt16) : (c.sending id = none ∧ c.subscriber.qosFlow.incoming.get? id = none) ∨
      ∃ action, (id, action) ∈ c.resends := by
  have stage := steady.stages id
  have carried : c.traffic id = ⟨[], [], [], c.resends.filter fun entry => entry.1 = id⟩ := by
    simp [traffic, forward, backward, owed]
  rw [carried] at stage
  have flows : (c.exchange id).sending = c.sending id ∧
    (c.exchange id).receiving = c.subscriber.qosFlow.incoming.get? id := ⟨rfl, rfl⟩
  rw [← flows.1, ← flows.2]
  generalize c.exchange id = e, listed : c.resends.filter (fun entry => decide (entry.1 = id)) = resends at stage ⊢
  cases stage with
  | idle => exact .inl ⟨rfl, rfl⟩
  | lost e standing action asks =>
    have member : (id, action) ∈ c.resends.filter fun entry => entry.1 = id := by simp [listed]
    exact .inr ⟨action, List.mem_of_mem_filter member⟩

theorem outstanding_eq_zero (steady : c.Steady) (forward : c.forward = []) (backward : c.backward = [])
    (owed : c.owed = []) : c.publisher.session.outstanding = 0 := by
  have none : c.publisher.session.chargedFlows = 0 := by
    rw [Session.chargedFlows, OrderedMap.count_eq_zero]
    intro id flow present
    rcases idle_or_lost steady forward backward owed id with ⟨idle, -⟩ | ⟨action, listed⟩
    · simp [Conversation.sending, present] at idle
    · have uncharged := steady.uncharged _ listed
      simpa [QosFlowManager.isQuotaCharged, present] using uncharged
  exact Nat.le_zero.mp (none ▸ steady.backed.1)

theorem quiet_of_work_zero (steady : c.Steady) (done : c.work = 0) : c.toConversation.Quiet := by
  obtain ⟨forward, backward, owed, resends⟩ := work_eq_zero.mp done
  have idle : ∀ id, c.sending id = none ∧ c.subscriber.qosFlow.incoming.get? id = none := by
    intro id
    refine (idle_or_lost steady forward backward owed id).resolve_right ?_
    simp [resends]
  have incoming : c.subscriber.qosFlow.incoming = .empty := OrderedMap.ext_get fun id => (idle id).2
  refine ⟨forward, backward, OrderedMap.ext_get fun id => Option.map_eq_none_iff.mp (idle id).1, incoming,
    outstanding_eq_zero steady forward backward owed, ?_, ?_⟩
  · have counted := steady.counted
    rw [incoming] at counted
    exact Nat.le_zero.mp counted
  · intro message below
    refine (steady.sound.kept message below).resolve_right ?_
    rintro ⟨id, carried⟩
    simp [delivery, (idle id).1] at carried

theorem resend_of_room (steady : c.Steady) {id : UInt16} {action : Action} {rest : List (UInt16 × Action)}
    (listed : c.resends = (id, action) :: rest)
    (room : c.publisher.session.flowControl.outstandingCount < c.publisher.session.flowControl.receiveMaximum) :
    ∃ d, c.resend = some d := by
  obtain ⟨standing, asks, -⟩ := stage_of_resend steady listed
  rcases standing.asks_cases asks with ⟨rfl, qos, -, waits⟩ | ⟨rfl, -⟩
  · obtain ⟨flow, present, -⟩ := Option.map_eq_some_iff.mp waits
    have result := resendPublish_of_listed steady listed present
    rw [if_pos room] at result
    simp only [resend, listed, result]
    exact ⟨_, rfl⟩
  · rw [asks_eq] at asks
    simp only [resend, listed, Session.resendPubrel, asks]
    exact ⟨_, rfl⟩

theorem converse_of_next (op : ConversationOp) (permitted : c.permits op = true) (settling : op.settles = true)
    (step : ∃ d, c.toConversation.next op = some d) : ∃ op d, op.settles = true ∧ c.next op = some d := by
  obtain ⟨conversation, step⟩ := step
  exact ⟨.converse op, c.conversed op conversation, settling, by simp only [next, permitted, ↓reduceIte, step]; rfl⟩

/-- While there is work left, some step is possible. When nothing is on its way and nothing is owed, the send quota
    is free for what waits to be sent again. -/
theorem step_of_work (steady : c.Steady) (left : c.work ≠ 0) : ∃ op d, op.settles = true ∧ c.next op = some d := by
  have permitted : (!c.failed) = true := by rw [steady.matched, Bool.not_false]
  by_cases queued : c.forward = []
  swap
  · exact converse_of_next (.subscriberTakes 0) permitted rfl (Conversation.subscriber_takes queued)
  by_cases replied : c.backward = []
  swap
  · exact converse_of_next .publisherTakes permitted rfl (Conversation.publisher_takes replied)
  cases owes : c.owed with
  | cons id rest =>
    have member : id ∈ c.owed := owes ▸ .head _
    obtain ⟨message, known, -⟩ := stage_of_owed steady member
    have waiting : c.subscriber.qosFlow.incoming.get? id = some .incomingAwaitingPuback :=
      congrArg Exchange.receiving known
    have permits : c.permits (.acknowledge id) = true :=
      Bool.and_eq_true_iff.mpr ⟨permitted, List.contains_iff_mem.mpr member⟩
    exact converse_of_next (.acknowledge id) permits rfl ⟨_, by simp only [Conversation.next, waiting]; rfl⟩
  | nil =>
    cases listed : c.resends with
    | cons entry rest =>
      have room : c.publisher.session.flowControl.outstandingCount < c.publisher.session.flowControl.receiveMaximum := by
        rw [Session.outstanding_eq_zero_iff.mp (outstanding_eq_zero steady queued replied owes)]
        exact UInt16.pos_iff_ne_zero.mpr steady.backed.2
      obtain ⟨d, step⟩ := resend_of_room steady listed room
      exact ⟨.resend, d, rfl, by simp only [next, steady.matched, Bool.false_eq_true, ↓reduceIte, step]⟩
    | nil => exact absurd (work_eq_zero.mpr ⟨queued, replied, owes, listed⟩) left

theorem run_settles {ops : List CorrespondenceOp} (sound : c.Sound)
    (run : Run (Guarded (fun _ (op : CorrespondenceOp) => op.settles = true) (Steps next)) c ops d) :
    d.Sound ∧ ops.length + d.work ≤ c.work := by
  induction run with
  | nil => exact ⟨sound, (Nat.zero_add _).le⟩
  | cons first _ ih =>
    obtain ⟨sound, work⟩ := settles_of_next sound first.1 first.2
    obtain ⟨ended, rest⟩ := ih sound
    refine ⟨ended, ?_⟩
    rw [List.length_cons]
    omega

/-- After any losses, a connection that stands carries everything that was published to its end, in no more steps
    than the work that is left, and no order of these steps gets stuck before. -/
theorem correspondence_settles {ops more : List CorrespondenceOp} (unused : Unused publisher subscriber)
    (run : Run (Steps next) (start publisher subscriber) ops c)
    (settling : Run (Guarded (fun _ (op : CorrespondenceOp) => op.settles = true) (Steps next)) c more d) :
    more.length + d.work ≤ c.work ∧ (d.failed = false →
      (d.work = 0 → d.toConversation.Quiet ∧ d.owed = [] ∧ d.resends = []) ∧
      (d.work ≠ 0 → ∃ op e, op.settles = true ∧ d.next op = some e)) := by
  have reached := run.invariant (fun sound step => next_sound sound step) (.steady (start_steady unused))
  obtain ⟨ended, length⟩ := run_settles reached settling
  refine ⟨length, fun matched => ?_⟩
  have steady := ended.steady_of_matched matched
  refine ⟨fun done => ?_, step_of_work steady⟩
  obtain ⟨-, -, owed, resends⟩ := work_eq_zero.mp done
  exact ⟨quiet_of_work_zero steady done, owed, resends⟩

def recoveryRun : List CorrespondenceOp :=
  [.converse (.subscriberTakes 0), .converse (.acknowledge 2), .converse .publisherTakes, .converse .publisherTakes]

theorem recoveryRun_settles :
    ∃ c d : Correspondence, Run (Steps next) (start lastingPublisher lastingSubscriber) lossyRun c ∧
      recoveryRun.length + d.work ≤ c.work ∧ d.toConversation.Quiet ∧ d.owed = [] ∧ d.resends = [] := by
  have completes : ((runFrom next (start lastingPublisher lastingSubscriber) lossyRun).any fun c =>
      (runFrom (fun c op => if op.settles then c.next op else none) c recoveryRun).any fun d =>
        decide (d.failed = false ∧ d.work = 0)) = true := by decide
  obtain ⟨c, lost, settled⟩ := (Option.any_eq_true _ _).mp completes
  obtain ⟨d, ends, done⟩ := (Option.any_eq_true _ _).mp settled
  have run := run_of_runFrom lost
  have settling : Run (Guarded (fun _ (op : CorrespondenceOp) => op.settles = true) (Steps next)) c recoveryRun d :=
    run_guarded_of_runFrom ends
  obtain ⟨length, finishes⟩ := correspondence_settles lasting_unused run settling
  obtain ⟨matched, none⟩ := of_decide_eq_true done
  exact ⟨c, d, run, length, (finishes matched).1 none⟩

end Correspondence

end MqttRs
