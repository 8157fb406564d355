import MqttRs.Library.Delivery
import MqttRs.State.QosFlow

namespace MqttRs

/-- Packets of the sender. A PUBLISH carries the number of its message. -/
inductive SenderPacket where
  | publish (packetId : UInt16) (message : Nat)
  | pubrel (packetId : UInt16)
  deriving DecidableEq

inductive ReceiverPacket where
  | pubrec (packetId : UInt16) (reasonCode : UInt8)
  | pubcomp (packetId : UInt16)
  deriving DecidableEq

def SenderPacket.packetId : SenderPacket → UInt16
  | .publish id _ | .pubrel id => id

def ReceiverPacket.packetId : ReceiverPacket → UInt16
  | .pubrec id _ | .pubcomp id => id

@[simp] theorem SenderPacket.packetId_publish (id : UInt16) (message : Nat) : (publish id message).packetId = id := rfl

@[simp] theorem SenderPacket.packetId_pubrel (id : UInt16) : (pubrel id).packetId = id := rfl

@[simp] theorem ReceiverPacket.packetId_pubrec (id : UInt16) (reasonCode : UInt8) :
    (pubrec id reasonCode).packetId = id := rfl

@[simp] theorem ReceiverPacket.packetId_pubcomp (id : UInt16) : (pubcomp id).packetId = id := rfl

/-- A sender and a receiver joined by one queue in each direction. The sender's application keeps, for each
    identifier, the message it last published under it. -/
structure Handoff where
  sender : QosFlowManager
  receiver : QosFlowManager
  forward : List SenderPacket
  backward : List ReceiverPacket
  messages : UInt16 → Nat
  published : Nat
  accepted : List Nat
  completed : List Nat
  mismatched : Bool

inductive HandoffOp where
  | publish (packetId : UInt16)
  | receiverTakes (reasonCode : UInt8)
  | senderTakes
  | reconnect

namespace Handoff

def new : Handoff where
  sender := .new
  receiver := .new
  forward := []
  backward := []
  messages := fun _ => 0
  published := 0
  accepted := []
  completed := []
  mismatched := false

/-- What the sender sends again for an identifier, as `needs_retransmission` asks. -/
def resent (h : Handoff) (packetId : UInt16) : Option SenderPacket :=
  match h.sender.needsRetransmission packetId with
  | some (.resendPublish id) => some (.publish id (h.messages id))
  | some (.resendPubrel id) => some (.pubrel id)
  | _ => none

def receivePublish (h : Handoff) (packetId : UInt16) (message : Nat) (reasonCode : UInt8) : Handoff :=
  match h.receiver.publishReceivedQos2 packetId with
  | (.sendPubrec id isDuplicate, receiver) =>
    { h with
      receiver
      backward := h.backward ++ [.pubrec id reasonCode]
      accepted := if isDuplicate then h.accepted else h.accepted ++ [message] }
  | (_, receiver) => { h with receiver }

def receivePubrel (h : Handoff) (packetId : UInt16) : Handoff :=
  match h.receiver.pubrelReceived packetId with
  | (.ok (some (.sendPubcomp id)), receiver) => { h with receiver, backward := h.backward ++ [.pubcomp id] }
  | (.ok (some (.resendPubcomp id)), receiver) => { h with receiver, backward := h.backward ++ [.pubcomp id] }
  | (.error .stateMismatch, receiver) => { h with receiver, mismatched := true }
  | (_, receiver) => { h with receiver }

def receivePubrec (h : Handoff) (packetId : UInt16) (reasonCode : UInt8) : Handoff :=
  match h.sender.pubrecReceived packetId reasonCode with
  | (.ok (some (.sendPubrel id)), sender) => { h with sender, forward := h.forward ++ [.pubrel id] }
  | (.error .stateMismatch, sender) => { h with sender, mismatched := true }
  | (_, sender) => { h with sender }

def receivePubcomp (h : Handoff) (packetId : UInt16) : Handoff :=
  match h.sender.pubcompReceived packetId with
  | (.ok (some (.complete id)), sender) => { h with sender, completed := h.completed ++ [h.messages id] }
  | (.error .stateMismatch, sender) => { h with sender, mismatched := true }
  | (_, sender) => { h with sender }

def next (h : Handoff) : HandoffOp → Option Handoff
  | .publish packetId =>
    if packetId ≠ 0 ∧ h.sender.outgoing.get? packetId = none then
      some { h with
        sender := h.sender.publishSentQos2 packetId
        forward := h.forward ++ [.publish packetId h.published]
        messages := Function.update h.messages packetId h.published
        published := h.published + 1 }
    else none
  | .receiverTakes reasonCode =>
    if 0x80 ≤ reasonCode then none
    else match h.forward with
      | [] => none
      | .publish id message :: rest => some ({ h with forward := rest }.receivePublish id message reasonCode)
      | .pubrel id :: rest => some ({ h with forward := rest }.receivePubrel id)
  | .senderTakes =>
    match h.backward with
    | [] => none
    | .pubrec id reasonCode :: rest => some ({ h with backward := rest }.receivePubrec id reasonCode)
    | .pubcomp id :: rest => some ({ h with backward := rest }.receivePubcomp id)
  | .reconnect => some { h with forward := h.sender.pendingPacketIds.filterMap h.resent, backward := [] }

/-- The messages in progress, as the delivery of numbered messages under identifiers. -/
def delivery (h : Handoff) : Delivery UInt16 where
  inProgress := fun id => (h.sender.outgoing.get? id).map (fun _ => h.messages id)
  published := h.published
  accepted := h.accepted
  completed := h.completed

/-- Where the handshake of one identifier stands: the flow on each side and its packets in either queue. At most
    one packet is in flight, and none without a flow at the sender. -/
inductive Phase (id : UInt16) (message : Nat) (accepted : Prop) (sending receiving : Option FlowState)
    (forward : List SenderPacket) (backward : List ReceiverPacket) : Prop
  | idle (s : sending = none) (r : receiving = none) (f : forward = []) (b : backward = [])
  | published (a : ¬accepted) (s : sending = some .awaitingPubrec) (r : receiving = none)
      (f : forward = [.publish id message]) (b : backward = [])
  | received (a : accepted) (s : sending = some .awaitingPubrec) (r : receiving = some .awaitingPubrel)
      (f : forward = []) (reasonCode : UInt8) (success : ¬0x80 ≤ reasonCode)
      (b : backward = [.pubrec id reasonCode])
  | republished (a : accepted) (s : sending = some .awaitingPubrec) (r : receiving = some .awaitingPubrel)
      (f : forward = [.publish id message]) (b : backward = [])
  | releasing (a : accepted) (s : sending = some .awaitingPubcomp) (r : receiving = some .awaitingPubrel)
      (f : forward = [.pubrel id]) (b : backward = [])
  | released (a : accepted) (s : sending = some .awaitingPubcomp) (r : receiving = none)
      (f : forward = []) (b : backward = [.pubcomp id])
  | rereleasing (a : accepted) (s : sending = some .awaitingPubcomp) (r : receiving = none)
      (f : forward = [.pubrel id]) (b : backward = [])

def sending (h : Handoff) (id : UInt16) : Option FlowState := (h.sender.outgoing.get? id).map (fun flow => flow.state)

def forwardOf (h : Handoff) (id : UInt16) : List SenderPacket := h.forward.filter (fun p => decide (p.packetId = id))

def backwardOf (h : Handoff) (id : UInt16) : List ReceiverPacket :=
  h.backward.filter (fun p => decide (p.packetId = id))

def InPhase (h : Handoff) (id : UInt16) : Prop :=
  Phase id (h.messages id) (h.messages id ∈ h.accepted) (h.sending id) (h.receiver.incoming.get? id)
    (h.forwardOf id) (h.backwardOf id)

/-- The two sides and the queues agree for every identifier, and no call has failed. -/
structure Consistent (h : Handoff) : Prop where
  sendsOnly : h.sender.incoming = .empty
  receivesOnly : h.receiver.outgoing = .empty
  matched : h.mismatched = false
  phases : ∀ id, h.InPhase id
  sound : h.delivery.Sound

variable {h h' : Handoff} {packetId id : UInt16} {message : Nat} {reasonCode : UInt8}

theorem InPhase.transfer (phase : h.InPhase id) (messages : h'.messages id = h.messages id)
    (accepted : ∀ state, h.sending id = some state → (h.messages id ∈ h'.accepted ↔ h.messages id ∈ h.accepted))
    (sending : h'.sending id = h.sending id)
    (receiving : h'.receiver.incoming.get? id = h.receiver.incoming.get? id)
    (forward : h'.forwardOf id = h.forwardOf id) (backward : h'.backwardOf id = h.backwardOf id) :
    h'.InPhase id := by
  unfold InPhase at phase ⊢
  rw [messages, sending, receiving, forward, backward]
  cases phase with
  | idle s r f b => exact .idle s r f b
  | published a s r f b => exact .published (mt (accepted _ s).mp a) s r f b
  | received a s r f reasonCode success b => exact .received ((accepted _ s).mpr a) s r f reasonCode success b
  | republished a s r f b => exact .republished ((accepted _ s).mpr a) s r f b
  | releasing a s r f b => exact .releasing ((accepted _ s).mpr a) s r f b
  | released a s r f b => exact .released ((accepted _ s).mpr a) s r f b
  | rereleasing a s r f b => exact .rereleasing ((accepted _ s).mpr a) s r f b

theorem inProgress_of_sending {state : FlowState} (sending : h.sending id = some state) :
    h.delivery.inProgress id = some (h.messages id) := by
  obtain ⟨flow, present, -⟩ := Option.map_eq_some_iff.mp sending
  simp [delivery, present]

theorem accepted_other (sound : h.delivery.Sound) {state state' : FlowState} (first : h.sending id = some state)
    (second : h.sending packetId = some state') (different : id ≠ packetId) :
    h.messages id ∈ h.accepted ++ [h.messages packetId] ↔ h.messages id ∈ h.accepted := by
  have distinct : h.messages id ≠ h.messages packetId := by
    intro same
    have carried := inProgress_of_sending first
    rw [same] at carried
    exact different (sound.distinct _ _ _ carried (inProgress_of_sending second))
  simp [distinct]

section Packets

variable {rest : List SenderPacket} {back : List ReceiverPacket}

theorem forwardOf_head {packet : SenderPacket} (queued : h.forward = packet :: rest) :
    h.forwardOf packet.packetId = packet :: rest.filter (fun p => decide (p.packetId = packet.packetId)) := by
  simp [forwardOf, queued]

theorem forwardOf_other {packet : SenderPacket} (queued : h.forward = packet :: rest) (other : id ≠ packet.packetId) :
    h.forwardOf id = rest.filter (fun p => decide (p.packetId = id)) := by
  simp [forwardOf, queued, Ne.symm other]

theorem backwardOf_head {packet : ReceiverPacket} (queued : h.backward = packet :: back) :
    h.backwardOf packet.packetId = packet :: back.filter (fun p => decide (p.packetId = packet.packetId)) := by
  simp [backwardOf, queued]

theorem backwardOf_other {packet : ReceiverPacket} (queued : h.backward = packet :: back)
    (other : id ≠ packet.packetId) : h.backwardOf id = back.filter (fun p => decide (p.packetId = id)) := by
  simp [backwardOf, queued, Ne.symm other]

end Packets

/-- The step that a consistent state makes: consistent again, and a step of the delivery. -/
def Advances (h h' : Handoff) : Prop := h'.Consistent ∧ ∃ event, Delivery.Step h.delivery event h'.delivery

theorem Consistent.advances (consistent : h.Consistent) (sendsOnly : h'.sender.incoming = .empty)
    (receivesOnly : h'.receiver.outgoing = .empty) (matched : h'.mismatched = false) (phases : ∀ id, h'.InPhase id)
    (event : Delivery.Event UInt16) (step : Delivery.Step h.delivery event h'.delivery) : h.Advances h' :=
  ⟨⟨sendsOnly, receivesOnly, matched, phases, step.sound consistent.sound⟩, event, step⟩

theorem publish_advances (consistent : h.Consistent) (nonzero : packetId ≠ 0)
    (free : h.sender.outgoing.get? packetId = none) :
    h.Advances { h with
      sender := h.sender.publishSentQos2 packetId
      forward := h.forward ++ [.publish packetId h.published]
      messages := Function.update h.messages packetId h.published
      published := h.published + 1 } := by
  have sent : h.sender.publishSent .awaitingPubrec packetId = _ := QosFlowManager.publishSent_new nonzero free
  simp only [QosFlowManager.publishSentQos2, sent]
  refine consistent.advances consistent.sendsOnly consistent.receivesOnly consistent.matched ?_
    (.publish packetId) ?_
  · intro id
    by_cases same : id = packetId
    · subst same
      have notSending : h.sending id = none := by simp [sending, free]
      have fresh : h.published ∉ h.accepted := fun member =>
        Nat.lt_irrefl _ (consistent.sound.acceptedPublished _ member)
      have phase := consistent.phases id
      unfold InPhase at phase
      rw [notSending] at phase
      cases phase with
      | idle s r f b =>
        refine .published ?_ ?_ r ?_ b
        · simpa using fresh
        · simp [sending]
        · simpa [forwardOf] using f
      | published _ s | received _ s | republished _ s | releasing _ s | released _ s | rereleasing _ s => cases s
    · refine (consistent.phases id).transfer ?_ (fun _ _ => Iff.rfl) ?_ rfl ?_ rfl
      · simp [same]
      · simp [sending, same]
      · simp [forwardOf, Ne.symm same]
  · have step := Delivery.Step.publish h.delivery packetId (by simp [delivery, free])
    convert step using 1
    simp only [delivery, Delivery.mk.injEq, and_true]
    funext id
    by_cases same : id = packetId
    · subst same
      simp
    · simp [same]

theorem receivePublish_advances (consistent : h.Consistent) (success : ¬0x80 ≤ reasonCode)
    {rest : List SenderPacket} (queued : h.forward = .publish packetId message :: rest) :
    h.Advances ({ h with forward := rest }.receivePublish packetId message reasonCode) := by
  have phase := consistent.phases packetId
  have head := forwardOf_head queued
  simp only [SenderPacket.packetId_publish] at head
  unfold InPhase at phase
  rw [head] at phase
  cases phase with
  | published new s r f b =>
    obtain ⟨same, emptied⟩ := List.cons.inj f
    cases same
    have first : h.receiver.publishReceivedQos2 packetId =
        (.sendPubrec packetId false,
          { h.receiver with incoming := h.receiver.incoming.insert packetId .awaitingPubrel }) := by
      simp [QosFlowManager.publishReceivedQos2, OrderedMap.contains, r]
    simp only [receivePublish, first, Bool.false_eq_true, ↓reduceIte]
    refine consistent.advances consistent.sendsOnly consistent.receivesOnly consistent.matched ?_
      (.accept packetId) ?_
    · intro id
      by_cases same : id = packetId
      · subst same
        refine .received ?_ s ?_ ?_ reasonCode success ?_
        · simp
        · simp
        · exact emptied
        · simpa [backwardOf] using b
      · refine (consistent.phases id).transfer rfl ?_ rfl ?_ ?_ ?_
        · exact fun state sending => accepted_other consistent.sound sending s same
        · simp [same]
        · exact (forwardOf_other queued same).symm
        · simp [backwardOf, Ne.symm same]
    · exact .accept h.delivery packetId _ (inProgress_of_sending s) new
  | republished old s r f b =>
    obtain ⟨same, emptied⟩ := List.cons.inj f
    cases same
    have again : h.receiver.publishReceivedQos2 packetId = (.sendPubrec packetId true, h.receiver) := by
      simp [QosFlowManager.publishReceivedQos2, OrderedMap.contains, r, OrderedMap.insert_of_get r]
    simp only [receivePublish, again, ↓reduceIte]
    refine consistent.advances consistent.sendsOnly consistent.receivesOnly consistent.matched ?_
      .internal (.internal h.delivery)
    intro id
    by_cases same : id = packetId
    · subst same
      refine .received old s r ?_ reasonCode success ?_
      · exact emptied
      · simpa [backwardOf] using b
    · refine (consistent.phases id).transfer rfl (fun _ _ => Iff.rfl) rfl rfl ?_ ?_
      · exact (forwardOf_other queued same).symm
      · simp [backwardOf, Ne.symm same]
  | idle s r f | received a s r f | releasing a s r f | released a s r f | rereleasing a s r f => simp at f

theorem receivePubrel_advances (consistent : h.Consistent) {rest : List SenderPacket}
    (queued : h.forward = .pubrel packetId :: rest) :
    h.Advances ({ h with forward := rest }.receivePubrel packetId) := by
  have phase := consistent.phases packetId
  have head := forwardOf_head queued
  simp only [SenderPacket.packetId_pubrel] at head
  unfold InPhase at phase
  rw [head] at phase
  cases phase with
  | releasing a s r f b =>
    have emptied := (List.cons.inj f).2
    have finished := QosFlowManager.pubrelReceived_finished r
    simp only [receivePubrel, finished]
    refine consistent.advances consistent.sendsOnly consistent.receivesOnly consistent.matched ?_
      .internal (.internal h.delivery)
    intro id
    by_cases same : id = packetId
    · subst same
      refine .released a s ?_ ?_ ?_
      · simp
      · exact emptied
      · simpa [backwardOf] using b
    · refine (consistent.phases id).transfer rfl (fun _ _ => Iff.rfl) rfl ?_ ?_ ?_
      · simp [same]
      · exact (forwardOf_other queued same).symm
      · simp [backwardOf, Ne.symm same]
  | rereleasing a s r f b =>
    have emptied := (List.cons.inj f).2
    have answered : h.receiver.pubrelReceived packetId = (.ok (some (.resendPubcomp packetId)), h.receiver) := by
      rw [QosFlowManager.pubrelReceived_absent r]
      simp [consistent.receivesOnly, OrderedMap.contains]
    simp only [receivePubrel, answered]
    refine consistent.advances consistent.sendsOnly consistent.receivesOnly consistent.matched ?_
      .internal (.internal h.delivery)
    intro id
    by_cases same : id = packetId
    · subst same
      refine .released a s r ?_ ?_
      · exact emptied
      · simpa [backwardOf] using b
    · refine (consistent.phases id).transfer rfl (fun _ _ => Iff.rfl) rfl rfl ?_ ?_
      · exact (forwardOf_other queued same).symm
      · simp [backwardOf, Ne.symm same]
  | idle s r f | published a s r f | received a s r f | republished a s r f | released a s r f => simp at f

theorem receivePubrec_advances (consistent : h.Consistent) {rest : List ReceiverPacket}
    (queued : h.backward = .pubrec packetId reasonCode :: rest) :
    h.Advances ({ h with backward := rest }.receivePubrec packetId reasonCode) := by
  have phase := consistent.phases packetId
  have head := backwardOf_head queued
  simp only [ReceiverPacket.packetId_pubrec] at head
  unfold InPhase at phase
  rw [head] at phase
  cases phase with
  | received a s r f code success b =>
    obtain ⟨same, emptied⟩ := List.cons.inj b
    cases same
    obtain ⟨flow, present, waiting⟩ := Option.map_eq_some_iff.mp s
    have first := QosFlowManager.pubrecReceived_first success present waiting
    simp only [receivePubrec, first]
    refine consistent.advances consistent.sendsOnly consistent.receivesOnly consistent.matched ?_ .internal ?_
    · intro id
      by_cases same : id = packetId
      · subst same
        refine .releasing a ?_ r ?_ ?_
        · simp [sending]
        · simpa [forwardOf] using f
        · exact emptied
      · refine (consistent.phases id).transfer rfl (fun _ _ => Iff.rfl) ?_ rfl ?_ ?_
        · simp [sending, same]
        · simp [forwardOf, Ne.symm same]
        · exact (backwardOf_other queued same).symm
    · convert Delivery.Step.internal h.delivery using 1
      simp only [delivery, Delivery.mk.injEq, and_true]
      funext id
      by_cases same : id = packetId
      · subst same
        simp [present]
      · simp [same]
  | idle s r f b => cases b
  | published a s r f b | republished a s r f b | releasing a s r f b | released a s r f b
  | rereleasing a s r f b => simp at b

theorem receivePubcomp_advances (consistent : h.Consistent) {rest : List ReceiverPacket}
    (queued : h.backward = .pubcomp packetId :: rest) :
    h.Advances ({ h with backward := rest }.receivePubcomp packetId) := by
  have phase := consistent.phases packetId
  have head := backwardOf_head queued
  simp only [ReceiverPacket.packetId_pubcomp] at head
  unfold InPhase at phase
  rw [head] at phase
  cases phase with
  | released a s r f b =>
    have emptied := (List.cons.inj b).2
    obtain ⟨flow, present, waiting⟩ := Option.map_eq_some_iff.mp s
    have finished := QosFlowManager.finalAckReceived_finished present waiting
    simp only [receivePubcomp, QosFlowManager.pubcompReceived, finished]
    refine consistent.advances consistent.sendsOnly consistent.receivesOnly consistent.matched ?_
      (.complete packetId) ?_
    · intro id
      by_cases same : id = packetId
      · subst same
        refine .idle ?_ r f ?_
        · simp [sending]
        · exact emptied
      · refine (consistent.phases id).transfer rfl (fun _ _ => Iff.rfl) ?_ rfl rfl ?_
        · simp [sending, same]
        · exact (backwardOf_other queued same).symm
    · convert Delivery.Step.complete h.delivery packetId _ (inProgress_of_sending s) a using 1
      simp only [delivery, Delivery.mk.injEq, and_true]
      funext id
      by_cases same : id = packetId
      · subst same
        simp
      · simp [same]
  | received a s r f code success b => simp at b
  | idle s r f b | published a s r f b | republished a s r f b | releasing a s r f b
  | rereleasing a s r f b => simp at b

theorem forwardOf_reconnect (h : Handoff) (id : UInt16) :
    (h.sender.pendingPacketIds.filterMap h.resent).filter (fun p => decide (p.packetId = id)) =
      (h.resent id).toList := by
  have keyed : ∀ id packet, h.resent id = some packet → packet.packetId = id := by
    intro id packet asked
    unfold resent QosFlowManager.needsRetransmission at asked
    cases present : h.sender.outgoing.get? id with
    | none => simp [present] at asked
    | some flow => cases known : flow.state <;> simp [present, known] at asked <;> subst asked <;> rfl
  rw [List.filter_filterMap_of_key keyed h.sender.pendingPacketIds_nodup id]
  split
  · rfl
  · rename_i absent
    have none : h.sender.outgoing.get? id = none := by
      by_contra present
      exact absent (QosFlowManager.mem_pendingPacketIds.mpr (Option.ne_none_iff_exists'.mp present))
    simp [resent, QosFlowManager.needsRetransmission, none]

theorem resent_of_sending (h : Handoff) (id : UInt16) :
    h.resent id = match h.sending id with
      | some .awaitingPuback | some .awaitingPubrec => some (.publish id (h.messages id))
      | some .awaitingPubcomp => some (.pubrel id)
      | _ => none := by
  unfold resent sending QosFlowManager.needsRetransmission
  cases h.sender.outgoing.get? id with
  | none => rfl
  | some flow => cases known : flow.state <;> simp [known]

theorem reconnect_advances (consistent : h.Consistent) :
    h.Advances { h with forward := h.sender.pendingPacketIds.filterMap h.resent, backward := [] } := by
  refine consistent.advances consistent.sendsOnly consistent.receivesOnly consistent.matched ?_
    .internal (.internal h.delivery)
  intro id
  have phase := consistent.phases id
  have resend := resent_of_sending h id
  unfold InPhase at phase ⊢
  simp only [forwardOf, forwardOf_reconnect]
  cases phase with
  | idle s r f b => exact .idle s r (by simp [resend, s]) rfl
  | published a s r f b => exact .published a s r (by simp [resend, s]) rfl
  | received a s r | republished a s r => exact .republished a s r (by simp [resend, s]) rfl
  | releasing a s r => exact .releasing a s r (by simp [resend, s]) rfl
  | released a s r | rereleasing a s r => exact .rereleasing a s r (by simp [resend, s]) rfl

theorem next_advances {op : HandoffOp} (consistent : h.Consistent) (step : h.next op = some h') : h.Advances h' := by
  cases op with
  | publish packetId =>
    simp only [next] at step
    split at step
    · rename_i permitted
      cases step
      exact publish_advances consistent permitted.1 permitted.2
    · cases step
  | receiverTakes reasonCode =>
    simp only [next] at step
    split at step
    · cases step
    rename_i success
    split at step
    · cases step
    · rename_i queued
      cases step
      exact receivePublish_advances consistent success queued
    · rename_i queued
      cases step
      exact receivePubrel_advances consistent queued
  | senderTakes =>
    simp only [next] at step
    split at step
    · cases step
    · rename_i queued
      cases step
      exact receivePubrec_advances consistent queued
    · rename_i queued
      cases step
      exact receivePubcomp_advances consistent queued
  | reconnect =>
    cases step
    exact reconnect_advances consistent

theorem new_consistent : new.Consistent where
  sendsOnly := rfl
  receivesOnly := rfl
  matched := rfl
  phases _ := .idle rfl rfl rfl rfl
  sound := Delivery.empty_sound

theorem run_consistent {ops : List HandoffOp} (run : Run (Steps next) new ops h) : h.Consistent :=
  run.invariant (fun consistent step => (next_advances consistent step).1) new_consistent

theorem handoff_refines_delivery {h₀ : Handoff} {ops : List HandoffOp} (consistent : h₀.Consistent)
    (run : Run (Steps next) h₀ ops h) : ∃ events, Run Delivery.Step h₀.delivery events h.delivery := by
  induction run with
  | nil => exact ⟨[], .nil _⟩
  | cons step _ ih =>
    obtain ⟨middle, event, first⟩ := next_advances consistent step
    obtain ⟨events, rest⟩ := ih middle
    exact ⟨event :: events, .cons first rest⟩

/-- In every run, no call fails with a state mismatch and every message is handed over exactly once: accepted
    and completed at most once, completed only when accepted, and never dropped in between. -/
theorem handoff_exactly_once {ops : List HandoffOp} (run : Run (Steps next) new ops h) :
    h.mismatched = false ∧ h.accepted.Nodup ∧ h.completed.Nodup ∧
      (∀ message ∈ h.completed, h.accepted.count message = 1) ∧
      (∀ message, message < h.published →
        message ∈ h.completed ∨ ∃ id, h.sending id ≠ none ∧ h.messages id = message) := by
  obtain ⟨events, delivered⟩ := handoff_refines_delivery new_consistent run
  have once := Delivery.exactly_once delivered
  refine ⟨(run_consistent run).matched, once.acceptedOnce, once.completedOnce, ?_, ?_⟩
  · exact fun message member => List.count_eq_one_of_mem once.acceptedOnce (once.completedAccepted message member)
  · intro message below
    refine (once.kept message below).imp_right ?_
    rintro ⟨id, carried⟩
    obtain ⟨flow, present, same⟩ := Option.map_eq_some_iff.mp carried
    exact ⟨id, by simp [sending, present], same⟩

def lossyRun : List HandoffOp :=
  [.publish 7, .receiverTakes 0, .reconnect, .receiverTakes 0, .senderTakes, .receiverTakes 0, .reconnect,
    .receiverTakes 0, .senderTakes, .publish 7, .receiverTakes 0]

theorem lossyRun_exactly_once :
    ∃ h, Run (Steps next) new lossyRun h ∧ h.mismatched = false ∧ h.accepted = [0, 1] ∧ h.accepted.Nodup := by
  have completes : (runFrom next new lossyRun).any (fun h => decide (h.accepted = [0, 1])) = true := by decide
  obtain ⟨h, ends, accepted⟩ := (Option.any_eq_true _ _).mp completes
  have run := run_of_runFrom ends
  have once := handoff_exactly_once run
  exact ⟨h, run, once.1, of_decide_eq_true accepted, once.2.1⟩

end Handoff

end MqttRs
