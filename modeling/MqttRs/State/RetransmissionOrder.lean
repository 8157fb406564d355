import Mathlib.Algebra.Group.Nat.Defs
import Mathlib.Data.List.Induction
import MqttRs.Library.Stamps
import MqttRs.State.QosFlow

namespace MqttRs

/-- The calls that change a flow manager. -/
inductive FlowOp where
  | publishSentQos1 (packetId : UInt16)
  | publishSentQos2 (packetId : UInt16)
  | pubackReceived (packetId : UInt16)
  | pubrecReceived (packetId : UInt16) (reasonCode : UInt8)
  | pubcompReceived (packetId : UInt16)
  | pubrelReceived (packetId : UInt16)
  | publishReceivedQos1 (packetId : UInt16)
  | publishReceivedQos2 (packetId : UInt16)
  | pubackSent (packetId : UInt16)
  | markQuotaCharged (packetId : UInt16)
  | clearQuotaCharges
  | release (packetId : UInt16)
  | reset

namespace QosFlowManager

def perform (m : QosFlowManager) : FlowOp → QosFlowManager
  | .publishSentQos1 id => m.publishSentQos1 id
  | .publishSentQos2 id => m.publishSentQos2 id
  | .pubackReceived id => (m.pubackReceived id).2
  | .pubrecReceived id reasonCode => (m.pubrecReceived id reasonCode).2
  | .pubcompReceived id => (m.pubcompReceived id).2
  | .pubrelReceived id => (m.pubrelReceived id).2
  | .publishReceivedQos1 id => (m.publishReceivedQos1 id).2
  | .publishReceivedQos2 id => (m.publishReceivedQos2 id).2
  | .pubackSent id => m.pubackSent id
  | .markQuotaCharged id => m.markQuotaCharged id
  | .clearQuotaCharges => m.clearQuotaCharges
  | .release id => m.release id
  | .reset => m.reset

def draws (m : QosFlowManager) : FlowOp → Bool
  | .publishSentQos1 id | .publishSentQos2 id => id ≠ 0 && !m.outgoing.contains id
  | .pubrecReceived id reasonCode =>
    !decide (0x80 ≤ reasonCode) && (m.outgoing.get? id).any (fun flow => flow.state = .awaitingPubrec)
  | _ => false

end QosFlowManager

/-- An unfinished outgoing message: what it waits for, and the number of the call that put it in its place. -/
structure OrderEntry where
  packetId : UInt16
  state : FlowState
  since : Nat

abbrev EventOrder := List OrderEntry

namespace EventOrder

def opened (order : EventOrder) (call : Nat) (state : FlowState) (packetId : UInt16) : EventOrder :=
  if packetId = 0 || packetId ∈ order.map OrderEntry.packetId then order
  else order ++ [{ packetId, state, since := call }]

def removed (order : EventOrder) (packetId : UInt16) : EventOrder :=
  order.filter (fun entry => decide (entry.packetId ≠ packetId))

def waits (order : EventOrder) (state : FlowState) (packetId : UInt16) : Bool :=
  order.any (fun entry => entry.packetId = packetId && entry.state = state)

def finished (order : EventOrder) (state : FlowState) (packetId : UInt16) : EventOrder :=
  if order.waits state packetId then order.removed packetId else order

def after (order : EventOrder) (call : Nat) : FlowOp → EventOrder
  | .publishSentQos1 id => order.opened call .awaitingPuback id
  | .publishSentQos2 id => order.opened call .awaitingPubrec id
  | .pubackReceived id => order.finished .awaitingPuback id
  | .pubcompReceived id => order.finished .awaitingPubcomp id
  | .pubrecReceived id reasonCode =>
    if 0x80 ≤ reasonCode then order.finished .awaitingPubrec id
    else if order.waits .awaitingPubrec id then
      order.removed id ++ [{ packetId := id, state := .awaitingPubcomp, since := call }]
    else order
  | .release id => order.removed id
  | .reset => []
  | _ => order

end EventOrder

/-- A manager, the event order beside it, and how many calls and sequence numbers it has taken. -/
structure FlowHistory where
  manager : QosFlowManager
  order : EventOrder
  calls : Nat
  drawn : Nat

namespace FlowHistory

def start : FlowHistory := { manager := .new, order := [], calls := 0, drawn := 0 }

def next (h : FlowHistory) (op : FlowOp) : FlowHistory where
  manager := h.manager.perform op
  order := h.order.after h.calls op
  calls := h.calls + 1
  drawn := h.drawn + if h.manager.draws op then 1 else 0

def of (ops : List FlowOp) : FlowHistory := ops.foldl next start

end FlowHistory

namespace QosFlowManager

def seqOf (m : QosFlowManager) (packetId : UInt16) : Nat :=
  ((m.outgoing.get? packetId).map (fun flow => flow.seq.toNat)).getD 0

section Sorting

variable {m n : QosFlowManager} {packetId : UInt16} {flow : OutgoingFlow}

theorem seqOf_present (present : m.outgoing.get? packetId = some flow) : m.seqOf packetId = flow.seq.toNat := by
  simp [seqOf, present]

theorem pendingPacketIds_sorted (m : QosFlowManager) :
    m.pendingPacketIds.Pairwise (fun a b => m.seqOf a ≤ m.seqOf b) := by
  refine List.pairwise_map.mpr ((List.pairwise_insertionSort SeqBefore _).imp_of_mem ?_)
  have stamp : ∀ pair ∈ (m.outgoing.entries.map fun entry => (entry.2.seq, entry.1)).insertionSort SeqBefore,
      m.seqOf pair.2 = pair.1.toNat := by
    intro pair member
    obtain ⟨⟨id, flow⟩, listed, rfl⟩ := List.mem_map.mp ((List.perm_insertionSort SeqBefore _).mem_iff.mp member)
    exact seqOf_present (OrderedMap.mem_entries.mp listed)
  intro a b left right before
  rw [stamp a left, stamp b right]
  rcases before with less | ⟨same, -⟩
  · exact (UInt64.lt_iff_toNat_lt.mp less).le
  · exact (congrArg UInt64.toNat same).le

end Sorting

end QosFlowManager

namespace EventOrder

variable {order : EventOrder} {state : FlowState} {packetId : UInt16}

theorem waits_iff :
    order.waits state packetId = true ↔ ∃ entry ∈ order, entry.packetId = packetId ∧ entry.state = state := by
  simp [waits, List.any_eq_true]

theorem mem_removed {entry : OrderEntry} :
    entry ∈ order.removed packetId ↔ entry ∈ order ∧ entry.packetId ≠ packetId := by
  simp [removed]

theorem map_removed (order : EventOrder) (packetId : UInt16) :
    (order.removed packetId).map OrderEntry.packetId =
      (order.map OrderEntry.packetId).filter (fun id => decide (id ≠ packetId)) := by
  rw [removed, List.filter_map]
  rfl

theorem removed_of_absent (absent : packetId ∉ order.map OrderEntry.packetId) : order.removed packetId = order := by
  refine List.filter_eq_self.mpr fun entry member => decide_eq_true ?_
  rintro rfl
  exact absent (List.mem_map_of_mem member)

end EventOrder

/-- The order lists exactly the outgoing flows, by their sequence numbers. -/
structure Follows (m : QosFlowManager) (order : EventOrder) (drawn : Nat) : Prop where
  states : ∀ id state, (∃ entry ∈ order, entry.packetId = id ∧ entry.state = state) ↔
    ∃ flow, m.outgoing.get? id = some flow ∧ flow.state = state
  stamped : Stamped m.seqOf m.nextSeq.toNat (order.map OrderEntry.packetId)
  bounded : m.nextSeq.toNat ≤ drawn

namespace Follows

variable {m n : QosFlowManager} {order : EventOrder} {drawn : Nat} {packetId : UInt16} {state : FlowState}

theorem mem_ids (follows : Follows m order drawn) :
    packetId ∈ order.map OrderEntry.packetId ↔ ∃ flow, m.outgoing.get? packetId = some flow := by
  rw [List.mem_map]
  constructor
  · rintro ⟨entry, member, rfl⟩
    obtain ⟨flow, present, -⟩ := (follows.states entry.packetId entry.state).mp ⟨entry, member, rfl, rfl⟩
    exact ⟨flow, present⟩
  · rintro ⟨flow, present⟩
    obtain ⟨entry, member, same, -⟩ := (follows.states packetId flow.state).mpr ⟨flow, present, rfl⟩
    exact ⟨entry, member, same⟩

theorem waits_iff (follows : Follows m order drawn) :
    order.waits state packetId = true ↔ ∃ flow, m.outgoing.get? packetId = some flow ∧ flow.state = state :=
  EventOrder.waits_iff.trans (follows.states packetId state)

theorem empty (drawn : Nat) : Follows .new [] drawn := by
  refine ⟨?_, .nil, Nat.zero_le _⟩
  intro id state
  simp [QosFlowManager.new]

theorem kept (follows : Follows m order drawn)
    (same : ∀ id, (n.outgoing.get? id).map (fun flow => (flow.seq, flow.state)) =
      (m.outgoing.get? id).map (fun flow => (flow.seq, flow.state)))
    (counter : n.nextSeq = m.nextSeq) : Follows n order drawn := by
  have seq : ∀ id, n.seqOf id = m.seqOf id := by
    intro id
    have pairs := congrArg (Option.map fun pair : UInt64 × FlowState => pair.1.toNat) (same id)
    simp only [Option.map_map] at pairs
    exact congrArg (fun stamp : Option Nat => stamp.getD 0) pairs
  refine ⟨fun id state => (follows.states id state).trans ?_, ?_, ?_⟩
  · have states := congrArg (Option.map fun pair : UInt64 × FlowState => pair.2) (same id)
    simp only [Option.map_map] at states
    have found : (m.outgoing.get? id).map (fun flow => flow.state) = some state ↔
        (n.outgoing.get? id).map (fun flow => flow.state) = some state :=
      iff_of_eq (congrArg (· = some state) states.symm)
    simpa only [Option.map_eq_some_iff] using found
  · rw [counter]
    exact follows.stamped.mono (fun id _ => seq id) (Nat.le_refl _)
  · rw [counter]
    exact follows.bounded

theorem removed (follows : Follows m order drawn) (erased : n.outgoing = m.outgoing.erase packetId)
    (counter : n.nextSeq = m.nextSeq) : Follows n (order.removed packetId) drawn := by
  refine ⟨?_, ?_, ?_⟩
  · intro id state
    rw [erased, OrderedMap.get?_erase]
    by_cases same : id = packetId
    · subst same
      refine iff_of_false ?_ (by simp)
      rintro ⟨entry, member, here, -⟩
      exact (EventOrder.mem_removed.mp member).2 here
    · rw [if_neg same, ← follows.states id state]
      constructor
      · rintro ⟨entry, member, rest⟩
        exact ⟨entry, (EventOrder.mem_removed.mp member).1, rest⟩
      · rintro ⟨entry, member, rfl, rest⟩
        exact ⟨entry, EventOrder.mem_removed.mpr ⟨member, same⟩, rfl, rest⟩
  · rw [EventOrder.map_removed, counter]
    refine (follows.stamped.filter _).mono ?_ (Nat.le_refl _)
    intro id member
    have other : id ≠ packetId := of_decide_eq_true (List.mem_filter.mp member).2
    simp [QosFlowManager.seqOf, erased, other]
  · rw [counter]
    exact follows.bounded

theorem placed (follows : Follows m order drawn) {charged : Bool} {call : Nat} (few : drawn + 1 < 2 ^ 64)
    (inserted : n.outgoing =
      m.outgoing.insert packetId { seq := m.nextSeq, state, quotaCharged := charged })
    (counter : n.nextSeq = m.nextSeq + 1) :
    Follows n (order.removed packetId ++ [{ packetId, state, since := call }]) (drawn + 1) := by
  have bounded := follows.bounded
  have raised : n.nextSeq.toNat = m.nextSeq.toNat + 1 := by
    rw [counter, UInt64.toNat_add]
    exact Nat.mod_eq_of_lt (by simp only [UInt64.reduceToNat]; omega)
  refine ⟨?_, ?_, by omega⟩
  · intro id wanted
    rw [inserted, OrderedMap.get?_insert]
    by_cases same : id = packetId
    · subst same
      rw [if_pos rfl]
      constructor
      · rintro ⟨entry, member, here, rest⟩
        rcases List.mem_append.mp member with old | last
        · exact absurd here (EventOrder.mem_removed.mp old).2
        · obtain rfl := List.mem_singleton.mp last
          exact ⟨_, rfl, rest⟩
      · rintro ⟨flow, present, rest⟩
        cases present
        exact ⟨_, List.mem_append_right _ (List.mem_singleton_self _), rfl, rest⟩
    · have others := follows.states id wanted
      simp only [List.mem_append, List.mem_singleton, same, ↓reduceIte]
      rw [← others]
      constructor
      · rintro ⟨entry, member | rfl, rest⟩
        · exact ⟨entry, (EventOrder.mem_removed.mp member).1, rest⟩
        · exact absurd rest.1.symm same
      · rintro ⟨entry, member, rfl, rest⟩
        exact ⟨entry, .inl (EventOrder.mem_removed.mpr ⟨member, same⟩), rfl, rest⟩
  · rw [List.map_append, EventOrder.map_removed, raised]
    refine (follows.stamped.filter _).append ?_ ?_
    · intro id member
      have other : id ≠ packetId := of_decide_eq_true (List.mem_filter.mp member).2
      simp [QosFlowManager.seqOf, inserted, other]
    · simp [QosFlowManager.seqOf, inserted]

end Follows

namespace FlowHistory

variable {m : QosFlowManager} {order : EventOrder} {drawn call : Nat}

theorem publishSent_follows (follows : Follows m order drawn) (state : FlowState) (id : UInt16)
    (few : drawn + (if id ≠ 0 && !m.outgoing.contains id then 1 else 0) < 2 ^ 64) :
    Follows (m.publishSent state id) (order.opened call state id)
      (drawn + if id ≠ 0 && !m.outgoing.contains id then 1 else 0) := by
  by_cases zero : id = 0
  · subst zero
    rw [QosFlowManager.publishSent_zero]
    simpa [EventOrder.opened] using follows
  cases present : m.outgoing.get? id with
  | none =>
    have fresh : m.outgoing.contains id = false := OrderedMap.contains_false_iff.mpr present
    have unlisted : id ∉ order.map OrderEntry.packetId := by
      intro listed
      obtain ⟨flow, known⟩ := follows.mem_ids.mp listed
      cases present.symm.trans known
    have opens : order.opened call state id = order.removed id ++ [{ packetId := id, state, since := call }] := by
      rw [EventOrder.removed_of_absent unlisted, EventOrder.opened, if_neg]
      simp [zero, unlisted]
    simp only [fresh, zero, ne_eq, not_false_eq_true, decide_true, Bool.not_false, Bool.and_self, ↓reduceIte] at few ⊢
    rw [QosFlowManager.publishSent_new zero present, opens]
    exact follows.placed few rfl rfl
  | some flow =>
    have listed := follows.mem_ids.mpr ⟨flow, present⟩
    have stays : order.opened call state id = order := by
      rw [EventOrder.opened, if_pos]
      simp [listed]
    rw [QosFlowManager.publishSent_present present, stays, OrderedMap.contains, present]
    simpa using follows

theorem finalAck_follows (follows : Follows m order drawn) (expected : FlowState) (id : UInt16) :
    Follows (m.finalAckReceived expected id).2 (order.finished expected id) drawn := by
  unfold EventOrder.finished
  by_cases waiting : order.waits expected id = true
  · obtain ⟨flow, present, same⟩ := follows.waits_iff.mp waiting
    rw [if_pos waiting, QosFlowManager.finalAckReceived_finished present same]
    exact follows.removed rfl rfl
  · rw [if_neg waiting]
    rcases m.finalAckReceived_cases expected id with ⟨flow, present, same, -⟩ | result | result
    · exact absurd (follows.waits_iff.mpr ⟨flow, present, same⟩) waiting
    all_goals
      rw [result]
      exact follows

theorem pubrec_follows (follows : Follows m order drawn) (id : UInt16) (reasonCode : UInt8)
    (few : drawn + (if m.draws (.pubrecReceived id reasonCode) then 1 else 0) < 2 ^ 64) :
    Follows (m.pubrecReceived id reasonCode).2 (order.after call (.pubrecReceived id reasonCode))
      (drawn + if m.draws (.pubrecReceived id reasonCode) then 1 else 0) := by
  have waits_of : ∀ flow, m.outgoing.get? id = some flow → flow.state = .awaitingPubrec →
      order.waits .awaitingPubrec id = true :=
    fun flow present same => follows.waits_iff.mpr ⟨flow, present, same⟩
  have idle : order.waits .awaitingPubrec id = false ∨ 0x80 ≤ reasonCode →
      m.draws (.pubrecReceived id reasonCode) = false := by
    rintro (none | failure)
    · simp only [QosFlowManager.draws, Bool.and_eq_false_iff, Option.any_eq_false, decide_eq_false_iff_not]
      refine .inr fun flow present same => ?_
      rw [waits_of flow present same] at none
      cases none
    · simp [QosFlowManager.draws, failure]
  cases waiting : order.waits .awaitingPubrec id with
  | false =>
    rw [idle (.inl waiting)]
    have stays : order.after call (.pubrecReceived id reasonCode) = order := by
      simp [EventOrder.after, EventOrder.finished, waiting]
    rw [stays]
    rcases m.pubrecReceived_cases id reasonCode with
      ⟨flow, present, same, -, -⟩ | ⟨flow, present, same, -, -⟩ | result | result | result
    · cases waiting.symm.trans (waits_of flow present same)
    · cases waiting.symm.trans (waits_of flow present same)
    all_goals
      rw [result]
      exact follows
  | true =>
    obtain ⟨flow, present, same⟩ := follows.waits_iff.mp waiting
    by_cases failure : 0x80 ≤ reasonCode
    · rw [idle (.inr failure), QosFlowManager.pubrecReceived_aborted failure present same]
      have ends : order.after call (.pubrecReceived id reasonCode) = order.removed id := by
        simp [EventOrder.after, EventOrder.finished, waiting, failure]
      rw [ends]
      exact follows.removed rfl rfl
    · have drawsOne : m.draws (.pubrecReceived id reasonCode) = true := by
        simp [QosFlowManager.draws, failure, present, same]
      have moves : order.after call (.pubrecReceived id reasonCode) =
          order.removed id ++ [{ packetId := id, state := .awaitingPubcomp, since := call }] := by
        simp [EventOrder.after, waiting, failure]
      rw [drawsOne] at few ⊢
      rw [QosFlowManager.pubrecReceived_first failure present same, moves]
      exact follows.placed few rfl rfl

theorem perform_follows (follows : Follows m order drawn) (call : Nat) (op : FlowOp)
    (few : drawn + (if m.draws op then 1 else 0) < 2 ^ 64) :
    Follows (m.perform op) (order.after call op) (drawn + if m.draws op then 1 else 0) := by
  cases op
  case publishSentQos1 id => exact publishSent_follows follows .awaitingPuback id few
  case publishSentQos2 id => exact publishSent_follows follows .awaitingPubrec id few
  case pubackReceived id => exact finalAck_follows follows .awaitingPuback id
  case pubcompReceived id => exact finalAck_follows follows .awaitingPubcomp id
  case pubrecReceived id reasonCode => exact pubrec_follows follows id reasonCode few
  case release id => exact follows.removed rfl rfl
  case reset => exact .empty drawn
  case publishReceivedQos1 | publishReceivedQos2 => exact follows.kept (fun _ => rfl) rfl
  case pubackSent id =>
    refine follows.kept (fun other => ?_) ?_
    · rw [QosFlowManager.perform, QosFlowManager.pubackSent_outgoing]
    · by_cases waiting : m.incoming.get? id = some .incomingAwaitingPuback
      · rw [QosFlowManager.perform, QosFlowManager.pubackSent_finished waiting]
      · rw [QosFlowManager.perform, QosFlowManager.pubackSent_other waiting]
  case pubrelReceived id =>
    refine follows.kept (fun other => ?_) ?_
    · rw [QosFlowManager.perform, QosFlowManager.pubrelReceived_outgoing]
    · cases present : m.incoming.get? id with
      | none => rw [QosFlowManager.perform, QosFlowManager.pubrelReceived_absent present]
      | some state =>
        by_cases waiting : state = .awaitingPubrel
        · rw [waiting] at present
          rw [QosFlowManager.perform, QosFlowManager.pubrelReceived_finished present]
        · rw [QosFlowManager.perform, QosFlowManager.pubrelReceived_mismatch present waiting]
  case markQuotaCharged id =>
    cases present : m.outgoing.get? id with
    | none =>
      refine follows.kept (fun other => ?_) ?_ <;>
        simp [QosFlowManager.perform, QosFlowManager.markQuotaCharged, present]
    | some flow =>
      refine follows.kept (fun other => ?_) ?_ <;>
        rw [QosFlowManager.perform, QosFlowManager.markQuotaCharged_present present]
      rw [OrderedMap.get?_insert]
      split
      · rename_i same
        subst same
        rw [present]
        rfl
      · rfl
  case clearQuotaCharges =>
    refine follows.kept (fun other => ?_) rfl
    simp only [QosFlowManager.perform, QosFlowManager.clearQuotaCharges, OrderedMap.get?_mapValues, Option.map_map]
    rfl

/-- The call that put an entry in its place: the accepted send, or the first successful PUBREC. -/
def PlacedBy (op : FlowOp) (entry : OrderEntry) : Prop :=
  match entry.state with
  | .awaitingPuback => op = .publishSentQos1 entry.packetId
  | .awaitingPubrec => op = .publishSentQos2 entry.packetId
  | .awaitingPubcomp => ∃ reasonCode, op = .pubrecReceived entry.packetId reasonCode ∧ ¬0x80 ≤ reasonCode
  | .awaitingPubrel | .incomingAwaitingPuback => False

theorem after_cases (order : EventOrder) (call : Nat) (op : FlowOp) :
    ∃ keeps : OrderEntry → Bool, order.after call op = order.filter keeps ∨
      ∃ entry, order.after call op = order.filter keeps ++ [entry] ∧ entry.since = call ∧ PlacedBy op entry := by
  have whole : order = order.filter fun _ => true := (List.filter_eq_self.mpr fun _ _ => rfl).symm
  have finished : ∀ state id, ∃ keeps : OrderEntry → Bool, order.finished state id = order.filter keeps := by
    intro state id
    unfold EventOrder.finished
    split
    · exact ⟨_, rfl⟩
    · exact ⟨_, whole⟩
  cases op
  case publishSentQos1 id | publishSentQos2 id =>
    refine ⟨fun _ => true, ?_⟩
    rw [← whole]
    simp only [EventOrder.after, EventOrder.opened]
    split
    · exact .inl rfl
    · exact .inr ⟨_, rfl, rfl, rfl⟩
  case pubackReceived id => exact (finished .awaitingPuback id).imp fun _ kept => .inl kept
  case pubcompReceived id => exact (finished .awaitingPubcomp id).imp fun _ kept => .inl kept
  case pubrecReceived id reasonCode =>
    simp only [EventOrder.after]
    split
    · exact (finished .awaitingPubrec id).imp fun _ kept => .inl kept
    · rename_i success
      split
      · exact ⟨_, .inr ⟨_, rfl, rfl, reasonCode, rfl, success⟩⟩
      · exact ⟨_, .inl whole⟩
  case release id => exact ⟨_, .inl rfl⟩
  case reset => exact ⟨fun _ => false, .inl (by simp [EventOrder.after])⟩
  all_goals exact ⟨_, .inl whole⟩

theorem of_snoc (ops : List FlowOp) (op : FlowOp) : of (ops ++ [op]) = (of ops).next op := by
  simp [of]

theorem of_calls (ops : List FlowOp) : (of ops).calls = ops.length := by
  induction ops using List.reverseRecOn with
  | nil => rfl
  | append_singleton ops op ih =>
    rw [of_snoc, List.length_append, ← ih]
    rfl

theorem of_placed (ops : List FlowOp) :
    Stamped OrderEntry.since ops.length (of ops).order ∧
      ∀ entry ∈ (of ops).order, ∃ op, ops[entry.since]? = some op ∧ PlacedBy op entry := by
  induction ops using List.reverseRecOn with
  | nil => exact ⟨.nil, by simp [of, start]⟩
  | append_singleton ops op ih =>
    obtain ⟨stamped, placed⟩ := ih
    have order : (of (ops ++ [op])).order = (of ops).order.after ops.length op := by
      rw [of_snoc, ← of_calls ops]
      rfl
    have earlier : ∀ entry ∈ (of ops).order, ∃ op', (ops ++ [op])[entry.since]? = some op' ∧ PlacedBy op' entry := by
      intro entry member
      obtain ⟨op', known, places⟩ := placed entry member
      exact ⟨op', by rw [List.getElem?_append_left (stamped.drawn entry member), known], places⟩
    rw [order, List.length_append, List.length_singleton]
    obtain ⟨keeps, filtered | ⟨entry, appended, now, places⟩⟩ := after_cases (of ops).order ops.length op
    · rw [filtered]
      exact ⟨(stamped.filter keeps).mono (fun _ _ => rfl) (Nat.le_succ _),
        fun entry member => earlier entry (List.mem_of_mem_filter member)⟩
    · rw [appended]
      refine ⟨(stamped.filter keeps).append (fun _ _ => rfl) now, fun other member => ?_⟩
      rcases List.mem_append.mp member with old | last
      · exact earlier other (List.mem_of_mem_filter old)
      · obtain rfl := List.mem_singleton.mp last
        exact ⟨op, by simp [now], places⟩

theorem of_follows (ops : List FlowOp) (few : (of ops).drawn < 2 ^ 64) :
    Follows (of ops).manager (of ops).order (of ops).drawn := by
  induction ops using List.reverseRecOn with
  | nil => exact .empty 0
  | append_singleton ops op ih =>
    rw [of_snoc] at few ⊢
    have before : (of ops).drawn < 2 ^ 64 := lt_of_le_of_lt (Nat.le_add_right _ _) few
    exact perform_follows (ih before) (of ops).calls op few

/-- The retransmission order of a manager after some calls is the order of events. -/
structure RetransmitsInOrder (ops : List FlowOp) (h : FlowHistory) : Prop where
  manager : h.manager = ops.foldl QosFlowManager.perform .new
  byEvent : h.manager.pendingPacketIds = h.order.map OrderEntry.packetId
  once : h.manager.pendingPacketIds.Nodup
  complete : ∀ id, id ∈ h.manager.pendingPacketIds ↔ h.manager.outgoing.contains id = true
  placed : ∀ entry ∈ h.order, ∃ op, ops[entry.since]? = some op ∧ PlacedBy op entry
  ascending : h.order.Pairwise (fun a b => a.since < b.since)
  publishes : h.manager.pendingPacketIds.filter
      (fun id => h.manager.needsRetransmission id = some (.resendPublish id)) =
    (h.order.filter fun entry => decide (entry.state ≠ .awaitingPubcomp)).map OrderEntry.packetId
  pubrels : h.manager.pendingPacketIds.filter
      (fun id => h.manager.needsRetransmission id = some (.resendPubrel id)) =
    (h.order.filter fun entry => decide (entry.state = .awaitingPubcomp)).map OrderEntry.packetId

theorem of_manager (ops : List FlowOp) : (of ops).manager = ops.foldl QosFlowManager.perform .new := by
  induction ops using List.reverseRecOn with
  | nil => rfl
  | append_singleton ops op ih =>
    rw [of_snoc, List.foldl_append, ← ih]
    rfl

theorem pendingPacketIds_eq (follows : Follows m order drawn) :
    m.pendingPacketIds = order.map OrderEntry.packetId := by
  refine follows.stamped.eq_of_sorted ?_ m.pendingPacketIds_sorted
  refine (List.perm_ext_iff_of_nodup m.pendingPacketIds_nodup follows.stamped.nodup).mpr fun id => ?_
  exact QosFlowManager.mem_pendingPacketIds.trans follows.mem_ids.symm

theorem needsRetransmission_entry {entry : OrderEntry} {op : FlowOp} (follows : Follows m order drawn)
    (member : entry ∈ order) (places : PlacedBy op entry) :
    m.needsRetransmission entry.packetId =
      some (if entry.state = .awaitingPubcomp then .resendPubrel entry.packetId
        else .resendPublish entry.packetId) := by
  obtain ⟨flow, present, same⟩ := (follows.states entry.packetId entry.state).mp ⟨entry, member, rfl, rfl⟩
  unfold PlacedBy at places
  cases known : entry.state <;> simp only [known] at places <;>
    simp [QosFlowManager.needsRetransmission, present, same, known]

/-- As long as fewer than 2^64 sequence numbers were drawn, the retransmission order is the order of events:
    every unfinished message once, PUBLISH packets as they were sent, PUBREL packets as their first PUBREC came. -/
theorem retransmission_order (ops : List FlowOp) (few : (of ops).drawn < 2 ^ 64) :
    RetransmitsInOrder ops (of ops) := by
  have follows := of_follows ops few
  obtain ⟨stamped, placed⟩ := of_placed ops
  have listed := pendingPacketIds_eq follows
  have asks : ∀ entry ∈ (of ops).order, (of ops).manager.needsRetransmission entry.packetId =
      some (if entry.state = .awaitingPubcomp then .resendPubrel entry.packetId
        else .resendPublish entry.packetId) := by
    intro entry member
    obtain ⟨op, -, places⟩ := placed entry member
    exact needsRetransmission_entry follows member places
  refine ⟨of_manager ops, listed, QosFlowManager.pendingPacketIds_nodup _, ?_, placed, stamped.ascending, ?_, ?_⟩
  · intro id
    exact QosFlowManager.mem_pendingPacketIds.trans OrderedMap.contains_iff.symm
  · rw [listed, List.filter_map]
    refine congrArg _ (List.filter_congr fun entry member => ?_)
    simp only [Function.comp_apply, asks entry member]
    by_cases released : entry.state = .awaitingPubcomp <;> simp [released]
  · rw [listed, List.filter_map]
    refine congrArg _ (List.filter_congr fun entry member => ?_)
    simp only [Function.comp_apply, asks entry member]
    by_cases released : entry.state = .awaitingPubcomp <;> simp [released]

def pubrecRun : List FlowOp :=
  [.publishSentQos2 7, .publishSentQos1 3, .publishSentQos2 5, .pubrecReceived 7 0, .pubrecReceived 7 0,
    .clearQuotaCharges]

theorem pubrecRun_order :
    (of pubrecRun).manager.pendingPacketIds = [3, 5, 7] ∧ RetransmitsInOrder pubrecRun (of pubrecRun) := by
  have few : (of pubrecRun).drawn < 2 ^ 64 := by decide
  have inOrder := retransmission_order pubrecRun few
  refine ⟨?_, inOrder⟩
  rw [inOrder.byEvent]
  decide

end FlowHistory

end MqttRs
