import MqttRs.Library.ReverseIndex
import MqttRs.Library.Runs
import MqttRs.State.Subscribe

namespace MqttRs

/-- The calls that change a subscription manager. -/
inductive SubscriptionOp where
  | subscribeSent (packetId : UInt16) (subscriptions : List SubscriptionEntry)
  | subackReceived (packetId : UInt16) (reasonCodes : List UInt8)
  | dropPendingSubscribe (packetId : UInt16)
  | unsubscribeSent (packetId : UInt16) (topicFilters : List String)
  | unsubackReceived (packetId : UInt16) (reasonCodes : List UInt8)
  | dropPendingUnsubscribe (packetId : UInt16)
  | reset

namespace SubscriptionManager

open ReverseIndex (Indexed link unlink listed)

def perform (m : SubscriptionManager) : SubscriptionOp → SubscriptionManager
  | .subscribeSent id subscriptions => m.subscribeSent id subscriptions
  | .subackReceived id reasonCodes => (m.subackReceived id reasonCodes).2
  | .dropPendingSubscribe id => (m.dropPendingSubscribe id).2
  | .unsubscribeSent id filters => m.unsubscribeSent id filters
  | .unsubackReceived id reasonCodes => (m.unsubackReceived id reasonCodes).2
  | .dropPendingUnsubscribe id => (m.dropPendingUnsubscribe id).2
  | .reset => m.reset

/-- Active entries are confirmed and stored under their own filter, and the index lists their identifiers. -/
structure Consistent (m : SubscriptionManager) : Prop where
  stored : ∀ filter entry, m.active.get? filter = some entry →
    entry.topicFilter = filter ∧ entry.grantedQos.isSome = true
  indexed : Indexed m.active SubscriptionEntry.subscriptionIdentifier m.subscriptionIds

section Turns

variable {m n : SubscriptionManager}

theorem new_consistent : new.Consistent := by
  refine ⟨fun filter entry present => ?_, .empty⟩
  cases present

theorem Consistent.congr (consistent : m.Consistent) (active : n.active = m.active)
    (index : n.subscriptionIds = m.subscriptionIds) : n.Consistent := by
  refine ⟨?_, ?_⟩
  · rw [active]
    exact consistent.stored
  · rw [active, index]
    exact consistent.indexed

theorem removeSubscriptionIdentifier_eq (m : SubscriptionManager) (filter : String) (id : UInt32) :
    m.removeSubscriptionIdentifier filter id =
      { m with subscriptionIds := unlink m.subscriptionIds filter (some id) } := by
  have test : (fun other : String => other != filter) = fun other => decide (other ≠ filter) := by
    funext other
    by_cases same : other = filter <;> simp [same]
  simp only [removeSubscriptionIdentifier, unlink, test]
  cases m.subscriptionIds.get? id with
  | none => rfl
  | some filters =>
    dsimp only
    split <;> rfl

theorem forgetOldIdentifier_eq (m : SubscriptionManager) (filter : String) :
    m.forgetOldIdentifier filter =
      { m with
        subscriptionIds := unlink m.subscriptionIds filter
          ((m.active.get? filter).bind SubscriptionEntry.subscriptionIdentifier) } := by
  unfold forgetOldIdentifier
  cases m.active.get? filter with
  | none => rfl
  | some old =>
    cases carried : old.subscriptionIdentifier with
    | none => simp [carried, unlink]
    | some id => simp only [carried, Option.bind_some, removeSubscriptionIdentifier_eq]

theorem recordIdentifier_eq (m : SubscriptionManager) (entry : SubscriptionEntry) :
    m.recordIdentifier entry =
      { m with subscriptionIds := link m.subscriptionIds entry.topicFilter entry.subscriptionIdentifier } := by
  unfold recordIdentifier
  cases entry.subscriptionIdentifier <;> rfl

theorem removeActive_eq (m : SubscriptionManager) (filter : String) :
    (m.removeActive filter).2 =
      { m with
        active := m.active.erase filter
        subscriptionIds := unlink m.subscriptionIds filter
          ((m.active.get? filter).bind SubscriptionEntry.subscriptionIdentifier) } := by
  unfold removeActive
  cases present : m.active.get? filter with
  | none => simp [unlink, OrderedMap.erase_of_absent present]
  | some removed =>
    cases carried : removed.subscriptionIdentifier with
    | none => simp [carried, unlink]
    | some id => simp only [carried, Option.bind_some, removeSubscriptionIdentifier_eq]

theorem removeActive_consistent (consistent : m.Consistent) (filter : String) :
    (m.removeActive filter).2.Consistent := by
  rw [removeActive_eq]
  refine ⟨fun other entry present => ?_, consistent.indexed.erase filter⟩
  simp only [OrderedMap.get?_erase] at present
  split at present
  · cases present
  · exact consistent.stored other entry present

theorem granted_of_success {code : UInt8} (success : code ≤ 0x02) :
    (ByteCode.fromU8 code : Option QoS).isSome = true := by
  have small := UInt8.le_iff_toNat_le.mp success
  obtain rfl | rfl | rfl : code = 0 ∨ code = 1 ∨ code = 2 := by
    simp only [← UInt8.toNat_inj]
    simp only [UInt8.reduceToNat] at small ⊢
    omega
  all_goals rfl

theorem confirm_consistent (consistent : m.Consistent) (entry : SubscriptionEntry) (code : UInt8) :
    (m.confirm entry code).2.Consistent := by
  unfold confirm
  split
  · rename_i success
    have granted := granted_of_success success
    have erased := consistent.indexed.erase entry.topicFilter
    have absent : (m.active.erase entry.topicFilter).get? entry.topicFilter = none := by simp
    have placed := erased.insert absent { entry with grantedQos := ByteCode.fromU8 code }
    rw [OrderedMap.insert_erase] at placed
    simp only [forgetOldIdentifier_eq, recordIdentifier_eq]
    refine ⟨fun filter found present => ?_, placed⟩
    simp only [OrderedMap.get?_insert] at present
    split at present
    · rename_i same
      cases present
      exact ⟨same.symm, granted⟩
    · exact consistent.stored filter found present
  · exact consistent

theorem confirmAll_consistent (consistent : m.Consistent) (entries : List (SubscriptionEntry × UInt8)) :
    (m.confirmAll entries).2.Consistent := by
  induction entries generalizing m with
  | nil => exact consistent
  | cons entry rest ih => exact ih (confirm_consistent consistent entry.1 entry.2)

theorem removeAll_consistent (consistent : m.Consistent) (reasonCodes : List UInt8) (i : Nat)
    (filters : List String) : (removeAll reasonCodes m i filters).2.Consistent := by
  induction filters generalizing m i with
  | nil => exact consistent
  | cons filter rest ih =>
    have first : (if removedOnServer reasonCodes i then m.removeActive filter else ([], m)).2.Consistent := by
      split
      · exact removeActive_consistent consistent filter
      · exact consistent
    exact ih first (i + 1)

theorem subackReceived_consistent (consistent : m.Consistent) (packetId : UInt16) (reasonCodes : List UInt8) :
    (m.subackReceived packetId reasonCodes).2.Consistent := by
  unfold subackReceived
  split
  · exact consistent
  · have answered := consistent.congr (n := { m with pendingSubscribes := m.pendingSubscribes.erase packetId }) rfl rfl
    dsimp only
    split
    · exact answered
    · exact confirmAll_consistent answered _

theorem unsubackReceived_consistent (consistent : m.Consistent) (packetId : UInt16) (reasonCodes : List UInt8) :
    (m.unsubackReceived packetId reasonCodes).2.Consistent := by
  unfold unsubackReceived
  split
  · exact consistent
  · have answered :=
      consistent.congr (n := { m with pendingUnsubscribes := m.pendingUnsubscribes.erase packetId }) rfl rfl
    dsimp only
    split
    · exact answered
    · exact removeAll_consistent answered reasonCodes 0 _

theorem perform_consistent (consistent : m.Consistent) (op : SubscriptionOp) : (m.perform op).Consistent := by
  cases op
  case subackReceived id reasonCodes => exact subackReceived_consistent consistent id reasonCodes
  case unsubackReceived id reasonCodes => exact unsubackReceived_consistent consistent id reasonCodes
  case reset => exact new_consistent
  case subscribeSent | unsubscribeSent =>
    simp only [perform, subscribeSent, unsubscribeSent]
    split
    · exact consistent
    · exact consistent.congr rfl rfl
  case dropPendingSubscribe | dropPendingUnsubscribe => exact consistent.congr rfl rfl

theorem subackReceived_refused (packetId : UInt16) (reasonCodes : List UInt8)
    (unfit : ∀ pending, m.pendingSubscribes.get? packetId = some pending → reasonCodes.length ≠ pending.length) :
    (m.subackReceived packetId reasonCodes).1 = none ∧
      (m.subackReceived packetId reasonCodes).2.active = m.active ∧
      (m.subackReceived packetId reasonCodes).2.subscriptionIds = m.subscriptionIds := by
  cases present : m.pendingSubscribes.get? packetId with
  | none => simp only [subackReceived, present, and_self]
  | some pending =>
    have wrong := unfit pending present
    simp [subackReceived, present, wrong]

theorem unsubackReceived_refused (packetId : UInt16) (reasonCodes : List UInt8)
    (unfit : ∀ pending, m.pendingUnsubscribes.get? packetId = some pending →
      reasonCodes ≠ [] ∧ reasonCodes.length ≠ pending.length) :
    (m.unsubackReceived packetId reasonCodes).1 = none ∧
      (m.unsubackReceived packetId reasonCodes).2.active = m.active ∧
      (m.unsubackReceived packetId reasonCodes).2.subscriptionIds = m.subscriptionIds := by
  cases present : m.pendingUnsubscribes.get? packetId with
  | none => simp only [unsubackReceived, present, and_self]
  | some pending =>
    obtain ⟨some, wrong⟩ := unfit pending present
    have given : reasonCodes.isEmpty = false := by simpa using some
    simp [unsubackReceived, present, given, wrong]

end Turns

/-- The active subscriptions and their index of Subscription Identifiers agree. -/
structure IndexConsistent (m : SubscriptionManager) : Prop where
  stored : ∀ filter entry, m.active.get? filter = some entry →
    entry.topicFilter = filter ∧ entry.grantedQos.isSome = true
  listed : ∀ id filter, (∃ filters, m.subscriptionIds.get? id = some filters ∧ filter ∈ filters) ↔
    ∃ entry, m.active.get? filter = some entry ∧ entry.subscriptionIdentifier = some id
  once : ∀ id filters, m.subscriptionIds.get? id = some filters → filters.Nodup ∧ filters ≠ []
  found : ∀ id entry, entry ∈ m.findBySubscriptionIdentifier id ↔
    entry ∈ m.activeSubscriptions ∧ entry.subscriptionIdentifier = some id
  foundOnce : ∀ id, (m.findBySubscriptionIdentifier id).Nodup
  strayComesToNothing : ∀ packetId reasonCodes,
    (∀ pending, m.pendingSubscribes.get? packetId = some pending → reasonCodes.length ≠ pending.length) →
      (m.subackReceived packetId reasonCodes).2.active = m.active ∧
        (m.subackReceived packetId reasonCodes).2.subscriptionIds = m.subscriptionIds
  strayRemovesNothing : ∀ packetId reasonCodes,
    (∀ pending, m.pendingUnsubscribes.get? packetId = some pending →
        reasonCodes ≠ [] ∧ reasonCodes.length ≠ pending.length) →
      (m.unsubackReceived packetId reasonCodes).2.active = m.active ∧
        (m.unsubackReceived packetId reasonCodes).2.subscriptionIds = m.subscriptionIds

theorem findBySubscriptionIdentifier_eq (m : SubscriptionManager) (id : UInt32) :
    m.findBySubscriptionIdentifier id = (listed m.subscriptionIds id).filterMap m.active.get? := by
  unfold findBySubscriptionIdentifier listed
  cases m.subscriptionIds.get? id <;> rfl

theorem mem_activeSubscriptions {m : SubscriptionManager} {entry : SubscriptionEntry} :
    entry ∈ m.activeSubscriptions ↔ ∃ filter, m.active.get? filter = some entry := by
  simp [activeSubscriptions, OrderedMap.mem_entries]

theorem Consistent.index {m : SubscriptionManager} (consistent : m.Consistent) : m.IndexConsistent := by
  obtain ⟨stored, indexed⟩ := consistent
  have inList : ∀ id filters, m.subscriptionIds.get? id = some filters → listed m.subscriptionIds id = filters := by
    intro id filters known
    rw [listed, known]
    rfl
  refine ⟨stored, fun id filter => ?_, fun id filters known => ?_, fun id entry => ?_, fun id => ?_, ?_, ?_⟩
  · rw [← indexed.exactly id filter]
    constructor
    · rintro ⟨filters, known, member⟩
      rwa [inList id filters known]
    · intro member
      cases known : m.subscriptionIds.get? id with
      | none => simp [listed, known] at member
      | some filters =>
        rw [inList id filters known] at member
        exact ⟨filters, rfl, member⟩
  · refine ⟨inList id filters known ▸ indexed.once id, ?_⟩
    rintro rfl
    exact indexed.occupied id known
  · rw [findBySubscriptionIdentifier_eq, indexed.mem_lookup, mem_activeSubscriptions, exists_and_right]
  · rw [findBySubscriptionIdentifier_eq]
    exact indexed.lookup_nodup (fun filter entry present => (stored filter entry present).1) id
  · exact fun packetId reasonCodes unfit => (subackReceived_refused packetId reasonCodes unfit).2
  · exact fun packetId reasonCodes unfit => (unsubackReceived_refused packetId reasonCodes unfit).2

/-- After any calls on a new manager, the Subscription Identifiers lead to exactly the active subscriptions that
    carry them. -/
theorem subscription_index_consistent {ops : List SubscriptionOp} {m : SubscriptionManager}
    (run : Run (fun m op n => n = perform m op) .new ops m) : m.IndexConsistent :=
  (run.invariant (fun {_ op _} consistent step => step ▸ perform_consistent consistent op) new_consistent).index

def resubscribedRun : List SubscriptionOp :=
  let filter (id : UInt32) : SubscriptionEntry :=
    { SubscriptionEntry.new "a/b" .atLeastOnce with subscriptionIdentifier := some id }
  [.subscribeSent 1 [filter 7, filter 7], .subackReceived 1 [0, 1], .subscribeSent 2 [filter 9],
    .subackReceived 2 [2]]

theorem resubscribedRun_consistent :
    (resubscribedRun.foldl perform .new).findBySubscriptionIdentifier 7 = [] ∧
      ((resubscribedRun.foldl perform .new).findBySubscriptionIdentifier 9).length = 1 ∧
      (resubscribedRun.foldl perform .new).IndexConsistent := by
  have run : Run (fun m op n => n = perform m op) .new resubscribedRun (resubscribedRun.foldl perform .new) :=
    .cons rfl (.cons rfl (.cons rfl (.cons rfl (.nil _))))
  exact ⟨by decide, by decide, subscription_index_consistent run⟩

end SubscriptionManager

end MqttRs
