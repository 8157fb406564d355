import Mathlib.Data.String.Basic
import MqttRs.Codec.QoS
import MqttRs.Library.MachineInt
import MqttRs.Library.OrderedMap
import MqttRs.V5.ReasonCodes

namespace MqttRs

open V5 (RetainHandling)

structure SubscriptionEntry where
  topicFilter : String
  requestedQos : QoS
  grantedQos : Option QoS
  noLocal : Bool
  retainAsPublished : Bool
  retainHandling : RetainHandling
  subscriptionIdentifier : Option UInt32
  deriving DecidableEq

def SubscriptionEntry.new (topicFilter : String) (requestedQos : QoS) : SubscriptionEntry where
  topicFilter := topicFilter
  requestedQos := requestedQos
  grantedQos := none
  noLocal := false
  retainAsPublished := false
  retainHandling := .sendRetained
  subscriptionIdentifier := none

structure SubscriptionManager where
  active : OrderedMap String SubscriptionEntry
  pendingSubscribes : OrderedMap UInt16 (List SubscriptionEntry)
  pendingUnsubscribes : OrderedMap UInt16 (List String)
  subscriptionIds : OrderedMap UInt32 (List String)
  deriving DecidableEq

namespace SubscriptionManager

def new : SubscriptionManager where
  active := .empty
  pendingSubscribes := .empty
  pendingUnsubscribes := .empty
  subscriptionIds := .empty

def activeSubscriptions (m : SubscriptionManager) : List SubscriptionEntry := m.active.entries.map Prod.snd

def findBySubscriptionIdentifier (m : SubscriptionManager) (id : UInt32) : List SubscriptionEntry :=
  match m.subscriptionIds.get? id with
  | some filters => filters.filterMap m.active.get?
  | none => []

def subscribeSent (m : SubscriptionManager) (packetId : UInt16) (subscriptions : List SubscriptionEntry) :
    SubscriptionManager :=
  if packetId = 0 || subscriptions.isEmpty then m
  else { m with pendingSubscribes := m.pendingSubscribes.insert packetId subscriptions }

def dropPendingSubscribe (m : SubscriptionManager) (packetId : UInt16) :
    Option (List SubscriptionEntry) × SubscriptionManager :=
  (m.pendingSubscribes.get? packetId, { m with pendingSubscribes := m.pendingSubscribes.erase packetId })

def removeSubscriptionIdentifier (m : SubscriptionManager) (topicFilter : String) (id : UInt32) :
    SubscriptionManager :=
  match m.subscriptionIds.get? id with
  | none => m
  | some filters =>
    let kept := filters.filter (fun filter => filter != topicFilter)
    if kept.isEmpty then { m with subscriptionIds := m.subscriptionIds.erase id }
    else { m with subscriptionIds := m.subscriptionIds.insert id kept }

/-- The lookup and removal that a confirmed filter's old Subscription Identifier gets before it is replaced. -/
def forgetOldIdentifier (m : SubscriptionManager) (topicFilter : String) : SubscriptionManager :=
  match m.active.get? topicFilter with
  | some old =>
    match old.subscriptionIdentifier with
    | some oldId => m.removeSubscriptionIdentifier topicFilter oldId
    | none => m
  | none => m

def recordIdentifier (m : SubscriptionManager) (entry : SubscriptionEntry) : SubscriptionManager :=
  match entry.subscriptionIdentifier with
  | some id =>
    let filters := (m.subscriptionIds.get? id).getD []
    { m with subscriptionIds := m.subscriptionIds.insert id (filters ++ [entry.topicFilter]) }
  | none => m

/-- One turn of the `suback_received` loop. -/
def confirm (m : SubscriptionManager) (entry : SubscriptionEntry) (code : UInt8) :
    Option SubscriptionEntry × SubscriptionManager :=
  if code ≤ 0x02 then
    let entry := { entry with grantedQos := ByteCode.fromU8 code }
    let m := (m.forgetOldIdentifier entry.topicFilter).recordIdentifier entry
    (some entry, { m with active := m.active.insert entry.topicFilter entry })
  else (none, m)

def confirmAll : SubscriptionManager → List (SubscriptionEntry × UInt8) →
    List SubscriptionEntry × SubscriptionManager
  | m, [] => ([], m)
  | m, (entry, code) :: rest =>
    let (first, m) := m.confirm entry code
    let (confirmed, m) := confirmAll m rest
    (first.toList ++ confirmed, m)

def subackReceived (m : SubscriptionManager) (packetId : UInt16) (reasonCodes : List UInt8) :
    Option (List SubscriptionEntry) × SubscriptionManager :=
  match m.pendingSubscribes.get? packetId with
  | none => (none, m)
  | some pending =>
    let m := { m with pendingSubscribes := m.pendingSubscribes.erase packetId }
    if reasonCodes.length ≠ pending.length then (none, m)
    else
      let (confirmed, m) := m.confirmAll (pending.zip reasonCodes)
      (some confirmed, m)

def unsubscribeSent (m : SubscriptionManager) (packetId : UInt16) (topicFilters : List String) :
    SubscriptionManager :=
  if packetId = 0 || topicFilters.isEmpty then m
  else { m with pendingUnsubscribes := m.pendingUnsubscribes.insert packetId topicFilters }

def dropPendingUnsubscribe (m : SubscriptionManager) (packetId : UInt16) :
    Option (List String) × SubscriptionManager :=
  (m.pendingUnsubscribes.get? packetId, { m with pendingUnsubscribes := m.pendingUnsubscribes.erase packetId })

/-- `reason_codes.is_empty() || matches!(reason_codes[i], 0x00 | 0x11)` -/
def removedOnServer (reasonCodes : List UInt8) (i : Nat) : Bool :=
  reasonCodes.isEmpty || reasonCodes[i]? = some 0x00 || reasonCodes[i]? = some 0x11

/-- One turn of the `unsuback_received` loop for a filter the server no longer holds. -/
def removeActive (m : SubscriptionManager) (filter : String) : List String × SubscriptionManager :=
  match m.active.get? filter with
  | none => ([], m)
  | some removed =>
    let m := { m with active := m.active.erase filter }
    match removed.subscriptionIdentifier with
    | some id => ([filter], m.removeSubscriptionIdentifier filter id)
    | none => ([filter], m)

def removeAll (reasonCodes : List UInt8) : SubscriptionManager → Nat → List String →
    List String × SubscriptionManager
  | m, _, [] => ([], m)
  | m, i, filter :: rest =>
    let (first, m) := if removedOnServer reasonCodes i then m.removeActive filter else ([], m)
    let (unsubscribed, m) := removeAll reasonCodes m (i + 1) rest
    (first ++ unsubscribed, m)

def unsubackReceived (m : SubscriptionManager) (packetId : UInt16) (reasonCodes : List UInt8) :
    Option (List String) × SubscriptionManager :=
  match m.pendingUnsubscribes.get? packetId with
  | none => (none, m)
  | some pending =>
    let m := { m with pendingUnsubscribes := m.pendingUnsubscribes.erase packetId }
    if !reasonCodes.isEmpty && reasonCodes.length ≠ pending.length then (none, m)
    else
      let (unsubscribed, m) := removeAll reasonCodes m 0 pending
      (some unsubscribed, m)

def reset (_ : SubscriptionManager) : SubscriptionManager where
  active := .empty
  pendingSubscribes := .empty
  pendingUnsubscribes := .empty
  subscriptionIds := .empty

/-- Two managers that wait for the same SUBACKs and UNSUBACKs. -/
structure SamePending (m n : SubscriptionManager) : Prop where
  subscribes : n.pendingSubscribes = m.pendingSubscribes
  unsubscribes : n.pendingUnsubscribes = m.pendingUnsubscribes

section Pending

variable {m n o : SubscriptionManager}

theorem SamePending.refl (m : SubscriptionManager) : SamePending m m := ⟨rfl, rfl⟩

theorem SamePending.trans (first : SamePending m n) (second : SamePending n o) : SamePending m o :=
  ⟨second.subscribes.trans first.subscribes, second.unsubscribes.trans first.unsubscribes⟩

theorem removeSubscriptionIdentifier_pending (m : SubscriptionManager) (topicFilter : String) (id : UInt32) :
    SamePending m (m.removeSubscriptionIdentifier topicFilter id) := by
  unfold removeSubscriptionIdentifier
  split
  · exact .refl m
  · dsimp only
    split <;> exact ⟨rfl, rfl⟩

theorem forgetOldIdentifier_pending (m : SubscriptionManager) (topicFilter : String) :
    SamePending m (m.forgetOldIdentifier topicFilter) := by
  unfold forgetOldIdentifier
  split
  · split
    · exact m.removeSubscriptionIdentifier_pending _ _
    · exact .refl m
  · exact .refl m

theorem recordIdentifier_pending (m : SubscriptionManager) (entry : SubscriptionEntry) :
    SamePending m (m.recordIdentifier entry) := by
  unfold recordIdentifier
  split <;> exact ⟨rfl, rfl⟩

theorem confirm_pending (m : SubscriptionManager) (entry : SubscriptionEntry) (code : UInt8) :
    SamePending m (m.confirm entry code).2 := by
  unfold confirm
  split
  · have forgotten := m.forgetOldIdentifier_pending entry.topicFilter
    have recorded := (m.forgetOldIdentifier entry.topicFilter).recordIdentifier_pending
      { entry with grantedQos := ByteCode.fromU8 code }
    exact forgotten.trans ⟨recorded.subscribes, recorded.unsubscribes⟩
  · exact .refl m

theorem confirmAll_pending (m : SubscriptionManager) (entries : List (SubscriptionEntry × UInt8)) :
    SamePending m (m.confirmAll entries).2 := by
  induction entries generalizing m with
  | nil => exact .refl m
  | cons entry rest ih => exact (m.confirm_pending entry.1 entry.2).trans (ih _)

theorem removeActive_pending (m : SubscriptionManager) (filter : String) : SamePending m (m.removeActive filter).2 := by
  unfold removeActive
  split
  · exact .refl m
  · dsimp only
    split
    · have removed := removeSubscriptionIdentifier_pending { m with active := m.active.erase filter } filter
      exact ⟨(removed _).subscribes, (removed _).unsubscribes⟩
    · exact ⟨rfl, rfl⟩

theorem removeAll_pending (reasonCodes : List UInt8) (m : SubscriptionManager) (i : Nat) (filters : List String) :
    SamePending m (removeAll reasonCodes m i filters).2 := by
  induction filters generalizing m i with
  | nil => exact .refl m
  | cons filter rest ih =>
    have first : SamePending m (if removedOnServer reasonCodes i then m.removeActive filter else ([], m)).2 := by
      split
      · exact m.removeActive_pending filter
      · exact .refl m
    exact first.trans (ih _ _)

theorem subackReceived_pending (m : SubscriptionManager) (packetId : UInt16) (reasonCodes : List UInt8) :
    (m.subackReceived packetId reasonCodes).2.pendingSubscribes = m.pendingSubscribes.erase packetId ∧
      (m.subackReceived packetId reasonCodes).2.pendingUnsubscribes = m.pendingUnsubscribes := by
  unfold subackReceived
  cases present : m.pendingSubscribes.get? packetId with
  | none => exact ⟨(OrderedMap.erase_of_absent present).symm, rfl⟩
  | some pending =>
    dsimp only
    split
    · exact ⟨rfl, rfl⟩
    · have confirmed := confirmAll_pending { m with pendingSubscribes := m.pendingSubscribes.erase packetId }
        (pending.zip reasonCodes)
      exact ⟨confirmed.subscribes, confirmed.unsubscribes⟩

theorem unsubackReceived_pending (m : SubscriptionManager) (packetId : UInt16) (reasonCodes : List UInt8) :
    (m.unsubackReceived packetId reasonCodes).2.pendingUnsubscribes = m.pendingUnsubscribes.erase packetId ∧
      (m.unsubackReceived packetId reasonCodes).2.pendingSubscribes = m.pendingSubscribes := by
  unfold unsubackReceived
  cases present : m.pendingUnsubscribes.get? packetId with
  | none => exact ⟨(OrderedMap.erase_of_absent present).symm, rfl⟩
  | some pending =>
    dsimp only
    split
    · exact ⟨rfl, rfl⟩
    · have removed := removeAll_pending reasonCodes
        { m with pendingUnsubscribes := m.pendingUnsubscribes.erase packetId } 0 pending
      exact ⟨removed.unsubscribes, removed.subscribes⟩

end Pending

end SubscriptionManager

end MqttRs
