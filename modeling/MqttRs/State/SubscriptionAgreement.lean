import MqttRs.Library.Lists
import MqttRs.State.PacketIdOwnership
import MqttRs.State.Session.Frame
import MqttRs.State.SubscriptionIndex

namespace MqttRs

/-- A SUBSCRIBE or UNSUBSCRIBE packet, as far as the subscriptions go. -/
inductive SubscriptionRequest where
  | subscribe (packetId : UInt16) (subscriptions : List SubscriptionEntry)
  | unsubscribe (packetId : UInt16) (topicFilters : List String)
  deriving DecidableEq

namespace SubscriptionRequest

def packetId : SubscriptionRequest → UInt16
  | subscribe packetId _ | unsubscribe packetId _ => packetId

def filters : SubscriptionRequest → List String
  | subscribe _ subscriptions => subscriptions.map SubscriptionEntry.topicFilter
  | unsubscribe _ topicFilters => topicFilters

/-- A server answers with a reason code for each filter; an UNSUBACK of version 3.1.1 has none. -/
def answeredBy : SubscriptionRequest → List UInt8 → Bool
  | subscribe _ subscriptions, codes => codes.length = subscriptions.length
  | unsubscribe _ topicFilters, codes => codes.isEmpty || codes.length = topicFilters.length

def granted (subscription : SubscriptionEntry) (code : UInt8) : SubscriptionEntry :=
  { subscription with grantedQos := ByteCode.fromU8 code }

/-- The reason codes of an UNSUBACK after which the server has no subscription for the filter. -/
def gone (codes : List UInt8) (i : Nat) : Bool :=
  codes.isEmpty || codes[i]? = some 0x00 || codes[i]? = some 0x11

def serve (table : OrderedMap String SubscriptionEntry) :
    SubscriptionRequest → List UInt8 → OrderedMap String SubscriptionEntry
  | subscribe _ subscriptions, codes =>
    (subscriptions.zip codes).foldl (fun table each =>
      if each.2 ≤ 0x02 then table.insert each.1.topicFilter (granted each.1 each.2) else table) table
  | unsubscribe _ topicFilters, codes =>
    topicFilters.zipIdx.foldl (fun table each => if gone codes each.2 then table.erase each.1 else table) table

def effect (filter : String) :
    SubscriptionRequest → List UInt8 → Option SubscriptionEntry → Option SubscriptionEntry
  | subscribe _ subscriptions, codes =>
    overwrite (fun each => filter = each.1.topicFilter && each.2 ≤ 0x02) (fun each => some (granted each.1 each.2))
      (subscriptions.zip codes)
  | unsubscribe _ topicFilters, codes =>
    overwrite (fun each => filter = each.1 && gone codes each.2) (fun _ => none) topicFilters.zipIdx

/-- The answer says which subscription the server has for the filter, whatever it had before. -/
def settles (filter : String) : SubscriptionRequest → List UInt8 → Bool
  | subscribe _ subscriptions, codes =>
    (subscriptions.zip codes).any fun each => filter = each.1.topicFilter && each.2 ≤ 0x02
  | unsubscribe _ topicFilters, codes => topicFilters.zipIdx.any fun each => filter = each.1 && gone codes each.2

variable {request : SubscriptionRequest} {filter : String} {codes : List UInt8}

end SubscriptionRequest

namespace SubscriptionManager

open SubscriptionRequest (granted gone effect)

variable {m : SubscriptionManager} {filter : String} {codes : List UInt8}

def send (m : SubscriptionManager) : SubscriptionRequest → SubscriptionManager
  | .subscribe packetId subscriptions => m.subscribeSent packetId subscriptions
  | .unsubscribe packetId topicFilters => m.unsubscribeSent packetId topicFilters

def receive (m : SubscriptionManager) (codes : List UInt8) : SubscriptionRequest → SubscriptionManager
  | .subscribe packetId _ => (m.subackReceived packetId codes).2
  | .unsubscribe packetId _ => (m.unsubackReceived packetId codes).2

def Awaits (m : SubscriptionManager) : SubscriptionRequest → Prop
  | .subscribe packetId subscriptions => m.pendingSubscribes.get? packetId = some subscriptions
  | .unsubscribe packetId topicFilters => m.pendingUnsubscribes.get? packetId = some topicFilters

variable {request other : SubscriptionRequest}

theorem send_active (m : SubscriptionManager) (request : SubscriptionRequest) : (m.send request).active = m.active := by
  cases request <;> simp only [send, subscribeSent, unsubscribeSent] <;> split <;> rfl

theorem awaits_send (nonzero : request.packetId ≠ 0) (nonempty : request.filters ≠ []) :
    (m.send request).Awaits request := by
  cases request with
  | subscribe packetId subscriptions =>
    have known : subscriptions ≠ [] := fun empty => nonempty (by rw [SubscriptionRequest.filters, empty]; rfl)
    have nonzero : packetId ≠ 0 := nonzero
    simp [send, subscribeSent, Awaits, nonzero, known]
  | unsubscribe packetId topicFilters =>
    have known : topicFilters ≠ [] := nonempty
    have nonzero : packetId ≠ 0 := nonzero
    simp [send, unsubscribeSent, Awaits, nonzero, known]

theorem Awaits.of_same (awaits : m.Awaits other) {n : SubscriptionManager}
    (subscribes : n.pendingSubscribes.get? other.packetId = m.pendingSubscribes.get? other.packetId)
    (unsubscribes : n.pendingUnsubscribes.get? other.packetId = m.pendingUnsubscribes.get? other.packetId) :
    n.Awaits other := by
  cases other with
  | subscribe packetId subscriptions => exact subscribes.trans awaits
  | unsubscribe packetId topicFilters => exact unsubscribes.trans awaits

theorem Awaits.send (awaits : m.Awaits other) (different : other.packetId ≠ request.packetId) :
    (m.send request).Awaits other := by
  apply awaits.of_same <;> cases request <;> simp only [SubscriptionManager.send, subscribeSent, unsubscribeSent] <;>
    split <;> first | rfl | exact (OrderedMap.get?_insert ..).trans (if_neg different)

theorem Awaits.receive (awaits : m.Awaits other) (different : other.packetId ≠ request.packetId) :
    (m.receive codes request).Awaits other := by
  cases request with
  | subscribe packetId subscriptions =>
    have elsewhere : other.packetId ≠ packetId := different
    obtain ⟨ends, others⟩ := m.subackReceived_pending packetId codes
    apply awaits.of_same
    · rw [SubscriptionManager.receive, ends, OrderedMap.get?_erase, if_neg elsewhere]
    · rw [SubscriptionManager.receive, others]
  | unsubscribe packetId topicFilters =>
    have elsewhere : other.packetId ≠ packetId := different
    obtain ⟨ends, others⟩ := m.unsubackReceived_pending packetId codes
    apply awaits.of_same
    · rw [SubscriptionManager.receive, others]
    · rw [SubscriptionManager.receive, ends, OrderedMap.get?_erase, if_neg elsewhere]

end SubscriptionManager

namespace Session

end Session

/-- A client and its server with the requests and the replies in flight between them, in order. -/
structure SubscriptionLink where
  client : PacketIdUser
  requests : List SubscriptionRequest
  replies : List (SubscriptionRequest × List UInt8)
  server : OrderedMap String SubscriptionEntry
  -- requests that were lost with a connection, or their answers
  lost : List SubscriptionRequest
  -- the filters of such requests, until an answer tells again what the server has
  doubt : List String

inductive SubscriptionLinkOp where
  | call (op : SessionOp)
  | serve (codes : List UInt8)
  | deliver
  | sever
  | resend (request : SubscriptionRequest)

namespace SubscriptionLink

open SubscriptionRequest (effect)

def start (fresh : Session) : SubscriptionLink where
  client := .start fresh
  requests := []
  replies := []
  server := .empty
  lost := []
  doubt := []

def inFlight (l : SubscriptionLink) : List SubscriptionRequest := l.replies.map Prod.fst ++ l.requests

def unanswered (l : SubscriptionLink) : List SubscriptionRequest := l.lost ++ l.inFlight

/-- Answers come from the server, what is in flight is not given up, and a session does not begin or end over it. -/
def mayCall (l : SubscriptionLink) : SessionOp → Bool
  | .handleSuback _ _ | .handleUnsuback _ _ => false
  | .abortSubscribe id | .abortUnsubscribe id => l.inFlight.all fun request => request.packetId ≠ id
  | .applyConnack _ | .connected _ | .reset => l.inFlight.isEmpty
  | _ => true

def sent : SessionOp → List SubscriptionRequest
  | .subscribeSent packetId subscriptions => [.subscribe packetId subscriptions]
  | .unsubscribeSent packetId topicFilters => [.unsubscribe packetId topicFilters]
  | _ => []

def receipt (codes : List UInt8) : SubscriptionRequest → SessionOp
  | .subscribe packetId _ => .handleSuback packetId codes
  | .unsubscribe packetId _ => .handleUnsuback packetId codes

/-- The server has no session, or the CONNECT had it thrown away. -/
def discards (s : Session) : SessionOp → Bool
  | .applyConnack params => (s.applyConnack params).1 = .ok () && (s.cleanStart || !params.sessionPresent)
  | .connected sessionPresent => s.cleanStart || !sessionPresent
  | _ => false

def abandons : SessionOp → SubscriptionRequest → Bool
  | .abortSubscribe id, .subscribe packetId _ | .abortUnsubscribe id, .unsubscribe packetId _ => packetId = id
  | .reset, _ => true
  | _, _ => false

def forgotten (l : SubscriptionLink) : SessionOp → List String
  | .reset => l.server.keys
  | _ => []

def afterCall (l : SubscriptionLink) (op : SessionOp) (client : PacketIdUser) : SubscriptionLink where
  client := client
  requests := l.requests ++ sent op
  replies := l.replies
  server := if discards l.client.session op then .empty else l.server
  lost := if discards l.client.session op then [] else l.lost.filter fun request => !abandons op request
  doubt := if discards l.client.session op then [] else l.forgotten op ++ l.doubt

def next (l : SubscriptionLink) : SubscriptionLinkOp → Option SubscriptionLink
  | .call op => if l.mayCall op then (l.client.next op).map (l.afterCall op) else none
  | .serve codes =>
    match l.requests with
    | [] => none
    | request :: rest =>
      if request.answeredBy codes then
        some { l with
          requests := rest
          replies := l.replies ++ [(request, codes)]
          server := request.serve l.server codes
          doubt := l.doubt.filter fun filter => !request.settles filter codes }
      else none
  | .deliver =>
    match l.replies with
    | [] => none
    | (request, codes) :: rest =>
      (l.client.next (receipt codes request)).map fun client => { l with client, replies := rest }
  | .sever =>
    some { l with
      requests := []
      replies := []
      lost := l.unanswered
      doubt := l.inFlight.flatMap SubscriptionRequest.filters ++ l.doubt }
  | .resend request =>
    if request ∈ l.lost then
      some { l with requests := l.requests ++ [request], lost := l.lost.erase request }
    else none

/-- What the client has for a filter once the replies in flight are delivered. -/
def expected (l : SubscriptionLink) (filter : String) : Option SubscriptionEntry :=
  l.replies.foldl (fun current reply => reply.1.effect filter reply.2 current)
    (l.client.session.subscriptionManager.active.get? filter)

structure Agrees (l : SubscriptionLink) : Prop where
  balanced : l.client.Balanced
  awaited : ∀ request ∈ l.unanswered, l.client.session.subscriptionManager.Awaits request
  distinct : (l.unanswered.map SubscriptionRequest.packetId).Nodup
  fitting : ∀ reply ∈ l.replies, reply.1.answeredBy reply.2 = true
  tables : ∀ filter ∉ l.doubt, l.expected filter = l.server.get? filter

variable {l m : SubscriptionLink} {filter : String}

theorem exchanges_of_awaits {s : Session} {request : SubscriptionRequest}
    (awaits : s.subscriptionManager.Awaits request) : 0 < s.exchanges request.packetId := by
  cases request with
  | subscribe packetId subscriptions =>
    have present : s.subscriptionManager.pendingSubscribes.contains packetId = true :=
      OrderedMap.contains_iff.mpr ⟨_, awaits⟩
    simp [Session.exchanges, SubscriptionRequest.packetId, present]
  | unsubscribe packetId topicFilters =>
    have present : s.subscriptionManager.pendingUnsubscribes.contains packetId = true :=
      OrderedMap.contains_iff.mpr ⟨_, awaits⟩
    simp [Session.exchanges, SubscriptionRequest.packetId, present]

section Calls

variable {op : SessionOp} {client : PacketIdUser}

theorem abandons_inFlight (may : l.mayCall op = true) {request : SubscriptionRequest}
    (member : request ∈ l.inFlight) : abandons op request = false := by
  cases op
  case abortSubscribe id | abortUnsubscribe id =>
    have different : request.packetId ≠ id := of_decide_eq_true (List.all_eq_true.mp may request member)
    cases request <;> first | rfl | exact decide_eq_false different
  case reset => exact absurd (List.isEmpty_iff.mp may) (List.ne_nil_of_mem member)
  all_goals rfl

theorem kept_agrees (agrees : l.Agrees) (may : l.mayCall op = true) (balanced : client.Balanced)
    (silent : sent op = [] ∧ discards l.client.session op = false ∧ l.forgotten op = [])
    (active : client.session.subscriptionManager.active = l.client.session.subscriptionManager.active)
    (awaited : ∀ request ∈ l.unanswered, abandons op request = false →
      client.session.subscriptionManager.Awaits request) : (l.afterCall op client).Agrees := by
  obtain ⟨nothing, present, remembered⟩ := silent
  simp only [afterCall, nothing, present, remembered, List.append_nil, List.nil_append, Bool.false_eq_true,
    ↓reduceIte]
  have fewer : ((l.lost.filter fun request => !abandons op request) ++ l.inFlight).Sublist l.unanswered :=
    List.filter_sublist.append_right _
  refine ⟨balanced, ?_, agrees.distinct.sublist (fewer.map _), agrees.fitting, fun filter certain => ?_⟩
  · intro request member
    refine awaited request (fewer.subset member) ?_
    rcases List.mem_append.mp member with lost | flying
    · simpa using (List.mem_filter.mp lost).2
    · exact abandons_inFlight may flying
  · rw [← agrees.tables filter certain, expected, expected, active]

theorem unchanged_agrees (agrees : l.Agrees) (may : l.mayCall op = true) (balanced : client.Balanced)
    (silent : sent op = [] ∧ discards l.client.session op = false ∧ l.forgotten op = [])
    (same : client.session.subscriptionManager = l.client.session.subscriptionManager) :
    (l.afterCall op client).Agrees :=
  kept_agrees agrees may balanced silent (congrArg SubscriptionManager.active same) fun request member _ =>
    same ▸ agrees.awaited request member

theorem forgets_agrees (quiet : l.inFlight.isEmpty = true) (nothing : sent op = []) (balanced : client.Balanced)
    (manager : client.session.subscriptionManager = .new) (given : (l.afterCall op client).lost = [])
    (none : ∀ filter ∉ (l.afterCall op client).doubt, (l.afterCall op client).server.get? filter = none) :
    (l.afterCall op client).Agrees := by
  obtain ⟨noReplies, noRequests⟩ := List.append_eq_nil_iff.mp (List.isEmpty_iff.mp quiet)
  have noReplies : (l.afterCall op client).replies = [] := List.map_eq_nil_iff.mp noReplies
  have noFlight : (l.afterCall op client).unanswered = [] := by
    rw [unanswered, given, inFlight, noReplies, afterCall, noRequests, nothing]
    rfl
  refine ⟨balanced, ?_, ?_, ?_, ?_⟩
  · rw [noFlight]
    intro request member
    cases member
  · rw [noFlight]
    exact .nil
  · rw [noReplies]
    intro reply member
    cases member
  · intro filter certain
    rw [expected, noReplies, none filter certain]
    exact congrArg (fun manager => manager.active.get? filter) manager

theorem send_agrees (agrees : l.Agrees) (balanced : client.Balanced) {request : SubscriptionRequest}
    (asks : sent op = [request] ∧ discards l.client.session op = false ∧ l.forgotten op = [])
    (keeps : ∀ other, abandons op other = false)
    (held : request.packetId ∈ l.client.held) (nonempty : request.filters ≠ [])
    (manager : client.session.subscriptionManager = l.client.session.subscriptionManager.send request) :
    (l.afterCall op client).Agrees := by
  obtain ⟨asked, present, remembered⟩ := asks
  have flight : (l.afterCall op client).unanswered = l.unanswered ++ [request] := by
    simp [unanswered, inFlight, afterCall, asked, present, keeps]
  have different : ∀ other ∈ l.unanswered, other.packetId ≠ request.packetId := by
    intro other member same
    have busy := exchanges_of_awaits (agrees.awaited other member)
    rw [same, (PacketIdUser.exchanges_of_held agrees.balanced held).1] at busy
    cases busy
  refine ⟨balanced, ?_, ?_, agrees.fitting, ?_⟩
  · intro other member
    rw [flight] at member
    show client.session.subscriptionManager.Awaits other
    rw [manager]
    rcases List.mem_append.mp member with earlier | now
    · exact (agrees.awaited other earlier).send (different other earlier)
    · rw [List.mem_singleton.mp now]
      exact SubscriptionManager.awaits_send (PacketIdUser.nonzero_of_held agrees.balanced held) nonempty
  · rw [flight, List.map_append]
    refine List.nodup_append.mpr ⟨agrees.distinct, List.nodup_singleton _, ?_⟩
    intro id member other now same
    obtain ⟨earlier, inside, rfl⟩ := List.mem_map.mp member
    exact different earlier inside (same.trans (List.mem_singleton.mp now))
  · simp only [afterCall, present, remembered, List.nil_append, Bool.false_eq_true, ↓reduceIte]
    intro filter certain
    rw [← agrees.tables filter certain, expected, expected, manager, SubscriptionManager.send_active]

theorem applyConnack_agrees (agrees : l.Agrees) {params : ConnackParams}
    (quiet : l.mayCall (.applyConnack params) = true) (balanced : client.Balanced)
    (session : client.session = l.client.session.perform (.applyConnack params)) :
    (l.afterCall (.applyConnack params) client).Agrees := by
  rcases l.client.session.applyConnack_cases params with ⟨-, -, accepted⟩ | ⟨refused, same⟩
  · rw [Session.perform, accepted, Session.acceptConnack_eq] at session
    cases new : l.client.session.cleanStart || !params.sessionPresent with
    | true =>
      have discarded : discards l.client.session (.applyConnack params) = true := by simp [discards, accepted, new]
      refine forgets_agrees quiet rfl balanced (by rw [session, new]; rfl) (by rw [afterCall, discarded]; rfl) ?_
      intro filter _
      rw [afterCall, discarded]
      rfl
    | false =>
      have resumed : discards l.client.session (.applyConnack params) = false := by simp [discards, new]
      exact unchanged_agrees agrees quiet balanced ⟨rfl, resumed, rfl⟩ (by rw [session, new]; rfl)
  · have unchanged : discards l.client.session (.applyConnack params) = false := by simp [discards, refused]
    exact unchanged_agrees agrees quiet balanced ⟨rfl, unchanged, rfl⟩ (by rw [session, Session.perform, same])

theorem connected_agrees (agrees : l.Agrees) {sessionPresent : Bool}
    (quiet : l.mayCall (.connected sessionPresent) = true) (balanced : client.Balanced)
    (session : client.session = l.client.session.connected sessionPresent) :
    (l.afterCall (.connected sessionPresent) client).Agrees := by
  simp only [Session.connected] at session
  cases new : l.client.session.cleanStart || !sessionPresent with
  | true =>
    have discarded : discards l.client.session (.connected sessionPresent) = true := new
    refine forgets_agrees quiet rfl balanced (by rw [session, new]; rfl) (by rw [afterCall, discarded]; rfl) ?_
    intro filter _
    rw [afterCall, discarded]
    rfl
  | false => exact unchanged_agrees agrees quiet balanced ⟨rfl, new, rfl⟩ (by rw [session, new]; rfl)

theorem call_agrees (agrees : l.Agrees) (may : l.mayCall op = true) (step : l.client.next op = some client) :
    (l.afterCall op client).Agrees := by
  have balanced := PacketIdUser.next_balanced agrees.balanced step
  obtain ⟨permitted, session⟩ := PacketIdUser.next_eq_some step
  cases keeps : Session.keepsSubscriptions op with
  | true =>
    have silent : sent op = [] ∧ discards l.client.session op = false ∧ l.forgotten op = [] := by
      cases op <;> first | exact ⟨rfl, rfl, rfl⟩ | cases keeps
    exact unchanged_agrees agrees may balanced silent (by rw [session, Session.perform_subscriptions _ keeps])
  | false =>
    cases op
    case subscribeSent packetId subscriptions =>
      simp only [PacketIdUser.allowed, Bool.and_eq_true, decide_eq_true_eq, Bool.not_eq_true'] at permitted
      have nonempty : (SubscriptionRequest.subscribe packetId subscriptions).filters ≠ [] := by
        simpa [SubscriptionRequest.filters] using permitted.2
      exact send_agrees agrees balanced ⟨rfl, rfl, rfl⟩ (fun _ => rfl) permitted.1 nonempty (by rw [session]; rfl)
    case unsubscribeSent packetId topicFilters =>
      simp only [PacketIdUser.allowed, Bool.and_eq_true, decide_eq_true_eq, Bool.not_eq_true'] at permitted
      have nonempty : (SubscriptionRequest.unsubscribe packetId topicFilters).filters ≠ [] := by
        simpa [SubscriptionRequest.filters] using permitted.2
      exact send_agrees agrees balanced ⟨rfl, rfl, rfl⟩ (fun _ => rfl) permitted.1 nonempty (by rw [session]; rfl)
    case abortSubscribe id =>
      refine kept_agrees agrees may balanced ⟨rfl, rfl, rfl⟩ (by rw [session]; rfl) fun request member kept => ?_
      rw [session]
      cases request with
      | subscribe packetId subscriptions =>
        exact (OrderedMap.get?_erase ..).trans ((if_neg (of_decide_eq_false kept)).trans (agrees.awaited _ member))
      | unsubscribe packetId topicFilters => exact agrees.awaited _ member
    case abortUnsubscribe id =>
      refine kept_agrees agrees may balanced ⟨rfl, rfl, rfl⟩ (by rw [session]; rfl) fun request member kept => ?_
      rw [session]
      cases request with
      | subscribe packetId subscriptions => exact agrees.awaited _ member
      | unsubscribe packetId topicFilters =>
        exact (OrderedMap.get?_erase ..).trans ((if_neg (of_decide_eq_false kept)).trans (agrees.awaited _ member))
    case applyConnack params => exact applyConnack_agrees agrees may balanced session
    case connected sessionPresent => exact connected_agrees agrees may balanced session
    case reset =>
      have given : (l.afterCall .reset client).lost = [] := List.filter_eq_nil_iff.mpr fun _ _ => by simp [abandons]
      refine forgets_agrees may rfl balanced (by rw [session]; rfl) given fun filter certain => ?_
      rcases found : l.server.get? filter with _ | entry
      · exact found
      · exact absurd (List.mem_append_left _ (OrderedMap.mem_keys.mpr ⟨entry, found⟩)) certain
    case handleSuback | handleUnsuback => cases may
    all_goals cases keeps

end Calls

end SubscriptionLink

end MqttRs
