import MqttRs.State.Negotiation
import MqttRs.State.Session.Frame

namespace MqttRs

namespace ServerCapabilities

variable {c : ServerCapabilities} {qos : QoS} {retain : Bool} {size : Nat} {entry : SubscriptionEntry}

theorem validatePublish_eq_ok : c.validatePublish qos retain size = .ok () ↔
    ByteCode.asU8 qos ≤ ByteCode.asU8 c.maximumQos ∧ (retain = true → c.retainAvailable = true) ∧
      ∀ limit ∈ c.maximumPacketSize, size ≤ limit.toNat := by
  rw [validatePublish, Session.refuse_eq_ok, Session.refuse_eq_ok, UInt8.not_lt]
  refine and_congr_right fun _ => and_congr ?_ ?_
  · simp
  · cases c.maximumPacketSize with
    | none => simp
    | some limit =>
      show (if limit.toNat < size then _ else _) = _ ↔ _
      rw [Session.refuse_eq_ok]
      simp

theorem validateEntry_eq_ok : c.validateEntry entry = .ok () ↔
    (containsWildcard entry.topicFilter = true → c.wildcardSubscriptionAvailable = true) ∧
      (entry.subscriptionIdentifier.isSome = true → c.subscriptionIdentifiersAvailable = true) ∧
      (startsWithShare entry.topicFilter = true → c.sharedSubscriptionAvailable = true) := by
  have available (given asked : Bool) : ¬(!given && asked) = true ↔ (asked = true → given = true) := by
    cases given <;> simp
  rw [validateEntry, Session.refuse_eq_ok, Session.refuse_eq_ok, Session.refuse_eq_ok]
  simp only [available, and_true]

theorem validateSubscribe_eq_ok {entries : List SubscriptionEntry} :
    c.validateSubscribe entries = .ok () ↔ ∀ entry ∈ entries, c.validateEntry entry = .ok () := by
  induction entries with
  | nil => simp [validateSubscribe]
  | cons entry rest ih =>
    rw [validateSubscribe, List.forall_mem_cons, ← ih]
    cases checked : c.validateEntry entry with
    | ok done => simp
    | error reason => simp

end ServerCapabilities

/-- A session with the CONNACK that was accepted on the connection at hand. -/
structure InformedClient where
  session : Session
  connack : Option ConnackParams
  deriving DecidableEq

namespace InformedClient

def start (version : MqttVersion) (clientId : String) (cleanStart : Bool) : InformedClient where
  session := .initial version clientId cleanStart
  connack := none

def connackAfter (s : Session) (connack : Option ConnackParams) : SessionOp → Option ConnackParams
  | .connectSent | .reset => none
  | .connectSentWithAuth _ => if s.isV5 then none else connack
  | .applyConnack params => if (s.applyConnack params).1 = .ok () then some params else connack
  | _ => connack

def next (c : InformedClient) (op : SessionOp) : Option InformedClient :=
  some { session := c.session.perform op, connack := connackAfter c.session c.connack op }

def PublishTaken (connack : Option ConnackParams) (qos : QoS) (retain : Bool) (size : Nat) : Prop :=
  ∀ params ∈ connack, (∀ limit ∈ params.maximumQos, ByteCode.asU8 qos ≤ ByteCode.asU8 limit) ∧
    ¬(retain = true ∧ params.retainAvailable = some false) ∧ ∀ limit ∈ params.maximumPacketSize, size ≤ limit.toNat

/-- The server takes the subscription: it uses nothing that the CONNACK declares unavailable. -/
def EntryTaken (connack : Option ConnackParams) (entry : SubscriptionEntry) : Prop :=
  ∀ params ∈ connack,
    ¬(('+' ∈ entry.topicFilter.toList ∨ '#' ∈ entry.topicFilter.toList) ∧ params.wildcardSubscriptionAvailable = some false) ∧
      ¬(entry.subscriptionIdentifier ≠ none ∧ params.subscriptionIdentifiersAvailable = some false) ∧
      ¬((∃ rest, entry.topicFilter = "$share/" ++ rest) ∧ params.sharedSubscriptionAvailable = some false)

def announced : Option ConnackParams → ServerCapabilities
  | none => .new
  | some params =>
    { maximumPacketSize := params.maximumPacketSize
      maximumQos := params.maximumQos.getD .exactlyOnce
      retainAvailable := params.retainAvailable.getD true
      wildcardSubscriptionAvailable := params.wildcardSubscriptionAvailable.getD true
      subscriptionIdentifiersAvailable := params.subscriptionIdentifiersAvailable.getD true
      sharedSubscriptionAvailable := params.sharedSubscriptionAvailable.getD true }

/-- The session knows what the CONNACK announced, and nothing before there is one. -/
structure Informed (c : InformedClient) : Prop where
  capabilities : c.session.serverCapabilities = announced c.connack
  waiting : c.session.connectionState = .connecting → c.connack = none

variable {c d : InformedClient} {op : SessionOp}

theorem start_informed (version : MqttVersion) (clientId : String) (cleanStart : Bool) :
    (start version clientId cleanStart).Informed where
  capabilities := rfl
  waiting wrong := by cases wrong

theorem connackAfter_keeps {s : Session} {connack : Option ConnackParams} (keeps : Session.keepsConnection op = true) :
    connackAfter s connack op = connack := by
  cases op <;> first | rfl | cases keeps

theorem Informed.applyConnack (informed : c.Informed) (params : ConnackParams) :
    Informed ⟨(c.session.applyConnack params).2, connackAfter c.session c.connack (.applyConnack params)⟩ := by
  rcases c.session.applyConnack_cases params with ⟨checked, -, accepted⟩ | ⟨refused, same⟩
  · have fresh := informed.capabilities
    rw [informed.waiting (Session.checkConnack_ok_iff.mp checked).connecting] at fresh
    rw [connackAfter, accepted, if_pos rfl]
    constructor
    · rw [Session.acceptConnack_eq]
      simp only [Session.applyParams, fresh, announced, ServerCapabilities.new]
      cases params.maximumPacketSize <;> rfl
    · intro wrong
      rw [Session.acceptConnack_connectionState] at wrong
      cases wrong
  · rw [connackAfter, if_neg refused, same]
    exact informed

theorem next_informed (informed : c.Informed) (step : Steps next c op d) : d.Informed := by
  cases step
  cases keeps : Session.keepsConnection op with
  | true =>
    have untouched := c.session.perform_untouched keeps
    rw [connackAfter_keeps keeps]
    constructor
    · exact untouched.serverCapabilities.trans informed.capabilities
    · intro connecting
      exact informed.waiting (untouched.connectionState.symm.trans connecting)
  | false =>
    cases op
    case applyConnack params => exact informed.applyConnack params
    case connectSent => exact ⟨rfl, fun _ => rfl⟩
    case connectSentWithAuth method =>
      cases version : c.session.isV5 with
      | true =>
        simp only [connackAfter, version, ↓reduceIte, Session.perform, Session.connectSentWithAuth, Bool.not_true]
        exact ⟨rfl, fun _ => rfl⟩
      | false =>
        simp only [connackAfter, version, Session.perform, Session.connectSentWithAuth, Bool.not_false, ↓reduceIte]
        exact informed
    case connected sessionPresent =>
      simp only [Session.perform, Session.connected]
      split <;> exact ⟨informed.capabilities, fun wrong => by cases wrong⟩
    case disconnectSent | disconnectReceived | disconnected =>
      exact ⟨informed.capabilities, fun wrong => by cases wrong⟩
    case authReceived | reauthenticateSent => exact ⟨informed.capabilities, informed.waiting⟩
    case reset => exact ⟨rfl, fun _ => rfl⟩
    all_goals cases keeps

theorem available_iff {asked : Prop} {available : Option Bool} :
    (asked → available.getD true = true) ↔ ¬(asked ∧ available = some false) := by
  rcases available with _ | (_ | _) <;> simp

theorem within_maximumQos {qos : QoS} {maximum : Option QoS} :
    ByteCode.asU8 qos ≤ ByteCode.asU8 (maximum.getD QoS.exactlyOnce) ↔
      ∀ limit ∈ maximum, ByteCode.asU8 qos ≤ ByteCode.asU8 limit := by
  cases maximum with
  | none => cases qos <;> simp <;> decide
  | some limit => simp

theorem validateOutgoingPublish_iff (informed : c.Informed) {qos : QoS} {retain : Bool} {size : Nat} :
    c.session.validateOutgoingPublish qos retain size = .ok () ↔ PublishTaken c.connack qos retain size := by
  rw [Session.validateOutgoingPublish, ServerCapabilities.validatePublish_eq_ok, informed.capabilities, PublishTaken]
  cases c.connack with
  | none =>
    simp only [announced, ServerCapabilities.new, Option.not_mem_none, false_implies, implies_true, and_true, iff_true]
    cases qos <;> decide
  | some params =>
    simp only [announced, within_maximumQos, available_iff, Option.mem_some, forall_eq']

theorem validateEntry_iff (informed : c.Informed) {entry : SubscriptionEntry} :
    c.session.serverCapabilities.validateEntry entry = .ok () ↔ EntryTaken c.connack entry := by
  rw [ServerCapabilities.validateEntry_eq_ok, informed.capabilities, EntryTaken]
  cases c.connack with
  | none =>
    simp only [announced, ServerCapabilities.new, Option.not_mem_none, false_implies, implies_true, and_true]
  | some params =>
    have wildcard : containsWildcard entry.topicFilter = true ↔
        '+' ∈ entry.topicFilter.toList ∨ '#' ∈ entry.topicFilter.toList := by
      simp [containsWildcard]
    simp only [announced, available_iff, Option.mem_some, forall_eq', wildcard, startsWithShare_iff,
      Option.isSome_iff_ne_none]

/-- Whatever was connected and negotiated before, the checks of an outgoing packet ask for what the CONNACK of the
    current connection announced, and for nothing before it arrives. -/
theorem outgoing_checks_current {version : MqttVersion} {clientId : String} {cleanStart : Bool} {ops : List SessionOp}
    (run : Run (Steps next) (start version clientId cleanStart) ops c) :
    (∀ qos retain size, c.session.validateOutgoingPublish qos retain size = .ok () ↔
        PublishTaken c.connack qos retain size) ∧
      ∀ entries, c.session.validateOutgoingSubscribe entries = .ok () ↔ ∀ entry ∈ entries, EntryTaken c.connack entry := by
  have informed := run.invariant next_informed (start_informed version clientId cleanStart)
  constructor
  · intro qos retain size
    exact validateOutgoingPublish_iff informed
  · intro entries
    rw [Session.validateOutgoingSubscribe, ServerCapabilities.validateSubscribe_eq_ok]
    simp only [validateEntry_iff informed]

def twoServers : List SessionOp :=
  [.connectSent, .applyConnack { ConnackParams.successV5 false none with retainAvailable := some false }, .disconnected,
    .connectSent, .applyConnack (.successV5 false none)]

theorem twoServers_current :
    ∃ c, Run (Steps next) (start .v5 "c" true) twoServers c ∧ c.connack = some (.successV5 false none) ∧
      (∀ qos retain size, c.session.validateOutgoingPublish qos retain size = .ok () ↔
        PublishTaken c.connack qos retain size) ∧
      ∀ entries, c.session.validateOutgoingSubscribe entries = .ok () ↔ ∀ entry ∈ entries, EntryTaken c.connack entry := by
  have completes : (runFrom next (start .v5 "c" true) twoServers).any (fun c =>
      decide (c.connack = some (.successV5 false none))) = true := by decide
  obtain ⟨c, ends, connack⟩ := (Option.any_eq_true _ _).mp completes
  have run := run_of_runFrom ends
  exact ⟨c, run, of_decide_eq_true connack, outgoing_checks_current run⟩

end InformedClient

end MqttRs
