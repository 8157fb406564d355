import Mathlib.Data.List.Nodup
import MqttRs.Handshake
import MqttRs.Library.Lists
import MqttRs.State.Negotiation
import MqttRs.V5.Canonical

namespace MqttRs

/-- What the properties of a CONNACK settle. The last two only answer the CONNECT, the others last. -/
inductive Setting where
  | sessionExpiryInterval
  | receiveMaximum
  | topicAliasMaximum
  | serverKeepAlive
  | maximumPacketSize
  | maximumQos
  | retainAvailable
  | wildcardSubscriptionAvailable
  | subscriptionIdentifierAvailable
  | sharedSubscriptionAvailable
  | assignedClientIdentifier
  | authenticationMethod
  deriving DecidableEq

namespace Setting

def identifier : Setting → UInt8
  | sessionExpiryInterval => 0x11
  | receiveMaximum => 0x21
  | topicAliasMaximum => 0x22
  | serverKeepAlive => 0x13
  | maximumPacketSize => 0x27
  | maximumQos => 0x24
  | retainAvailable => 0x25
  | wildcardSubscriptionAvailable => 0x28
  | subscriptionIdentifierAvailable => 0x29
  | sharedSubscriptionAvailable => 0x2A
  | assignedClientIdentifier => 0x12
  | authenticationMethod => 0x15

def lasts : Setting → Bool
  | assignedClientIdentifier | authenticationMethod => false
  | _ => true

end Setting

def V5.Property.settles : V5.Property → Option Setting
  | .sessionExpiryInterval _ => some .sessionExpiryInterval
  | .receiveMaximum _ => some .receiveMaximum
  | .topicAliasMaximum _ => some .topicAliasMaximum
  | .serverKeepAlive _ => some .serverKeepAlive
  | .maximumPacketSize _ => some .maximumPacketSize
  | .maximumQos _ => some .maximumQos
  | .retainAvailable _ => some .retainAvailable
  | .wildcardSubscriptionAvailable _ => some .wildcardSubscriptionAvailable
  | .subscriptionIdentifierAvailable _ => some .subscriptionIdentifierAvailable
  | .sharedSubscriptionAvailable _ => some .sharedSubscriptionAvailable
  | .assignedClientIdentifier _ => some .assignedClientIdentifier
  | .authenticationMethod _ => some .authenticationMethod
  | _ => none

def ConnackParams.setting (params : ConnackParams) : Setting → Option V5.Property
  | .sessionExpiryInterval => params.sessionExpiryInterval.map .sessionExpiryInterval
  | .receiveMaximum => params.receiveMaximum.map .receiveMaximum
  | .topicAliasMaximum => params.topicAliasMaximum.map .topicAliasMaximum
  | .serverKeepAlive => params.serverKeepAlive.map .serverKeepAlive
  | .maximumPacketSize => params.maximumPacketSize.map .maximumPacketSize
  | .maximumQos => params.maximumQos.map fun qos => .maximumQos (ByteCode.asU8 qos)
  | .retainAvailable => params.retainAvailable.map fun available => .retainAvailable available.toUInt8
  | .wildcardSubscriptionAvailable =>
    params.wildcardSubscriptionAvailable.map fun available => .wildcardSubscriptionAvailable available.toUInt8
  | .subscriptionIdentifierAvailable =>
    params.subscriptionIdentifiersAvailable.map fun available => .subscriptionIdentifierAvailable available.toUInt8
  | .sharedSubscriptionAvailable =>
    params.sharedSubscriptionAvailable.map fun available => .sharedSubscriptionAvailable available.toUInt8
  | .assignedClientIdentifier => params.assignedClientIdentifier.map .assignedClientIdentifier
  | .authenticationMethod => params.authenticationMethod.map .authenticationMethod

/-- The property that a server would announce for what a session goes by. -/
def Session.setting (s : Session) : Setting → Option V5.Property
  | .sessionExpiryInterval => some (.sessionExpiryInterval s.sessionExpiryInterval)
  | .receiveMaximum => some (.receiveMaximum s.flowControl.receiveMaximum)
  | .topicAliasMaximum => some (.topicAliasMaximum s.topicAliasManager.peerMaximum)
  | .serverKeepAlive => some (.serverKeepAlive s.keepAlive.keepAliveSecs)
  | .maximumPacketSize => s.serverCapabilities.maximumPacketSize.map .maximumPacketSize
  | .maximumQos => some (.maximumQos (ByteCode.asU8 s.serverCapabilities.maximumQos))
  | .retainAvailable => some (.retainAvailable s.serverCapabilities.retainAvailable.toUInt8)
  | .wildcardSubscriptionAvailable =>
    some (.wildcardSubscriptionAvailable s.serverCapabilities.wildcardSubscriptionAvailable.toUInt8)
  | .subscriptionIdentifierAvailable =>
    some (.subscriptionIdentifierAvailable s.serverCapabilities.subscriptionIdentifiersAvailable.toUInt8)
  | .sharedSubscriptionAvailable =>
    some (.sharedSubscriptionAvailable s.serverCapabilities.sharedSubscriptionAvailable.toUInt8)
  | .assignedClientIdentifier | .authenticationMethod => none

variable {params : ConnackParams} {connack : V5.ConnAck} {property : V5.Property} {setting : Setting} {s t : Session}

theorem flag_cases {value : UInt8} (valid : refuseIf (1 < value) .invalidPropertyValue = .ok ()) :
    value = 0 ∨ value = 1 := by
  rw [refuseIf_eq_ok, decide_eq_false_iff_not, UInt8.not_lt, UInt8.le_iff_toNat_le] at valid
  have small : value.toNat = 0 ∨ value.toNat = 1 := by
    change value.toNat ≤ 1 at valid
    omega
  exact small.imp UInt8.toNat.inj UInt8.toNat.inj

theorem flag_of_valid {value : UInt8} (valid : refuseIf (1 < value) .invalidPropertyValue = .ok ()) :
    (value == 1).toUInt8 = value := by
  rcases flag_cases valid with rfl | rfl <;> rfl

theorem maximumQos_of_valid {value : UInt8} (valid : refuseIf (1 < value) .invalidPropertyValue = .ok ()) :
    (ByteCode.fromU8 value : Option QoS).map (ByteCode.asU8 ·) = some value := by
  rcases flag_cases valid with rfl | rfl <;> rfl

namespace ConnackParams

theorem supply_setting (params : ConnackParams) (property : V5.Property) (setting : Setting) :
    (params.supply property).setting setting =
      if property.settles = some setting then ((successV5 false none).supply property).setting setting
      else params.setting setting := by
  cases property <;> cases setting <;> rfl

theorem supplied_of_valid (valid : property.validateValue = .ok ()) (named : property.settles = some setting) :
    ((successV5 false none).supply property).setting setting = some property := by
  cases property <;> cases named <;> try rfl
  case maximumQos value =>
    have known := maximumQos_of_valid valid
    rw [Option.map_eq_some_iff] at known
    obtain ⟨qos, read, same⟩ := known
    simp [supply, setting, read, same]
  all_goals exact congrArg _ (congrArg _ (flag_of_valid valid))

end ConnackParams

theorem identifier_of_settles (named : property.settles = some setting) :
    property.identifier = setting.identifier := by
  cases property <;> cases named <;> rfl

theorem Setting.single (setting : Setting) : V5.Properties.isRepeatable false setting.identifier = false := by
  cases setting <;> rfl

theorem settles_unique {properties : V5.Properties} {other : V5.Property}
    (distinct : properties.validateDuplicateIdentifiers false = .ok ()) (member : property ∈ properties.properties)
    (also : other ∈ properties.properties) (named : property.settles = some setting)
    (same : other.settles = some setting) : other = property := by
  have nodup := V5.Properties.validateDuplicateIdentifiers_eq_ok.mp distinct
  rw [List.filter_map] at nodup
  have kept {each : V5.Property} (member : each ∈ properties.properties) (named : each.settles = some setting) :
      each ∈ properties.properties.filter ((!V5.Properties.isRepeatable false ·) ∘ V5.Property.identifier) := by
    simp [member, identifier_of_settles named, setting.single]
  refine List.inj_on_of_nodup_map nodup (kept also same) (kept member named) ?_
  rw [identifier_of_settles named, identifier_of_settles same]

def V5.ConnAck.Obeys (connack : V5.ConnAck) : Prop :=
  connack.properties.Obeys V5.Properties.validateForConnack false

theorem connackParamsFrom_setting (connack : V5.ConnAck) (setting : Setting) :
    (connackParamsFrom connack).setting setting =
      overwrite (fun property => property.settles = some setting)
        (fun property => ((ConnackParams.successV5 false none).supply property).setting setting)
        connack.properties.properties none := by
  have nothing : (ConnackParams.successV5 connack.sessionPresent none).setting setting = none := by
    cases setting <;> rfl
  rw [← nothing]
  refine foldl_overwrite (ConnackParams.setting · setting) (fun params property => ?_) _
  simp only [decide_eq_true_eq]
  exact params.supply_setting property setting

theorem supplied_of_mem (obeys : connack.Obeys) (member : property ∈ connack.properties.properties)
    (named : property.settles = some setting) : (connackParamsFrom connack).setting setting = some property := by
  rw [connackParamsFrom_setting]
  apply overwrite_agreed
  · intro other also same
    obtain rfl := settles_unique obeys.distinct member also named (of_decide_eq_true same)
    exact ConnackParams.supplied_of_valid (obeys.valued other also) named
  · exact .inr ⟨property, member, decide_eq_true named⟩

theorem unsupplied (absent : ∀ property ∈ connack.properties.properties, property.settles ≠ some setting) :
    (connackParamsFrom connack).setting setting = none := by
  rw [connackParamsFrom_setting, overwrite_missed]
  intro property member
  exact decide_eq_false (absent property member)

theorem mem_of_supplied (obeys : connack.Obeys) (supplied : (connackParamsFrom connack).setting setting = some property) :
    property ∈ connack.properties.properties ∧ property.settles = some setting := by
  by_cases found : ∃ other ∈ connack.properties.properties, other.settles = some setting
  · obtain ⟨other, member, named⟩ := found
    obtain rfl := Option.some.inj ((supplied_of_mem obeys member named).symm.trans supplied)
    exact ⟨member, named⟩
  · rw [unsupplied fun other member named => found ⟨other, member, named⟩] at supplied
    cases supplied

theorem connackParamsFrom_head (connack : V5.ConnAck) :
    (connackParamsFrom connack).sessionPresent = connack.sessionPresent ∧
      (connackParamsFrom connack).reasonCode = .v5 .success := by
  have kept (properties : List V5.Property) (params : ConnackParams) :
      (properties.foldl ConnackParams.supply params).sessionPresent = params.sessionPresent ∧
        (properties.foldl ConnackParams.supply params).reasonCode = params.reasonCode := by
    induction properties generalizing params with
    | nil => exact ⟨rfl, rfl⟩
    | cons property rest ih =>
      rw [List.foldl_cons, (ih _).1, (ih _).2]
      cases property <;> exact ⟨rfl, rfl⟩
  exact kept connack.properties.properties (.successV5 connack.sessionPresent none)

theorem assignedClientIdentifier_iff (obeys : connack.Obeys) {name : String} :
    (connackParamsFrom connack).assignedClientIdentifier = some name ↔
      .assignedClientIdentifier name ∈ connack.properties.properties := by
  have supplied : (connackParamsFrom connack).assignedClientIdentifier = some name ↔
      (connackParamsFrom connack).setting .assignedClientIdentifier = some (.assignedClientIdentifier name) := by
    simp [ConnackParams.setting]
  rw [supplied]
  exact ⟨fun found => (mem_of_supplied obeys found).1, fun member => supplied_of_mem obeys member rfl⟩

theorem authenticationMethod_iff (obeys : connack.Obeys) {name : String} :
    (connackParamsFrom connack).authenticationMethod = some name ↔
      .authenticationMethod name ∈ connack.properties.properties := by
  have supplied : (connackParamsFrom connack).authenticationMethod = some name ↔
      (connackParamsFrom connack).setting .authenticationMethod = some (.authenticationMethod name) := by
    simp [ConnackParams.setting]
  rw [supplied]
  exact ⟨fun found => (mem_of_supplied obeys found).1, fun member => supplied_of_mem obeys member rfl⟩

theorem supplied_values (obeys : connack.Obeys) :
    (connackParamsFrom connack).receiveMaximum ≠ some 0 ∧ (connackParamsFrom connack).maximumPacketSize ≠ some 0 ∧
      (connackParamsFrom connack).maximumQos ≠ some .exactlyOnce := by
  have valid (setting : Setting) {property : V5.Property}
      (supplied : (connackParamsFrom connack).setting setting = some property) : property.validateValue = .ok () :=
    obeys.valued property (mem_of_supplied obeys supplied).1
  refine ⟨fun zero => ?_, fun zero => ?_, fun two => ?_⟩
  · cases valid .receiveMaximum (congrArg (Option.map V5.Property.receiveMaximum) zero)
  · cases valid .maximumPacketSize (congrArg (Option.map V5.Property.maximumPacketSize) zero)
  · cases valid .maximumQos (congrArg (Option.map fun qos => V5.Property.maximumQos (ByteCode.asU8 qos)) two)

namespace Session

/-- A CONNACK that a session takes for the answer to its CONNECT. -/
structure Welcomes (s : Session) (connack : V5.ConnAck) : Prop where
  success : connack.reasonCode = .success
  connecting : s.connectionState = .connecting
  version : s.protocolVersion = .v5
  freshSession : ¬(connack.sessionPresent = true ∧ s.cleanStart = true)
  assignedClientId : s.clientId.isEmpty = true →
    ∃ name, .assignedClientIdentifier name ∈ connack.properties.properties ∧ name.isEmpty = false
  method : if s.authState.state = .initialAuthenticating then
      ∃ name, s.authState.authMethod = some name ∧ .authenticationMethod name ∈ connack.properties.properties
    else ∀ name, .authenticationMethod name ∉ connack.properties.properties

/-- The session that goes by a CONNACK: every property of it is in force, and nothing else has changed. -/
structure Settled (s : Session) (connack : V5.ConnAck) (t : Session) : Prop where
  connected : t.connectionState = .connected
  supplied : ∀ property ∈ connack.properties.properties, ∀ setting, property.settles = some setting →
    setting.lasts = true → t.setting setting = some property
  kept : ∀ setting, (∀ property ∈ connack.properties.properties, property.settles ≠ some setting) →
    t.setting setting = s.setting setting
  clientId : if s.clientId.isEmpty then .assignedClientIdentifier t.clientId ∈ connack.properties.properties
    else t.clientId = s.clientId
  limits : t.limits = s.limits

theorem passesChecks_iff (obeys : connack.Obeys) :
    s.PassesChecks (connackParamsFrom connack) ↔
      s.connectionState = .connecting ∧ s.protocolVersion = .v5 ∧
        ¬(connack.sessionPresent = true ∧ s.cleanStart = true) ∧
        (s.clientId.isEmpty = true →
          ∃ name, .assignedClientIdentifier name ∈ connack.properties.properties ∧ name.isEmpty = false) := by
  obtain ⟨present, reason⟩ := connackParamsFrom_head connack
  obtain ⟨receive, size, qos⟩ := supplied_values obeys
  have version : (connackParamsFrom connack).reasonCode = successReason s.protocolVersion ↔ s.protocolVersion = .v5 := by
    rw [reason]
    cases s.protocolVersion <;> simp [successReason]
  simp only [← assignedClientIdentifier_iff obeys]
  constructor
  · rintro ⟨connecting, success, -, fresh, assigned, -, -, -⟩
    have v5 := version.mp success
    exact ⟨connecting, v5, present ▸ fresh, assigned v5⟩
  · rintro ⟨connecting, v5, fresh, assigned⟩
    refine ⟨connecting, version.mpr v5, ?_, present ▸ fresh, fun _ => assigned, receive, size, qos⟩
    intro v311
    cases v5.symm.trans v311

theorem welcomes_iff (obeys : connack.Obeys) :
    s.Welcomes connack ↔ connack.reasonCode = .success ∧ (s.applyConnack (connackParamsFrom connack)).1 = .ok () := by
  have accepted : (s.applyConnack (connackParamsFrom connack)).1 = .ok () ↔
      s.PassesChecks (connackParamsFrom connack) ∧ (s.checkMethod (connackParamsFrom connack)).1 = .ok () :=
    @AuthClient.applyConnack_ok_iff ⟨s, none⟩ _
  rw [accepted, passesChecks_iff obeys, checkMethod_ok_iff]
  have missing : (connackParamsFrom connack).authenticationMethod = none ↔
      ∀ name, .authenticationMethod name ∉ connack.properties.properties := by
    simp only [← authenticationMethod_iff obeys]
    exact Option.eq_none_iff_forall_ne_some
  simp only [authenticationMethod_iff obeys, missing]
  constructor
  · rintro ⟨success, connecting, version, fresh, assigned, method⟩
    exact ⟨success, ⟨connecting, version, fresh, assigned⟩, fun _ => method⟩
  · rintro ⟨success, ⟨connecting, version, fresh, assigned⟩, method⟩
    exact ⟨success, connecting, version, fresh, assigned, method version⟩

theorem Negotiated.setting_eq (negotiated : Negotiated s params t) (lasts : setting.lasts = true) :
    t.setting setting = (params.setting setting).or (s.setting setting) := by
  cases setting <;> cases lasts <;> simp only [setting, ConnackParams.setting, negotiated.sessionExpiryInterval,
    negotiated.flowControl, negotiated.peerMaximum, negotiated.keepAlive, negotiated.serverCapabilities]
  case maximumPacketSize => cases params.maximumPacketSize <;> rfl
  case sessionExpiryInterval => cases params.sessionExpiryInterval <;> rfl
  case receiveMaximum => cases params.receiveMaximum <;> rfl
  case topicAliasMaximum => cases params.topicAliasMaximum <;> rfl
  case serverKeepAlive => cases params.serverKeepAlive <;> rfl
  case maximumQos => cases params.maximumQos <;> rfl
  case retainAvailable => cases params.retainAvailable <;> rfl
  case wildcardSubscriptionAvailable => cases params.wildcardSubscriptionAvailable <;> rfl
  case subscriptionIdentifierAvailable => cases params.subscriptionIdentifiersAvailable <;> rfl
  case sharedSubscriptionAvailable => cases params.sharedSubscriptionAvailable <;> rfl

theorem settled_of_accepted (obeys : connack.Obeys) (welcomes : s.Welcomes connack) :
    (s.applyConnack (connackParamsFrom connack)).1 = .ok () ∧
      Settled s connack (s.applyConnack (connackParamsFrom connack)).2 := by
  obtain ⟨-, accepted⟩ := (welcomes_iff obeys).mp welcomes
  rcases s.applyConnack_cases (connackParamsFrom connack) with ⟨checked, method, result⟩ | ⟨refused, -⟩
  · have negotiated := acceptConnack_negotiated (checkConnack_ok_iff.mp checked) method fun _ => welcomes.version
    rw [result]
    refine ⟨rfl, negotiated.connectionState, ?_, ?_, ?_, negotiated.limits⟩
    · intro property member setting named lasts
      rw [negotiated.setting_eq lasts, supplied_of_mem obeys member named, Option.some_or]
    · intro setting absent
      cases lasts : setting.lasts with
      | true => rw [negotiated.setting_eq lasts, unsupplied absent, Option.none_or]
      | false => cases setting <;> first | rfl | cases lasts
    · have clientId := negotiated.clientId
      split at clientId
      · rename_i unnamed
        obtain ⟨name, member, -⟩ := welcomes.assignedClientId unnamed
        rw [(assignedClientIdentifier_iff obeys).mpr member, Option.getD_some] at clientId
        rw [if_pos unnamed, clientId]
        exact member
      · rename_i named
        rw [if_neg named, clientId]
  · exact absurd accepted refused

/-- How a session answers a CONNACK. -/
structure Answers (s : Session) (connack : V5.ConnAck) (result : Outcome ConnectError Unit) (t : Session) : Prop where
  accepted_iff : result = .ok () ↔ s.Welcomes connack
  settled : result = .ok () → Settled s connack t
  refused : result ≠ .ok () → t = s

theorem answered_answers (obeys : connack.Obeys) : s.Answers connack (s.answered connack).1 (s.answered connack).2 := by
  have accepted : (s.answered connack).1 = .ok () ↔ s.Welcomes connack := by
    rw [welcomes_iff obeys, answered]
    split
    · rename_i other
      simp [other]
    · rename_i success
      rw [ne_eq, not_not] at success
      simp only [Outcome.mapError_eq_ok, success, true_and]
  refine ⟨accepted, ?_, ?_⟩
  · intro ok
    have welcomes := accepted.mp ok
    rw [answered, if_neg (not_not.mpr welcomes.success)]
    exact (settled_of_accepted obeys welcomes).2
  · intro refused
    rw [answered] at refused ⊢
    split
    · rfl
    · rename_i success
      rw [if_neg success] at refused
      rcases s.applyConnack_cases (connackParamsFrom connack) with ⟨-, -, result⟩ | ⟨-, same⟩
      · exact absurd (by rw [result]; rfl) refused
      · exact same

end Session

end MqttRs
