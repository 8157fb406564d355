import Mathlib.Data.List.Induction
import MqttRs.State.Negotiation

namespace MqttRs

namespace AuthStateMachine

def MethodKnown (a : AuthStateMachine) : Prop := a.authMethod.isSome = true ↔ a.state ≠ .idle

variable {a : AuthStateMachine} {reasonCode : UInt8} {method : Option String}

theorem legalReason_not_idle (legal : a.legalReason reasonCode = true) : a.state ≠ .idle := by
  intro idle
  simp [legalReason, idle] at legal

theorem authReceived_legal {expected : String} (legal : a.legalReason reasonCode = true)
    (held : a.authMethod = some expected) :
    ∃ accepted : Bool, a.authReceived reasonCode method =
      if !accepted then (.ok .methodMismatch, .new)
      else if (a.state = .initialAuthenticating || a.state = .reauthenticating) && reasonCode = 0x18 then
        (.ok .continue, a)
      else if a.state = .reauthenticating && reasonCode = 0x00 then
        (.ok .authenticated, { a with state := .authenticated })
      else (.panic, a) := by
  unfold authReceived
  simp only [legal, held]
  exact ⟨_, rfl⟩

theorem authReceived_cases (known : a.MethodKnown) (reasonCode : UInt8) (method : Option String) :
    (a.authReceived reasonCode method).1 ≠ .panic ∧
      ((a.authReceived reasonCode method).2 = .new ∨
        (a.authReceived reasonCode method).2 = a ∨
        (a.state = .reauthenticating ∧
          (a.authReceived reasonCode method).2 = { a with state := .authenticated })) := by
  cases legal : a.legalReason reasonCode with
  | false =>
    simp only [authReceived, legal, Bool.not_false, ↓reduceIte]
    refine ⟨?_, .inl rfl⟩
    intro wrong
    cases wrong
  | true =>
    obtain ⟨expected, held⟩ := Option.isSome_iff_exists.mp (known.mpr (legalReason_not_idle legal))
    obtain ⟨accepted, result⟩ := authReceived_legal (a := a) legal held
    simp only [legalReason, Bool.or_eq_true, Bool.and_eq_true, decide_eq_true_eq] at legal
    rw [result]
    cases accepted with
    | false =>
      refine ⟨?_, .inl rfl⟩
      intro wrong
      cases wrong
    | true =>
      rcases legal with (⟨initial, more⟩ | ⟨again, more⟩) | ⟨again, success⟩
      · simp [initial, more]
      · simp [again, more]
      · simp [again, success]

theorem connackReceived_total (known : a.MethodKnown) (method : Option String) :
    (a.connackReceived method).1 ≠ .panic := by
  by_cases accepted : (a.connackReceived method).1 = .ok ()
  · rw [accepted]
    intro wrong
    cases wrong
  · have holds : a.state = .initialAuthenticating → a.authMethod ≠ none := by
      intro initial
      have notIdle : a.state ≠ .idle := by rw [initial]; decide
      exact Option.isSome_iff_ne_none.mp (known.mpr notIdle)
    obtain ⟨reason, refused⟩ := connackReceived_error holds accepted
    rw [refused]
    intro wrong
    cases wrong

theorem reauthenticateSent_cases (a : AuthStateMachine) :
    a.reauthenticateSent.2 = a ∨
      (a.state = .authenticated ∧ a.reauthenticateSent.2 = { a with state := .reauthenticating }) := by
  unfold reauthenticateSent
  by_cases done : a.state = .authenticated
  · simp [done]
  · simp [done]

end AuthStateMachine

namespace Session

def startsOver : SessionOp → Bool
  | .connectSent | .connectSentWithAuth _ | .reset => true
  | _ => false

def performAll (fresh : Session) (ops : List SessionOp) : Session := ops.foldl perform fresh

def requestedMethod : SessionOp → Option String
  | .connectSentWithAuth method => some method
  | _ => none

def latestMethod (ops : List SessionOp) : Option String := (ops.filterMap requestedMethod).getLast?

/-- The calls end with an authenticated CONNECT under the method and calls that do not start over. -/
def RequestedSince (ops : List SessionOp) (method : String) : Prop :=
  ∃ earlier exchange, ops = earlier ++ .connectSentWithAuth method :: exchange ∧
    ∀ op ∈ exchange, startsOver op = false

/-- Since the latest authenticated CONNECT, which was under the method, a CONNACK with that method was
    accepted, and no call has started over. -/
def AuthenticatedSince (fresh : Session) (ops : List SessionOp) (method : String) : Prop :=
  ∃ before params later, ops = before ++ .applyConnack params :: later ∧ RequestedSince before method ∧
    (∀ op ∈ later, startsOver op = false) ∧ params.authenticationMethod = some method ∧
    ((performAll fresh before).applyConnack params).1 = .ok ()

def AuthTraced (fresh : Session) (ops : List SessionOp) (a : AuthStateMachine) : Prop :=
  match a.state with
  | .idle => a.authMethod = none
  | .initialAuthenticating => ∃ method, a.authMethod = some method ∧ RequestedSince ops method
  | .authenticated | .reauthenticating =>
    ∃ method, a.authMethod = some method ∧ AuthenticatedSince fresh ops method

section Trace

variable {fresh s : Session} {ops : List SessionOp} {op : SessionOp} {method : String} {a b : AuthStateMachine}

theorem performAll_snoc (fresh : Session) (ops : List SessionOp) (op : SessionOp) :
    performAll fresh (ops ++ [op]) = (performAll fresh ops).perform op := by
  simp [performAll]

theorem requestedMethod_quiet (quiet : startsOver op = false) : requestedMethod op = none := by
  cases op <;> first | rfl | cases quiet

theorem filterMap_quiet {exchange : List SessionOp} (quiet : ∀ op ∈ exchange, startsOver op = false) :
    exchange.filterMap requestedMethod = [] :=
  List.filterMap_eq_nil_iff.mpr fun op member => requestedMethod_quiet (quiet op member)

theorem RequestedSince.snoc (since : RequestedSince ops method) (quiet : startsOver op = false) :
    RequestedSince (ops ++ [op]) method := by
  obtain ⟨earlier, exchange, rfl, calm⟩ := since
  refine ⟨earlier, exchange ++ [op], by simp, ?_⟩
  intro other member
  rcases List.mem_append.mp member with member | member
  · exact calm other member
  · rw [List.mem_singleton.mp member]
    exact quiet

theorem RequestedSince.latest (since : RequestedSince ops method) : latestMethod ops = some method := by
  obtain ⟨earlier, exchange, rfl, calm⟩ := since
  simp [latestMethod, requestedMethod, filterMap_quiet calm]

theorem AuthenticatedSince.snoc (since : AuthenticatedSince fresh ops method) (quiet : startsOver op = false) :
    AuthenticatedSince fresh (ops ++ [op]) method := by
  obtain ⟨before, params, later, rfl, requested, calm, carried, accepted⟩ := since
  refine ⟨before, params, later ++ [op], by simp, requested, ?_, carried, accepted⟩
  intro other member
  rcases List.mem_append.mp member with member | member
  · exact calm other member
  · rw [List.mem_singleton.mp member]
    exact quiet

theorem AuthenticatedSince.latest (since : AuthenticatedSince fresh ops method) :
    latestMethod ops = some method := by
  obtain ⟨before, params, later, rfl, requested, calm, -, -⟩ := since
  have connack : requestedMethod (.applyConnack params) = none := rfl
  simp only [latestMethod, List.filterMap_append, List.filterMap_cons, connack, filterMap_quiet calm, List.append_nil]
  exact requested.latest

theorem AuthTraced.methodKnown (traced : AuthTraced fresh ops a) : a.MethodKnown := by
  unfold AuthTraced at traced
  unfold AuthStateMachine.MethodKnown
  split at traced
  · rename_i idle
    simp [traced, idle]
  · rename_i initial
    obtain ⟨method, held, -⟩ := traced
    simp [held, initial]
  · rename_i done
    obtain ⟨method, held, -⟩ := traced
    simp [held, done]
  · rename_i again
    obtain ⟨method, held, -⟩ := traced
    simp [held, again]

theorem AuthTraced.new : AuthTraced fresh ops .new := rfl

theorem AuthTraced.kept (traced : AuthTraced fresh ops a) (quiet : startsOver op = false) :
    AuthTraced fresh (ops ++ [op]) a := by
  unfold AuthTraced at traced ⊢
  split at traced
  · exact traced
  · obtain ⟨method, held, since⟩ := traced
    exact ⟨method, held, since.snoc quiet⟩
  all_goals
    obtain ⟨method, held, since⟩ := traced
    exact ⟨method, held, since.snoc quiet⟩

theorem AuthTraced.moved (traced : AuthTraced fresh ops a) (quiet : startsOver op = false)
    (was : a.state = .authenticated ∨ a.state = .reauthenticating)
    (becomes : b.state = .authenticated ∨ b.state = .reauthenticating) (same : b.authMethod = a.authMethod) :
    AuthTraced fresh (ops ++ [op]) b := by
  obtain ⟨method, held, since⟩ : ∃ method, a.authMethod = some method ∧ AuthenticatedSince fresh ops method := by
    unfold AuthTraced at traced
    rcases was with done | again
    · simpa only [done] using traced
    · simpa only [again] using traced
  have known : ∃ method, b.authMethod = some method ∧ AuthenticatedSince fresh (ops ++ [op]) method :=
    ⟨method, same.trans held, since.snoc quiet⟩
  unfold AuthTraced
  rcases becomes with done | again
  · simpa only [done] using known
  · simpa only [again] using known

/-- What a call does to the authentication machine. -/
inductive AuthEffect (s : Session) (op : SessionOp) (a : AuthStateMachine) : Prop
  | kept (quiet : startsOver op = false) (same : a = s.authState)
  | cleared (none : a = .new)
  | requested (method : String) (sent : op = .connectSentWithAuth method)
      (v5 : s.protocolVersion = .v5) (begun : a = { state := .initialAuthenticating, authMethod := some method })
  | accepted (params : ConnackParams) (connack : op = .applyConnack params)
      (ok : (s.applyConnack params).1 = .ok ()) (initial : s.authState.state = .initialAuthenticating)
      (carried : params.authenticationMethod = s.authState.authMethod)
      (done : a = { s.authState with state := .authenticated })
  | moved (quiet : startsOver op = false)
      (was : s.authState.state = .authenticated ∨ s.authState.state = .reauthenticating)
      (becomes : a.state = .authenticated ∨ a.state = .reauthenticating)
      (same : a.authMethod = s.authState.authMethod)

theorem applyConnack_authEffect (v5 : s.authState.state ≠ .idle → s.protocolVersion = .v5) (params : ConnackParams) :
    AuthEffect s (.applyConnack params) (s.applyConnack params).2.authState := by
  rcases s.applyConnack_cases params with ⟨checked, method, result⟩ | ⟨-, same⟩
  · have initialV5 : s.authState.state = .initialAuthenticating → s.protocolVersion = .v5 := by
      intro initial
      exact v5 (by rw [initial]; decide)
    have after : (s.acceptConnack params).authState = _ :=
      (acceptConnack_negotiated (checkConnack_ok_iff.mp checked) method initialV5).authState
    have ok : (s.applyConnack params).1 = .ok () := by rw [result]
    rw [result]
    by_cases initial : s.authState.state = .initialAuthenticating
    · have needed := checkMethod_ok_iff.mp method (initialV5 initial)
      rw [if_pos initial] at needed after
      obtain ⟨name, held, carried⟩ := needed
      exact .accepted params rfl ok initial (carried.trans held.symm) after
    · rw [if_neg initial] at after
      exact .kept rfl after
  · exact .kept rfl (by rw [same])

theorem authReceived_authEffect (known : s.authState.MethodKnown) (reasonCode : UInt8) (method : Option String) :
    AuthEffect s (.authReceived reasonCode method) (s.authReceived reasonCode method).2.authState := by
  rcases (AuthStateMachine.authReceived_cases known reasonCode method).2 with ended | same | ⟨again, completed⟩
  · exact .cleared ended
  · exact .kept rfl same
  · refine .moved rfl (.inr again) ?_ ?_
    · exact .inl (congrArg AuthStateMachine.state completed)
    · exact (congrArg (fun m : AuthStateMachine => m.authMethod) completed :)

theorem reauthenticateSent_authEffect (s : Session) :
    AuthEffect s .reauthenticateSent s.reauthenticateSent.2.authState := by
  rcases s.authState.reauthenticateSent_cases with same | ⟨done, started⟩
  · exact .kept rfl same
  · refine .moved rfl (.inl done) ?_ ?_
    · exact .inr (congrArg AuthStateMachine.state started)
    · exact (congrArg (fun m : AuthStateMachine => m.authMethod) started :)

theorem perform_authEffect (known : s.authState.MethodKnown) (v5 : s.authState.state ≠ .idle → s.protocolVersion = .v5)
    (op : SessionOp) : AuthEffect s op (s.perform op).authState := by
  cases kept : keepsConnection op with
  | true =>
    have quiet : startsOver op = false := by cases op <;> first | rfl | cases kept
    exact .kept quiet (s.perform_sameConnection kept).authState
  | false =>
    cases op
    case connectSent | reset => exact .cleared rfl
    case connectSentWithAuth method =>
      cases version : s.isV5 with
      | true =>
        refine .requested method rfl (by simpa [isV5] using version) ?_
        simp only [perform, connectSentWithAuth, version]
        rfl
      | false =>
        have idle : s.authState.state = .idle := by
          by_contra busy
          simp [isV5, v5 busy] at version
        have unknown : s.authState.authMethod = none := by
          simpa [AuthStateMachine.MethodKnown, idle] using known
        refine .cleared ?_
        simp only [perform, connectSentWithAuth, version]
        exact congrArg₂ AuthStateMachine.mk idle unknown
    case applyConnack params => exact applyConnack_authEffect v5 params
    case connected sessionPresent =>
      refine .kept rfl ?_
      simp only [perform, connected]
      split <;> rfl
    case disconnectSent | disconnectReceived | disconnected => exact .kept rfl rfl
    case authReceived reasonCode method => exact authReceived_authEffect known reasonCode method
    case reauthenticateSent => exact s.reauthenticateSent_authEffect
    all_goals cases kept

/-- The authentication machine agrees with the calls so far, and is in use on v5.0 sessions only. -/
structure AuthConsistent (fresh : Session) (ops : List SessionOp) (s : Session) : Prop where
  traced : AuthTraced fresh ops s.authState
  v5Only : s.authState.state ≠ .idle → s.protocolVersion = .v5

theorem AuthTraced.effect (traced : AuthTraced fresh ops s.authState) (current : s = performAll fresh ops)
    (effect : AuthEffect s op a) : AuthTraced fresh (ops ++ [op]) a := by
  cases effect with
  | kept quiet same =>
    rw [same]
    exact traced.kept quiet
  | cleared none =>
    rw [none]
    exact .new
  | requested method sent v5 begun =>
    rw [sent, begun]
    exact ⟨method, rfl, ops, [], rfl, by simp⟩
  | accepted params connack ok initial carried done =>
    obtain ⟨method, held, since⟩ : ∃ method, s.authState.authMethod = some method ∧ RequestedSince ops method := by
      simpa only [AuthTraced, initial] using traced
    rw [connack, done]
    refine ⟨method, held, ops, params, [], rfl, since, by simp, carried.trans held, ?_⟩
    rw [← current]
    exact ok
  | moved quiet was becomes same => exact traced.moved quiet was becomes same

theorem AuthEffect.v5Only (v5 : s.authState.state ≠ .idle → s.protocolVersion = .v5) (effect : AuthEffect s op a)
    (busy : a.state ≠ .idle) : s.protocolVersion = .v5 := by
  cases effect with
  | kept quiet same => exact v5 (same ▸ busy)
  | cleared none =>
    rw [none] at busy
    exact absurd rfl busy
  | requested method sent version begun => exact version
  | accepted params connack ok initial carried done => exact v5 (by rw [initial]; decide)
  | moved quiet was becomes same =>
    rcases was with done | again
    · exact v5 (by rw [done]; decide)
    · exact v5 (by rw [again]; decide)

theorem perform_authConsistent (consistent : AuthConsistent fresh ops s) (current : s = performAll fresh ops)
    (op : SessionOp) : AuthConsistent fresh (ops ++ [op]) (s.perform op) := by
  have effect := perform_authEffect consistent.traced.methodKnown consistent.v5Only op
  refine ⟨consistent.traced.effect current effect, fun busy => ?_⟩
  rw [perform_protocolVersion]
  exact effect.v5Only consistent.v5Only busy

theorem performAll_authConsistent (version : MqttVersion) (clientId : String) (cleanStart : Bool)
    (ops : List SessionOp) :
    AuthConsistent (initial version clientId cleanStart) ops (performAll (initial version clientId cleanStart) ops) := by
  induction ops using List.reverseRecOn with
  | nil => exact ⟨.new, fun busy => absurd rfl busy⟩
  | append_singleton ops op ih =>
    rw [performAll_snoc]
    exact perform_authConsistent ih rfl op

theorem performAll_protocolVersion (fresh : Session) (ops : List SessionOp) :
    (performAll fresh ops).protocolVersion = fresh.protocolVersion := by
  induction ops using List.reverseRecOn with
  | nil => rfl
  | append_singleton ops op ih => rw [performAll_snoc, perform_protocolVersion, ih]

end Trace

/-- What holds of the authentication after the calls `ops` on a fresh session. -/
structure AuthLifecycle (fresh : Session) (ops : List SessionOp) (s : Session) : Prop where
  methodKnown : s.authState.authMethod.isSome = true ↔ s.authState.state ≠ .idle
  authTotal : ∀ reasonCode method, (s.authReceived reasonCode method).1 ≠ .panic
  connackTotal : ∀ method, (s.authState.connackReceived method).1 ≠ .panic
  methodLatest : ∀ method, s.authState.authMethod = some method → latestMethod ops = some method
  authenticated : s.authState.state = .authenticated ∨ s.authState.state = .reauthenticating →
    ∃ method, s.authState.authMethod = some method ∧ AuthenticatedSince fresh ops method
  v311Idle : s.protocolVersion = .v311 → s.authState.state = .idle

/-- After any calls on a fresh session, the authentication machine knows a method exactly while it is in use,
    never panics, and is past the initial authentication only by an accepted CONNACK with the method of the
    latest authenticated CONNECT. -/
theorem auth_lifecycle {version : MqttVersion} {clientId : String} {cleanStart : Bool} {fresh : Session}
    (created : Session.new version clientId cleanStart = .ok fresh) (ops : List SessionOp) :
    fresh.protocolVersion = version ∧ (performAll fresh ops).protocolVersion = version ∧
      AuthLifecycle fresh ops (performAll fresh ops) := by
  obtain rfl := new_eq_ok created
  obtain ⟨traced, v5Only⟩ := performAll_authConsistent version clientId cleanStart ops
  have known := traced.methodKnown
  refine ⟨rfl, performAll_protocolVersion _ ops, known, ?_, ?_, ?_, ?_, ?_⟩
  · intro reasonCode method
    exact (AuthStateMachine.authReceived_cases known reasonCode method).1
  · exact AuthStateMachine.connackReceived_total known
  · intro method held
    unfold AuthTraced at traced
    split at traced
    · cases traced.symm.trans held
    · obtain ⟨name, same, since⟩ := traced
      cases same.symm.trans held
      exact since.latest
    all_goals
      obtain ⟨name, same, since⟩ := traced
      cases same.symm.trans held
      exact since.latest
  · rintro (done | again)
    · simpa only [AuthTraced, done] using traced
    · simpa only [AuthTraced, again] using traced
  · intro v311
    by_contra busy
    cases v311.symm.trans (v5Only busy)

def reauthenticatedRun : List SessionOp :=
  [.connectSentWithAuth "SCRAM", .authReceived 0x18 (some "SCRAM"),
    .applyConnack { ConnackParams.successV5 false none with authenticationMethod := some "SCRAM" },
    .reauthenticateSent, .authReceived 0x18 (some "SCRAM")]

theorem reauthenticatedRun_lifecycle :
    (performAll (initial .v5 "client" true) reauthenticatedRun).authState.state = .reauthenticating ∧
      AuthLifecycle (initial .v5 "client" true) reauthenticatedRun
        (performAll (initial .v5 "client" true) reauthenticatedRun) := by
  have created : Session.new .v5 "client" true = .ok (initial .v5 "client" true) := rfl
  exact ⟨by decide, (auth_lifecycle created reauthenticatedRun).2.2⟩

end Session

end MqttRs
