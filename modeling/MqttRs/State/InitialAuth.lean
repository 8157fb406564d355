import MqttRs.State.Session.Connack
import MqttRs.State.Session.Frame

namespace MqttRs

/-- A session together with the method of the authenticated CONNECT it has sent last. -/
structure AuthClient where
  session : Session
  requested : Option String

namespace AuthClient

def requestedAfter (c : AuthClient) : SessionOp → Option String
  | .connectSentWithAuth method => if (c.session.connectSentWithAuth method).1 = .ok () then some method else none
  | .connectSent | .reset => none
  | _ => c.requested

def next (c : AuthClient) (op : SessionOp) : Option AuthClient :=
  some { session := c.session.perform op, requested := c.requestedAfter op }

def ConnectsAsRequested (c : AuthClient) : Prop :=
  ∀ method ∈ c.requested, ∀ params, (c.session.applyConnack params).1 = .ok () →
    params.authenticationMethod = some method

/-- An AUTH between CONNECT and CONNACK continues the exchange under the same method. -/
def ContinuesExchange (c : AuthClient) (op : SessionOp) : Prop :=
  match op with
  | .authReceived reasonCode method =>
    c.session.connectionState = .connecting → c.session.authState.state = .initialAuthenticating →
      reasonCode = 0x18 ∧ method = c.session.authState.authMethod
  | _ => True

instance (c : AuthClient) (op : SessionOp) : Decidable (ContinuesExchange c op) := by
  unfold ContinuesExchange
  split <;> infer_instance

/-- While the CONNACK of an authenticated CONNECT is awaited, the machine still holds its method. -/
def AwaitsRequested (c : AuthClient) : Prop :=
  ∀ method ∈ c.requested, c.session.isV5 = true ∧
    (c.session.connectionState = .connecting →
      c.session.authState = { state := .initialAuthenticating, authMethod := some method })

variable {c d : AuthClient} {op : SessionOp}

theorem connecting_of_accepted {s : Session} {params : ConnackParams}
    (accepted : (s.applyConnack params).1 = .ok ()) :
    s.connectionState = .connecting ∧ (s.checkMethod params).1 = .ok () := by
  rcases s.applyConnack_cases params with ⟨checked, method, -⟩ | ⟨refused, -⟩
  · refine ⟨?_, method⟩
    by_contra other
    simp [Session.checkConnack, other] at checked
  · exact absurd accepted refused

theorem connects_as_requested (awaits : c.AwaitsRequested) : c.ConnectsAsRequested := by
  intro method requested params accepted
  obtain ⟨connecting, checked⟩ := connecting_of_accepted accepted
  obtain ⟨v5, held⟩ := awaits method requested
  have auth := held connecting
  have received : (c.session.authState.connackReceived params.authenticationMethod).1 = .ok () := by
    simp only [Session.checkMethod, v5, ↓reduceIte] at checked
    split at checked <;> simp_all
  obtain ⟨name, supplied, known⟩ := AuthStateMachine.connackReceived_initial (by rw [auth]) received
  rw [auth] at known
  rw [supplied, Option.some.inj known]

theorem connectSentWithAuth_ok {s : Session} {method : String} (sent : (s.connectSentWithAuth method).1 = .ok ()) :
    s.isV5 = true ∧ (s.connectSentWithAuth method).2.isV5 = true ∧
      (s.connectSentWithAuth method).2.authState =
        { state := .initialAuthenticating, authMethod := some method } := by
  cases v5 : s.isV5 with
  | false => simp [Session.connectSentWithAuth, v5] at sent
  | true =>
    simp only [Session.connectSentWithAuth, v5, Bool.not_true, Bool.false_eq_true, ↓reduceIte]
    exact ⟨trivial, v5, rfl⟩

theorem authReceived_continue {a : AuthStateMachine} {method : String}
    (held : a = { state := .initialAuthenticating, authMethod := some method }) :
    a.authReceived 0x18 (some method) = (.ok .continue, a) := by
  subst held
  simp [AuthStateMachine.authReceived, AuthStateMachine.legalReason]

theorem awaits_of_left {s : Session} {requested : Option String} (awaits : c.AwaitsRequested)
    (same : requested = c.requested) (version : s.protocolVersion = c.session.protocolVersion)
    (left : s.connectionState ≠ .connecting) : AwaitsRequested { session := s, requested } := by
  intro method requested
  have v5 := (awaits method (same ▸ requested)).1
  refine ⟨?_, fun connecting => absurd connecting left⟩
  simp only [Session.isV5, version] at v5 ⊢
  exact v5

theorem awaits_of_same {s : Session} {requested : Option String} (awaits : c.AwaitsRequested)
    (same : requested = c.requested) (connection : Session.SameConnection c.session s) :
    AwaitsRequested { session := s, requested } := by
  intro method requested
  have held := awaits method (same ▸ requested)
  simpa only [Session.isV5, connection.protocolVersion, connection.connectionState, connection.authState]
    using held

theorem perform_awaits (awaits : c.AwaitsRequested) (continues : c.ContinuesExchange op) :
    AwaitsRequested { session := c.session.perform op, requested := c.requestedAfter op } := by
  cases kept : Session.keepsConnection op with
  | true =>
    have connection := c.session.perform_sameConnection kept
    exact awaits_of_same awaits (by cases op <;> first | rfl | cases kept) connection
  | false =>
    cases op
    case connectSent | reset =>
      intro method requested
      cases requested
    case connectSentWithAuth method =>
      intro requested member
      simp only [requestedAfter] at member
      split at member
      · rename_i sent
        cases member
        obtain ⟨-, v5, held⟩ := connectSentWithAuth_ok sent
        exact ⟨v5, fun _ => held⟩
      · cases member
    case applyConnack params =>
      rcases c.session.applyConnack_cases params with ⟨-, -, accepted⟩ | ⟨-, same⟩
      · simp only [Session.perform, accepted]
        refine awaits_of_left awaits rfl (Session.acceptConnack_protocolVersion c.session params) ?_
        rw [Session.acceptConnack_connectionState]
        decide
      · simp only [Session.perform, same]
        exact awaits_of_same awaits rfl (.refl _)
    case connected sessionPresent =>
      refine awaits_of_left awaits rfl ?_ ?_ <;> simp only [Session.perform, Session.connected] <;>
        split <;> first | rfl | exact ConnectionState.noConfusion
    case disconnectSent | disconnectReceived | disconnected =>
      refine awaits_of_left awaits rfl rfl ?_
      intro connecting
      cases connecting
    case reauthenticateSent =>
      intro method requested
      obtain ⟨v5, held⟩ := awaits method requested
      refine ⟨v5, fun connecting => ?_⟩
      have auth := held connecting
      simp [Session.perform, Session.reauthenticateSent, AuthStateMachine.reauthenticateSent, auth]
    case authReceived reasonCode supplied =>
      intro method requested
      obtain ⟨v5, held⟩ := awaits method requested
      refine ⟨v5, fun connecting => ?_⟩
      have auth := held connecting
      obtain ⟨rfl, same⟩ := continues connecting (by rw [auth])
      have unchanged := authReceived_continue auth
      rw [auth] at same
      simp only [Session.perform, Session.authReceived, same, unchanged]
      exact auth
    all_goals cases kept

theorem next_awaits {c d : AuthClient} {op : SessionOp} (awaits : c.AwaitsRequested)
    (step : Guarded ContinuesExchange (Steps next) c op d) : d.AwaitsRequested := by
  obtain ⟨continues, moved⟩ := step
  cases moved
  exact perform_awaits awaits continues

def start (fresh : Session) : AuthClient := { session := fresh, requested := none }

/-- Along every run in which the AUTH packets between CONNECT and CONNACK continue the exchange, a connection
    is only made with the method that was asked for. -/
theorem connection_authenticated {fresh : Session} {ops : List SessionOp} {c : AuthClient}
    (run : Run (Guarded ContinuesExchange (Steps next)) (start fresh) ops c) : c.ConnectsAsRequested :=
  connects_as_requested (run.invariant next_awaits nofun)

def continuedRun : List SessionOp :=
  [.configureForConnect 30 0 0 10 0, .connectSentWithAuth "SCRAM", .authReceived 0x18 (some "SCRAM")]

theorem continuedRun_authenticated :
    ∃ c, Run (Guarded ContinuesExchange (Steps next)) (start (Session.initial .v5 "client" true)) continuedRun c ∧
      c.ConnectsAsRequested := by
  have completes : (runFrom (fun c op => if ContinuesExchange c op then next c op else none)
      (start (Session.initial .v5 "client" true)) continuedRun).isSome = true := by decide
  obtain ⟨c, ends⟩ := Option.isSome_iff_exists.mp completes
  have run := run_guarded_of_runFrom ends
  exact ⟨c, run, connection_authenticated run⟩

def failedAuthRun : List SessionOp := [.connectSentWithAuth "SCRAM", .authReceived 0x00 none]

theorem connection_unauthenticated :
    ¬∀ version clientId cleanStart fresh ops c, Session.new version clientId cleanStart = .ok fresh →
      Run (Steps next) (start fresh) ops c → c.ConnectsAsRequested := by
  intro claim
  have completes : (runFrom next (start (Session.initial .v5 "client" true)) failedAuthRun).any (fun c =>
      decide (c.requested = some "SCRAM" ∧ (c.session.applyConnack (.successV5 false none)).1 = .ok ())) = true := by
    decide
  obtain ⟨c, ends, connects⟩ := (Option.any_eq_true _ _).mp completes
  obtain ⟨requested, accepted⟩ := of_decide_eq_true connects
  have supplied := claim .v5 "client" true _ failedAuthRun c rfl (run_of_runFrom ends) _ requested _ accepted
  cases supplied

end AuthClient

end MqttRs
