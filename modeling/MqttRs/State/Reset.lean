import MqttRs.State.Session.Connack
import MqttRs.State.Session.Frame

namespace MqttRs

namespace Session

/-- The public operations: the calls of a session, and the accessors that hand out one of its state machines to
    be changed in place, here to any other value. -/
inductive PublicOp where
  | call (op : SessionOp)
  | qosFlowMut (changed : QosFlowManager)
  | flowControlMut (changed : FlowControl)
  | keepAliveMut (changed : KeepAlive)
  | authStateMut (changed : AuthStateMachine)

def operate (s : Session) : PublicOp → Session
  | .call op => s.perform op
  | .qosFlowMut changed => { s with qosFlow := changed }
  | .flowControlMut changed => { s with flowControl := changed }
  | .keepAliveMut changed => { s with keepAlive := changed }
  | .authStateMut changed => { s with authState := changed }

/-- What `reset` is for: the session that `new` creates for the same client. -/
def ResetsToFresh (s : Session) : Prop := Session.new s.protocolVersion s.clientId s.cleanStart = .ok s.reset

def Named (s : Session) : Prop := s.protocolVersion = .v311 → s.clientId.isEmpty = true → s.cleanStart = true

section Identity

variable {s t : Session} {op : PublicOp}

theorem operate_sameClient (s : Session) (op : PublicOp) : SameClient s (s.operate op) := by
  cases op with
  | call op => exact s.perform_sameClient op
  | qosFlowMut | flowControlMut | keepAliveMut | authStateMut => exact ⟨rfl, rfl, fun _ => rfl⟩

theorem SameClient.named (same : SameClient s t) (named : s.Named) : t.Named := by
  intro v311 unnamed
  rw [same.cleanStart]
  apply named
  · rw [← same.protocolVersion]
    exact v311
  · by_contra held
    have kept := same.clientId (by simpa using held)
    exact held (kept ▸ unnamed)

theorem new_iff_named {version : MqttVersion} {clientId : String} {cleanStart : Bool} {fresh : Session} :
    Session.new version clientId cleanStart = .ok fresh ↔
      fresh = initial version clientId cleanStart ∧ (initial version clientId cleanStart).Named := by
  have refused : (version = .v311 && clientId.isEmpty && !cleanStart) = true ↔
      ¬(initial version clientId cleanStart).Named := by
    simp [Named, initial, and_assoc]
  unfold Session.new
  split
  · rename_i unnamed
    have missing := refused.mp unnamed
    exact ⟨nofun, fun held => absurd held.2 missing⟩
  · rename_i named
    rw [refused, not_not] at named
    constructor
    · rintro ⟨⟩
      exact ⟨rfl, named⟩
    · rintro ⟨rfl, -⟩
      rfl

theorem reset_eq (s : Session) :
    s.reset = { initial s.protocolVersion s.clientId s.cleanStart with limits := s.limits } := rfl

end Identity

/-- In every session that public operations lead to, `reset` gives a fresh session exactly when no operation
    has changed the size limits. -/
theorem reset_fresh_iff {version : MqttVersion} {clientId : String} {cleanStart : Bool} {fresh s : Session}
    {ops : List PublicOp} (created : Session.new version clientId cleanStart = .ok fresh)
    (run : Run (fun s op t => t = operate s op) fresh ops s) : s.ResetsToFresh ↔ s.limits = .new := by
  have begun : fresh.Named := by
    obtain ⟨rfl, named⟩ := new_iff_named.mp created
    exact named
  have named : s.Named := by
    apply run.invariant _ begun
    rintro s op t named rfl
    exact (s.operate_sameClient op).named named
  unfold ResetsToFresh
  rw [new_iff_named, reset_eq]
  constructor
  · rintro ⟨same, -⟩
    exact congrArg Session.limits same
  · intro limits
    exact ⟨by rw [limits]; rfl, named⟩

def busyRun : List PublicOp :=
  [.call (.configureForConnect 60 0 0 10 0), .call .connectSent, .call (.applyConnack (.successV5 false none)),
    .call .allocatePacketId, .call (.publishSent .atLeastOnce 1)]

theorem busyRun_resets :
    ∃ s, Run (fun s op t => t = operate s op) (initial .v5 "client" false) busyRun s ∧
      (s.ResetsToFresh ↔ s.limits = .new) := by
  have created : Session.new .v5 "client" false = .ok (initial .v5 "client" false) := rfl
  have run : Run (fun s op t => t = operate s op) (initial .v5 "client" false) busyRun
      (busyRun.foldl operate (initial .v5 "client" false)) :=
    .cons rfl (.cons rfl (.cons rfl (.cons rfl (.cons rfl (.nil _)))))
  exact ⟨_, run, reset_fresh_iff created run⟩

theorem reset_keeps_limits :
    ¬∀ version clientId cleanStart fresh s ops, Session.new version clientId cleanStart = .ok fresh →
      Run (fun s op t => t = operate s op) fresh ops s → s.ResetsToFresh := by
  intro claim
  have fresh := claim .v5 "client" true _ _ [.call (.configureForConnect 60 0 0 10 100)] rfl (.cons rfl (.nil _))
  have limits := congrArg (fun result => result.toOption.map Session.limits) fresh
  revert limits
  decide

end Session

end MqttRs
