import Mathlib.Logic.Function.Basic
import MqttRs.State.Session.Flows

namespace MqttRs

/-- What happened to the latest flow of an identifier: whether its PUBLISH was first sent on this connection,
    how often it was resent on this connection, and whether a PUBREC has accepted it. -/
structure PublishRecord where
  sentHere : Bool
  resent : Nat
  answered : Bool

def PublishRecord.published (r : PublishRecord) : Nat := r.sentHere.toNat + r.resent

/-- A session together with a record of the PUBLISH packets of each identifier. -/
structure Resender where
  session : Session
  records : UInt16 → PublishRecord

namespace Session

instance (s : Session) (op : SessionOp) : Decidable (s.Connects op) := by
  unfold Connects
  split <;> infer_instance

end Session

namespace Resender

def allowed (c : Resender) : SessionOp → Bool
  | .publishSent _ id => !c.session.qosFlow.outgoing.contains id
  | _ => true

def recordsAfter (c : Resender) (op : SessionOp) : UInt16 → PublishRecord :=
  match op with
  | .publishSent qos id =>
    if (c.session.publishSent qos id).1 = .ok () then
      Function.update c.records id { sentHere := true, resent := 0, answered := false }
    else c.records
  | .resendPublish id =>
    if (c.session.resendPublish id).1 = .ok (some (.resendPublish id)) then
      Function.update c.records id { c.records id with resent := (c.records id).resent + 1 }
    else c.records
  | .handlePubrec id reasonCode =>
    if (c.session.handlePubrec id reasonCode).1 = .ok (some (.sendPubrel id)) then
      Function.update c.records id { c.records id with answered := true }
    else c.records
  | op =>
    if c.session.Connects op then fun id => { c.records id with sentHere := false, resent := 0 } else c.records

def next (c : Resender) (op : SessionOp) : Option Resender :=
  if c.allowed op then some { session := c.session.perform op, records := c.recordsAfter op } else none

/-- No flow has had two PUBLISH packets since the latest CONNECT, and a resend is only granted to a flow that
    has had none and is still without its PUBREC. -/
structure PublishesOnce (c : Resender) : Prop where
  once : ∀ id, (c.records id).published ≤ 1
  granted : ∀ id action, (c.session.resendPublish id).1 = .ok (some action) →
    action = .resendPublish id ∧ c.session.qosFlow.outgoing.contains id = true ∧
      (c.records id).sentHere = false ∧ (c.records id).resent = 0 ∧ (c.records id).answered = false

/-- A flow that went out on this connection is charged, and one that was accepted waits for its PUBCOMP. -/
def Tracks (r : PublishRecord) (flow : OutgoingFlow) : Prop :=
  (0 < r.published → flow.quotaCharged = true) ∧ (r.answered = true → flow.state = .awaitingPubcomp)

structure Consistent (c : Resender) : Prop where
  v5 : c.session.isV5 = true
  once : ∀ id, (c.records id).published ≤ 1
  tracked : ∀ id flow, c.session.qosFlow.outgoing.get? id = some flow → Tracks (c.records id) flow

section Steps

variable {s : Session} {c d : Resender} {id : UInt16} {op : SessionOp} {flow : OutgoingFlow}

theorem resendPublish_granted {action : Action} (v5 : s.isV5 = true)
    (granted : (s.resendPublish id).1 = .ok (some action)) :
    action = .resendPublish id ∧ ∃ flow, s.qosFlow.outgoing.get? id = some flow ∧ flow.quotaCharged = false ∧
      (flow.state = .awaitingPuback ∨ flow.state = .awaitingPubrec) ∧
      (s.resendPublish id).2.qosFlow.outgoing.get? id = some { flow with quotaCharged := true } := by
  unfold Session.resendPublish at granted ⊢
  split at granted
  · rename_i asks known
    obtain ⟨rfl, flow, present, waiting⟩ := Session.needsRetransmission_eq_resendPublish.mp known
    cases charged : flow.quotaCharged with
    | true => simp [QosFlowManager.isQuotaCharged, present, charged, v5] at granted
    | false =>
      rcases s.flowControl.publishSent_cases with ⟨-, sent⟩ | ⟨-, refused⟩
      · simp only [QosFlowManager.isQuotaCharged, present, Option.any_some, charged, Bool.false_eq_true, ↓reduceIte,
          sent] at granted ⊢
        cases granted
        refine ⟨rfl, flow, rfl, charged, waiting, ?_⟩
        rw [QosFlowManager.markQuotaCharged_present present]
        simp
      · simp [QosFlowManager.isQuotaCharged, present, charged, refused] at granted
  · cases granted

theorem handlePubrec_answered {reasonCode : UInt8}
    (answered : (s.handlePubrec id reasonCode).1 = .ok (some (.sendPubrel id)))
    (after : (s.handlePubrec id reasonCode).2.qosFlow.outgoing.get? id = some flow) :
    flow.state = .awaitingPubcomp := by
  have effect := Session.handlePubrec_flow after
  cases effect with
  | advanced earlier reasonCode received success before waiting state charge => exact state
  | opened qos sent => cases sent
  | resent earlier asked => cases asked
  | restarted earlier connects => exact connects.elim
  | kept before =>
    by_cases failure : 0x80 ≤ reasonCode
    · cases known : flow.state <;>
        simp [Session.handlePubrec, QosFlowManager.pubrecReceived, before, failure, known] at answered
    · cases known : flow.state with
      | awaitingPubcomp => rfl
      | awaitingPubrec =>
        -- The first successful PUBREC has replaced the flow.
        simp only [Session.handlePubrec, QosFlowManager.pubrecReceived_first failure before known,
          OrderedMap.get?_insert, ↓reduceIte] at after
        exact known.symm.trans (congrArg OutgoingFlow.state (Option.some.inj after).symm)
      | awaitingPuback | awaitingPubrel | incomingAwaitingPuback =>
        simp [Session.handlePubrec, QosFlowManager.pubrecReceived, before, failure, known] at answered

theorem recordsAfter_published (consistent : c.Consistent) (op : SessionOp) (id : UInt16) :
    (c.recordsAfter op id).published ≤ 1 := by
  have before := consistent.once id
  unfold recordsAfter
  split
  · rename_i qos packetId
    split
    · rw [Function.update_apply]
      split
      · exact Nat.le_refl 1
      · exact before
    · exact before
  · rename_i packetId
    split
    · rename_i granted
      rw [Function.update_apply]
      split
      · rename_i same
        subst same
        obtain ⟨-, flow, present, uncharged, -⟩ := resendPublish_granted consistent.v5 granted
        have none : ¬0 < (c.records id).published := by
          intro some
          rw [(consistent.tracked id flow present).1 some] at uncharged
          cases uncharged
        simp only [PublishRecord.published] at none ⊢
        omega
      · exact before
    · exact before
  · rename_i packetId reasonCode
    split
    · rw [Function.update_apply]
      split
      · rename_i same
        subst same
        exact before
      · exact before
    · exact before
  · split
    · exact Nat.zero_le 1
    · exact before

theorem tracked_kept (consistent : c.Consistent) (permitted : c.allowed op = true)
    (before : c.session.qosFlow.outgoing.get? id = some flow)
    (after : (c.session.perform op).qosFlow.outgoing.get? id = some flow) :
    Tracks (c.recordsAfter op id) flow := by
  have held := consistent.tracked id flow before
  unfold recordsAfter
  split
  · rename_i qos packetId
    split
    · rw [Function.update_apply]
      split
      · rename_i same
        subst same
        simp [allowed, OrderedMap.contains, before] at permitted
      · exact held
    · exact held
  · rename_i packetId
    split
    · rename_i granted
      rw [Function.update_apply]
      split
      · rename_i same
        subst same
        obtain ⟨-, earlier, present, -, -, now⟩ := resendPublish_granted consistent.v5 granted
        cases before.symm.trans present
        have charged : flow = { flow with quotaCharged := true } := Option.some.inj (after.symm.trans now)
        exact ⟨fun _ => congrArg OutgoingFlow.quotaCharged charged, held.2⟩
      · exact held
    · exact held
  · rename_i packetId reasonCode
    split
    · rename_i answered
      rw [Function.update_apply]
      split
      · rename_i same
        subst same
        exact ⟨held.1, fun _ => handlePubrec_answered answered after⟩
      · exact held
    · exact held
  · split
    · exact ⟨fun some => absurd some (lt_irrefl 0), held.2⟩
    · exact held

theorem perform_tracked (consistent : c.Consistent) (permitted : c.allowed op = true)
    (after : (c.session.perform op).qosFlow.outgoing.get? id = some flow) : Tracks (c.recordsAfter op id) flow := by
  cases Session.perform_flow after with
  | kept before => exact tracked_kept consistent permitted before after
  | opened qos sent ok fresh state charged =>
    subst sent
    refine ⟨fun _ => charged, fun answered => ?_⟩
    simp [recordsAfter, ok] at answered
  | resent earlier asked ok before uncharged now =>
    subst asked now
    refine ⟨fun _ => rfl, fun answered => ?_⟩
    simp only [recordsAfter, ok, ↓reduceIte, Function.update_self] at answered
    exact (consistent.tracked id earlier before).2 answered
  | advanced earlier reasonCode received success before waiting state charge =>
    subst received
    refine ⟨fun some => ?_, fun _ => state⟩
    rw [charge]
    refine (consistent.tracked id earlier before).1 ?_
    simp only [recordsAfter] at some
    split at some
    · simpa only [Function.update_self, PublishRecord.published] using some
    · exact some
  | restarted earlier connects before now =>
    subst now
    have cleared : c.recordsAfter op id = { c.records id with sentHere := false, resent := 0 } := by
      cases op
      case connectSent | connectSentWithAuth => simp only [recordsAfter, connects, ↓reduceIte]
      all_goals exact connects.elim
    rw [cleared]
    exact ⟨fun some => absurd some (lt_irrefl 0), (consistent.tracked id earlier before).2⟩

theorem next_consistent (consistent : c.Consistent) (step : Steps next c op d) : d.Consistent := by
  simp only [Steps, next] at step
  split at step
  · rename_i permitted
    cases step
    refine ⟨?_, recordsAfter_published consistent op, fun id flow after => perform_tracked consistent permitted after⟩
    have v5 := consistent.v5
    simp only [Session.isV5, Session.perform_protocolVersion] at v5 ⊢
    exact v5
  · cases step

theorem publishesOnce_of_consistent (consistent : c.Consistent) : c.PublishesOnce := by
  refine ⟨consistent.once, fun id action granted => ?_⟩
  obtain ⟨asks, flow, present, uncharged, waiting, -⟩ := resendPublish_granted consistent.v5 granted
  obtain ⟨published, answered⟩ := consistent.tracked id flow present
  have none : ¬0 < (c.records id).published := by
    intro some
    cases (published some).symm.trans uncharged
  have unanswered : (c.records id).answered = false := by
    by_contra known
    rcases waiting with puback | pubrec
    · cases puback.symm.trans (answered (by simpa using known))
    · cases pubrec.symm.trans (answered (by simpa using known))
  simp only [PublishRecord.published, Nat.not_lt, Nat.le_zero, Nat.add_eq_zero_iff, Bool.toNat_eq_zero] at none
  exact ⟨asks, OrderedMap.contains_iff.mpr ⟨flow, present⟩, none.1, none.2, unanswered⟩

end Steps

def start (fresh : Session) : Resender :=
  { session := fresh, records := fun _ => { sentHere := false, resent := 0, answered := false } }

/-- Along every run of a v5.0 session, a PUBLISH goes out at most once per connection. -/
theorem publish_once {clientId : String} {cleanStart : Bool} {fresh : Session} {ops : List SessionOp} {c : Resender}
    (created : Session.new .v5 clientId cleanStart = .ok fresh) (run : Run (Steps next) (start fresh) ops c) :
    c.PublishesOnce := by
  rw [Session.new_eq_ok created] at run
  refine publishesOnce_of_consistent (run.invariant next_consistent ⟨rfl, fun _ => Nat.zero_le 1, ?_⟩)
  intro id flow present
  cases present

def resentOnceRun : List SessionOp :=
  [.connectSent, .applyConnack (.successV5 false none), .publishSent .exactlyOnce 1, .publishSent .atLeastOnce 2,
    .disconnected, .connectSent, .applyConnack (.successV5 true (some 1)), .resendPublish 1, .resendPublish 1,
    .resendPublish 2, .handlePubrec 1 0]

theorem resentOnceRun_once :
    ∃ c, Run (Steps next) (start (Session.initial .v5 "client" false)) resentOnceRun c ∧ c.PublishesOnce := by
  have created : Session.new .v5 "client" false = .ok (Session.initial .v5 "client" false) := rfl
  have completes : (runFrom next (start (Session.initial .v5 "client" false)) resentOnceRun).isSome = true := by decide
  obtain ⟨c, ends⟩ := Option.isSome_iff_exists.mp completes
  have run := run_of_runFrom ends
  exact ⟨c, run, publish_once created run⟩

end Resender

end MqttRs
