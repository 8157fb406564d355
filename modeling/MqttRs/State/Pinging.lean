import Mathlib.Data.List.Chain
import MqttRs.State.Session.Connack
import MqttRs.State.Session.Ops

namespace MqttRs

namespace KeepAlive

variable {k : KeepAlive} {now : Timestamp}

theorem hasTimedOut_iff : k.hasTimedOut now = true ↔
    k.keepAliveSecs ≠ 0 ∧ ∃ sentAt, k.pingreqSentAt = some sentAt ∧ k.keepAliveSecs.toNat * 1000 ≤ elapsed now sentAt := by
  unfold hasTimedOut
  by_cases disabled : k.keepAliveSecs = 0
  · simp [disabled]
  · cases sent : k.pingreqSentAt <;> simp [disabled]

theorem shouldSendPingreq_iff : k.shouldSendPingreq now = true ↔
    k.keepAliveSecs ≠ 0 ∧ k.keepAliveSecs.toNat * 1000 ≤ elapsed now k.lastActivity := by
  unfold shouldSendPingreq
  by_cases disabled : k.keepAliveSecs = 0 <;> simp [disabled]

theorem elapsed_mono {earlier later : Timestamp} (order : earlier ≤ later) (now : Timestamp) :
    elapsed now later ≤ elapsed now earlier :=
  Nat.sub_le_sub_left (UInt64.le_iff_toNat_le.mp order) _

def tick (k : KeepAlive) : Nat :=
  if k.keepAliveSecs = 0 then 1000 else max (k.keepAliveSecs.toNat * 1000 / 4) 200

end KeepAlive

namespace Session

inductive KeepAliveCheck where
  | timedOut
  | pingreq
  | idle
  deriving DecidableEq

/-- `check_keep_alive` of the client: a PINGREQ is due only when the last one is not overdue. -/
def checkKeepAlive (s : Session) (now : Timestamp) : KeepAliveCheck × Session :=
  if s.keepAlive.hasTimedOut now then (.timedOut, s)
  else if s.keepAlive.shouldSendPingreq now then (.pingreq, s.pingreqSent now)
  else (.idle, s)

theorem checkKeepAlive_cases (s : Session) (now : Timestamp) :
    (s.keepAlive.hasTimedOut now = true ∧ s.checkKeepAlive now = (.timedOut, s)) ∨
    (s.keepAlive.hasTimedOut now = false ∧ s.keepAlive.shouldSendPingreq now = true ∧
      s.checkKeepAlive now = (.pingreq, s.pingreqSent now)) ∨
    (s.keepAlive.hasTimedOut now = false ∧ s.keepAlive.shouldSendPingreq now = false ∧
      s.checkKeepAlive now = (.idle, s)) := by
  unfold checkKeepAlive
  cases s.keepAlive.hasTimedOut now <;> cases s.keepAlive.shouldSendPingreq now <;> simp

def movesTimer : SessionOp → Bool
  | .configureForConnect _ _ _ _ _ | .applyConnack _ | .connectSent | .connectSentWithAuth _ => true
  | .pingrespReceived | .pingreqSent _ | .activity _ | .reset => true
  | _ => false

variable {s : Session} {now : Timestamp}

theorem countIncoming_keepAlive (s : Session) (packetId : UInt16) :
    (s.countIncoming packetId).2.keepAlive = s.keepAlive := by
  rcases s.countIncoming_cases packetId with ⟨-, result⟩ | ⟨-, -, result⟩ | ⟨-, -, result⟩ <;> rw [result]

theorem perform_keepAlive (s : Session) {op : SessionOp} (other : movesTimer op = false) :
    (s.perform op).keepAlive = s.keepAlive := by
  cases op
  case connected sessionPresent =>
    simp only [perform, connected]
    split <;> rfl
  case handlePuback id =>
    rcases s.handlePuback_cases id with ⟨flow, -, -, result⟩ | result | result <;> rw [perform, result]
    rfl
  case handlePubcomp id =>
    rcases s.handlePubcomp_cases id with ⟨flow, -, -, result⟩ | result | result <;> rw [perform, result]
    rfl
  case handlePubrec id reasonCode =>
    rcases s.handlePubrec_cases id reasonCode with
      ⟨flow, -, -, -, result⟩ | ⟨flow, -, -, -, result⟩ | result | result | result <;> rw [perform, result] <;> rfl
  case handlePublishQos1 id =>
    have counted := s.countIncoming_keepAlive id
    simp only [perform, handlePublishQos1]
    split <;> rename_i result <;> rw [result] at counted <;> exact counted
  case handlePublishQos2 id =>
    have counted := s.countIncoming_keepAlive id
    simp only [perform, handlePublishQos2]
    split <;> rename_i result <;> rw [result] at counted <;> exact counted
  case pubrecSent reasonCode =>
    simp only [perform, pubrecSent]
    split <;> rfl
  case resendPublish id =>
    rcases s.resendPublish_cases id with ⟨flow, -, -, -, result⟩ | same
    · rw [perform, result]
    · rw [perform, same]
  case publishSent qos id =>
    rcases s.publishSent_cases qos id with ⟨-, -, -, result⟩ | ⟨reason, result⟩ <;> rw [perform, result]
  case handleSuback =>
    simp only [perform, handleSuback]
    split <;> rfl
  case handleUnsuback =>
    simp only [perform, handleUnsuback]
    split <;> rfl
  case configureForConnect | applyConnack | connectSent | connectSentWithAuth | pingrespReceived | pingreqSent |
    activity | reset => cases other
  all_goals rfl

theorem configureForConnect_keepAlive (s : Session) (secs : UInt16) (expiry : UInt32) (aliases receive : UInt16)
    (size : UInt32) : (s.configureForConnect secs expiry aliases receive size).2.keepAlive = s.keepAlive.setKeepAlive secs := by
  simp only [configureForConnect]
  split
  · rfl
  · split <;> rfl

theorem applyConnack_keepAlive (s : Session) (params : ConnackParams) :
    ∃ secs, (s.applyConnack params).2.keepAlive = s.keepAlive.setKeepAlive secs := by
  rcases s.applyConnack_cases params with ⟨-, -, accepted⟩ | ⟨-, same⟩
  · rw [accepted, acceptConnack_eq]
    refine ⟨params.serverKeepAlive.getD s.keepAlive.keepAliveSecs, ?_⟩
    cases known : params.serverKeepAlive <;> simp [applyParams, known, KeepAlive.setKeepAlive]
  · rw [same]
    exact ⟨s.keepAlive.keepAliveSecs, rfl⟩

def setsActivity : SessionOp → Bool
  | .pingreqSent _ | .activity _ | .reset => true
  | _ => false

theorem perform_lastActivity (s : Session) {op : SessionOp} (other : setsActivity op = false) :
    (s.perform op).keepAlive.lastActivity = s.keepAlive.lastActivity := by
  cases moves : movesTimer op with
  | false => rw [s.perform_keepAlive moves]
  | true =>
    cases op
    case configureForConnect secs expiry aliases receive size =>
      rw [perform, s.configureForConnect_keepAlive]
      rfl
    case applyConnack params =>
      obtain ⟨secs, set⟩ := s.applyConnack_keepAlive params
      rw [perform, set]
      rfl
    case connectSentWithAuth method =>
      simp only [perform, connectSentWithAuth]
      split <;> rfl
    case connectSent | pingrespReceived => rfl
    case pingreqSent | activity | reset => cases other
    all_goals cases moves

end Session

/-- A session whose caller checks the timer as the client does, with a clock that never goes back. -/
structure Pinger where
  session : Session
  clock : Timestamp
  /-- When the PINGREQ packets of this connection were sent that no PINGRESP has followed. -/
  unanswered : List Timestamp
  deriving DecidableEq

inductive PingerOp where
  | call (op : SessionOp)
  | check (now : Timestamp)

namespace Pinger

def start (version : MqttVersion) (clientId : String) (cleanStart : Bool) : Pinger where
  session := .initial version clientId cleanStart
  clock := 0
  unanswered := []

def answers (s : Session) : SessionOp → Bool
  | .pingrespReceived | .connectSent | .reset => true
  | .connectSentWithAuth _ => s.isV5
  | _ => false

def next (p : Pinger) : PingerOp → Option Pinger
  | .check now =>
    if now < p.clock then none
    else match p.session.checkKeepAlive now with
      | (.pingreq, session) => some { session, clock := now, unanswered := p.unanswered ++ [now] }
      | (_, session) => some { p with session, clock := now }
  | .call (.pingreqSent _) => none
  | .call (.activity now) =>
    if now < p.clock then none else some { p with session := p.session.activity now, clock := now }
  | .call op =>
    some { p with
      session := p.session.perform op
      unanswered := if answers p.session op then [] else p.unanswered }

/-- The timer knows the PINGREQ that waits, and nothing was sent before it that it takes for later. -/
structure Timed (p : Pinger) : Prop where
  awaiting : p.session.keepAlive.pingreqSentAt.toList = p.unanswered
  first : ∀ sentAt ∈ p.unanswered, sentAt ≤ p.session.keepAlive.lastActivity
  past : p.session.keepAlive.lastActivity ≤ p.clock

variable {p q : Pinger} {op : PingerOp} {now : Timestamp}

theorem start_timed (version : MqttVersion) (clientId : String) (cleanStart : Bool) :
    (start version clientId cleanStart).Timed where
  awaiting := rfl
  first _ member := absurd member List.not_mem_nil
  past := UInt64.le_refl 0

theorem Timed.sentAt_iff (timed : p.Timed) {sentAt : Timestamp} :
    p.session.keepAlive.pingreqSentAt = some sentAt ↔ sentAt ∈ p.unanswered := by
  rw [← timed.awaiting, Option.mem_toList]

theorem Timed.answered (timed : p.Timed) (onTime : p.session.keepAlive.hasTimedOut now = false)
    (due : p.session.keepAlive.shouldSendPingreq now = true) : p.unanswered = [] := by
  obtain ⟨enabled, quiet⟩ := KeepAlive.shouldSendPingreq_iff.mp due
  rw [List.eq_nil_iff_forall_not_mem]
  intro sentAt member
  have overdue : p.session.keepAlive.hasTimedOut now = true := by
    refine KeepAlive.hasTimedOut_iff.mpr ⟨enabled, sentAt, timed.sentAt_iff.mpr member, ?_⟩
    exact Nat.le_trans quiet (KeepAlive.elapsed_mono (timed.first _ member) now)
  rw [onTime] at overdue
  cases overdue

theorem Timed.check (timed : p.Timed) (step : Steps next p (.check now) q) : q.Timed := by
  simp only [Steps, next] at step
  split at step
  · cases step
  · rename_i order
    have order := UInt64.not_lt.mp order
    rcases p.session.checkKeepAlive_cases now with ⟨-, result⟩ | ⟨onTime, due, result⟩ | ⟨-, -, result⟩ <;>
      rw [result] at step <;> cases step
    · exact ⟨timed.awaiting, timed.first, UInt64.le_trans timed.past order⟩
    · rw [timed.answered onTime due]
      refine ⟨rfl, ?_, UInt64.le_refl now⟩
      intro sentAt member
      rw [List.nil_append, List.mem_singleton] at member
      rw [member]
      exact UInt64.le_refl now
    · exact ⟨timed.awaiting, timed.first, UInt64.le_trans timed.past order⟩

theorem Timed.keep {session : Session} {secs : UInt16} (timed : p.Timed)
    (set : session.keepAlive = p.session.keepAlive.setKeepAlive secs) : Timed { p with session } := by
  refine ⟨?_, ?_, ?_⟩
  · rw [set]
    exact timed.awaiting
  · rw [set]
    exact timed.first
  · rw [set]
    exact timed.past

theorem Timed.forget {session : Session} (timed : p.Timed) (awaiting : session.keepAlive.pingreqSentAt = none)
    (activity : session.keepAlive.lastActivity ≤ p.session.keepAlive.lastActivity) :
    Timed { p with session, unanswered := [] } := by
  refine ⟨?_, fun _ member => absurd member List.not_mem_nil, UInt64.le_trans activity timed.past⟩
  rw [awaiting]
  rfl

theorem next_timed (timed : p.Timed) (step : Steps next p op q) : q.Timed := by
  cases op with
  | check now => exact timed.check step
  | call op =>
    cases moves : Session.movesTimer op with
    | false =>
      have same := p.session.perform_keepAlive moves
      have quiet : answers p.session op = false := by
        cases op <;> first | rfl | cases moves
      have kept : some { p with session := p.session.perform op } = some q := by
        rw [← step]
        cases op <;> first | rfl | cases moves
      cases kept
      exact @Timed.keep p _ p.session.keepAlive.keepAliveSecs timed same
    | true =>
      cases op
      case configureForConnect secs expiry aliases receive size =>
        cases step
        exact timed.keep (p.session.configureForConnect_keepAlive secs expiry aliases receive size)
      case applyConnack params =>
        cases step
        obtain ⟨secs, set⟩ := p.session.applyConnack_keepAlive params
        exact timed.keep set
      case connectSent =>
        cases step
        exact timed.forget rfl (UInt64.le_refl _)
      case connectSentWithAuth method =>
        cases step
        cases version : p.session.isV5 with
        | true =>
          simp only [answers, version, ↓reduceIte, Session.perform, Session.connectSentWithAuth, Bool.not_true]
          exact timed.forget rfl (UInt64.le_refl _)
        | false =>
          simp only [answers, version, Session.perform, Session.connectSentWithAuth, Bool.not_false, ↓reduceIte]
          exact timed
      case pingrespReceived =>
        cases step
        exact timed.forget rfl (UInt64.le_refl _)
      case pingreqSent => cases step
      case activity now =>
        simp only [Steps, next] at step
        split at step
        · cases step
        · rename_i order
          have order := UInt64.not_lt.mp order
          cases step
          refine ⟨timed.awaiting, ?_, UInt64.le_refl now⟩
          intro sentAt member
          exact UInt64.le_trans (UInt64.le_trans (timed.first _ member) timed.past) order
      case reset =>
        cases step
        exact timed.forget rfl UInt64.zero_le
      all_goals cases moves

/-- However the calls and the checks follow each other, at most one PINGREQ waits for its PINGRESP, a further one is sent
    only when none waits, and a check gives up exactly when one has waited for the whole interval. -/
theorem pingreq_answered {version : MqttVersion} {clientId : String} {cleanStart : Bool} {ops : List PingerOp}
    (run : Run (Steps next) (start version clientId cleanStart) ops p) :
    p.unanswered.length ≤ 1 ∧
      ∀ now, ((p.session.checkKeepAlive now).1 = .pingreq → p.unanswered = []) ∧
        ((p.session.checkKeepAlive now).1 = .timedOut ↔ p.session.keepAlive.keepAliveSecs ≠ 0 ∧
          ∃ sentAt ∈ p.unanswered, p.session.keepAlive.keepAliveSecs.toNat * 1000 ≤ KeepAlive.elapsed now sentAt) := by
  have timed := run.invariant next_timed (start_timed version clientId cleanStart)
  constructor
  · rw [← timed.awaiting]
    cases p.session.keepAlive.pingreqSentAt <;> simp
  · intro now
    have overdue := @KeepAlive.hasTimedOut_iff p.session.keepAlive now
    simp only [timed.sentAt_iff] at overdue
    rw [← overdue]
    rcases p.session.checkKeepAlive_cases now with ⟨late, result⟩ | ⟨onTime, due, result⟩ | ⟨onTime, -, result⟩ <;> rw [result]
    · exact ⟨nofun, fun _ => late, fun _ => rfl⟩
    · refine ⟨fun _ => timed.answered onTime due, ?_⟩
      simp [onTime]
    · simp [onTime]

def silentServerRun : List PingerOp :=
  [.call (.configureForConnect 10 0 0 65535 0), .call .connectSent, .call (.activity 5),
    .call (.applyConnack (.successV5 false none)), .check 10004, .check 10005, .check 15000]

theorem silentServerRun_answered :
    ∃ p, Run (Steps next) (start .v5 "c" true) silentServerRun p ∧ (p.session.checkKeepAlive 20005).1 = .timedOut ∧
      p.unanswered.length ≤ 1 ∧
      ∀ now, ((p.session.checkKeepAlive now).1 = .pingreq → p.unanswered = []) ∧
        ((p.session.checkKeepAlive now).1 = .timedOut ↔ p.session.keepAlive.keepAliveSecs ≠ 0 ∧
          ∃ sentAt ∈ p.unanswered, p.session.keepAlive.keepAliveSecs.toNat * 1000 ≤ KeepAlive.elapsed now sentAt) := by
  have completes : (runFrom next (start .v5 "c" true) silentServerRun).any (fun p =>
      decide ((p.session.checkKeepAlive 20005).1 = .timedOut)) = true := by decide
  obtain ⟨p, ends, late⟩ := (Option.any_eq_true _ _).mp completes
  have run := run_of_runFrom ends
  exact ⟨p, run, of_decide_eq_true late, pingreq_answered run⟩

end Pinger

/-- A connected session whose caller checks the timer again and again. -/
structure PacedClient where
  session : Session
  clock : Timestamp
  lastCheck : Timestamp
  /-- When control packets were sent, the latest one last. -/
  sent : List Timestamp
  deriving DecidableEq

namespace PacedClient

def start (s : Session) (now : Timestamp) : PacedClient where
  session := s.activity now
  clock := now
  lastCheck := now
  sent := [now]

def inTime (delay : Nat) (p : PacedClient) (now : Timestamp) : Bool :=
  p.clock ≤ now && now.toNat ≤ p.lastCheck.toNat + p.session.keepAlive.tick + delay

def intervalWithin (bound : Nat) (s : Session) : Bool :=
  s.keepAlive.keepAliveSecs ≠ 0 && s.keepAlive.keepAliveSecs.toNat ≤ bound

def next (bound delay : Nat) (p : PacedClient) : PingerOp → Option PacedClient
  | .check now =>
    if p.inTime delay now then
      match p.session.checkKeepAlive now with
      | (.timedOut, _) => none
      | (.pingreq, session) => some { session, clock := now, lastCheck := now, sent := p.sent ++ [now] }
      | (.idle, session) => some { p with session, clock := now, lastCheck := now }
    else none
  | .call (.activity now) =>
    if p.inTime delay now then some { p with session := p.session.activity now, clock := now, sent := p.sent ++ [now] }
    else none
  | .call (.pingreqSent _) | .call .reset => none
  | .call op =>
    if intervalWithin bound (p.session.perform op) then some { p with session := p.session.perform op } else none

/-- No packet is late so far, and none is at the time of the next check. -/
structure InPace (bound delay : Nat) (p : PacedClient) : Prop where
  interval : intervalWithin bound p.session = true
  last : p.sent.getLast? = some p.session.keepAlive.lastActivity
  activity : p.session.keepAlive.lastActivity ≤ p.clock
  checked : p.lastCheck ≤ p.clock
  quiet : p.lastCheck.toNat < p.session.keepAlive.lastActivity.toNat + bound * 1000
  soon : p.clock.toNat < p.session.keepAlive.lastActivity.toNat + (bound * 1250 + delay)
  gaps : p.sent.IsChain fun earlier later => later.toNat < earlier.toNat + (bound * 1250 + delay)

variable {bound delay : Nat} {s : Session} {p q : PacedClient} {op : PingerOp} {now : Timestamp}

theorem intervalWithin_iff : intervalWithin bound s = true ↔
    s.keepAlive.keepAliveSecs ≠ 0 ∧ s.keepAlive.keepAliveSecs.toNat ≤ bound := by
  simp [intervalWithin]

theorem tick_le (within : intervalWithin bound s = true) : s.keepAlive.tick ≤ bound * 250 := by
  obtain ⟨enabled, small⟩ := intervalWithin_iff.mp within
  have positive : s.keepAlive.keepAliveSecs.toNat ≠ 0 := fun zero => enabled (UInt16.toNat_inj.mp zero)
  rw [KeepAlive.tick, if_neg enabled]
  omega

theorem start_inPace (within : intervalWithin bound s = true) (delay : Nat) (now : Timestamp) :
    (start s now).InPace bound delay := by
  obtain ⟨enabled, small⟩ := intervalWithin_iff.mp within
  have positive : s.keepAlive.keepAliveSecs.toNat ≠ 0 := fun zero => enabled (UInt16.toNat_inj.mp zero)
  refine ⟨within, rfl, UInt64.le_refl now, UInt64.le_refl now, ?_, ?_, List.isChain_singleton now⟩
  · show now.toNat < now.toNat + bound * 1000
    omega
  · show now.toNat < now.toNat + (bound * 1250 + delay)
    omega

theorem inTime_iff : p.inTime delay now = true ↔
    p.clock ≤ now ∧ now.toNat ≤ p.lastCheck.toNat + p.session.keepAlive.tick + delay := by
  simp [inTime]

theorem InPace.soon_now (pace : p.InPace bound delay) (inTime : p.inTime delay now = true) :
    now.toNat < p.session.keepAlive.lastActivity.toNat + (bound * 1250 + delay) := by
  have quiet := pace.quiet
  have tick := tick_le pace.interval
  have due := (inTime_iff.mp inTime).2
  omega

theorem InPace.send {session : Session} {lastCheck : Timestamp} (pace : p.InPace bound delay)
    (inTime : p.inTime delay now = true) (within : intervalWithin bound session = true)
    (activity : session.keepAlive.lastActivity = now) (checked : lastCheck ≤ now) :
    InPace bound delay { session, clock := now, lastCheck, sent := p.sent ++ [now] } := by
  obtain ⟨enabled, small⟩ := intervalWithin_iff.mp within
  have positive : session.keepAlive.keepAliveSecs.toNat ≠ 0 := fun zero => enabled (UInt16.toNat_inj.mp zero)
  have checkedNat := UInt64.le_iff_toNat_le.mp checked
  refine ⟨within, ?_, ?_, checked, ?_, ?_, ?_⟩
  · rw [activity, List.getLast?_append, List.getLast?_singleton]
    rfl
  · rw [activity]
    exact UInt64.le_refl now
  · simp only [activity]
    omega
  · simp only [activity]
    omega
  · refine List.isChain_append.mpr ⟨pace.gaps, List.isChain_singleton now, ?_⟩
    intro earlier latest later first
    rw [pace.last, Option.mem_some] at latest
    rw [List.head?_cons, Option.mem_some] at first
    rw [← latest, ← first]
    exact pace.soon_now inTime

theorem next_inPace (pace : p.InPace bound delay) (step : Steps (next bound delay) p op q) : q.InPace bound delay := by
  cases op with
  | check now =>
    simp only [Steps, next] at step
    split at step
    · rename_i inTime
      obtain ⟨order, -⟩ := inTime_iff.mp inTime
      rcases p.session.checkKeepAlive_cases now with ⟨-, result⟩ | ⟨-, -, result⟩ | ⟨-, early, result⟩ <;>
        rw [result] at step <;> cases step
      · exact pace.send inTime pace.interval rfl (UInt64.le_refl now)
      · obtain ⟨enabled, small⟩ := intervalWithin_iff.mp pace.interval
        have quiet : now.toNat < p.session.keepAlive.lastActivity.toNat + bound * 1000 := by
          have notDue := mt KeepAlive.shouldSendPingreq_iff.mpr (Bool.eq_false_iff.mp early)
          rw [not_and, KeepAlive.elapsed] at notDue
          have short := notDue enabled
          omega
        exact ⟨pace.interval, pace.last, UInt64.le_trans pace.activity order, UInt64.le_refl now, quiet,
          pace.soon_now inTime, pace.gaps⟩
    · cases step
  | call op =>
    cases sets : Session.setsActivity op with
    | false =>
      have same := p.session.perform_lastActivity sets
      have kept : (if intervalWithin bound (p.session.perform op) then some { p with session := p.session.perform op }
          else none) = some q := by
        rw [← step]
        cases op <;> first | rfl | cases sets
      split at kept
      · rename_i within
        cases kept
        exact ⟨within, same ▸ pace.last, same ▸ pace.activity, pace.checked, same ▸ pace.quiet, same ▸ pace.soon, pace.gaps⟩
      · cases kept
    | true =>
      cases op
      case activity now =>
        simp only [Steps, next] at step
        split at step
        · rename_i inTime
          cases step
          exact pace.send inTime pace.interval rfl (UInt64.le_trans pace.checked (inTime_iff.mp inTime).1)
        · cases step
      case pingreqSent | reset => cases step
      all_goals cases sets

/-- As long as the checks come in time, a client never leaves the server without a packet for 1.25 times the Keep Alive
    interval, where the server waits for 1.5 times of it. -/
theorem packets_in_pace {ops : List PingerOp} (within : intervalWithin bound s = true)
    (run : Run (Steps (next bound delay)) (start s now) ops p) :
    p.sent.IsChain (fun earlier later => later.toNat < earlier.toNat + (bound * 1250 + delay)) ∧
      ∃ latest, p.sent.getLast? = some latest ∧ p.clock.toNat < latest.toNat + (bound * 1250 + delay) := by
  have pace := run.invariant next_inPace (start_inPace within delay now)
  exact ⟨pace.gaps, _, pace.last, pace.soon⟩

def idleRun : List PingerOp :=
  [.check 6000, .check 12000, .check 18000, .check 24000, .call .pingrespReceived, .call (.activity 31000), .check 31500]

theorem idleRun_in_pace :
    ∃ p, Run (Steps (next 20 2500)) (start { Session.initial .v5 "c" true with keepAlive := .new 20 } 1000) idleRun p ∧
      p.sent = [1000, 24000, 31000] ∧
      p.sent.IsChain (fun earlier later => later.toNat < earlier.toNat + (20 * 1250 + 2500)) ∧
      ∃ latest, p.sent.getLast? = some latest ∧ p.clock.toNat < latest.toNat + (20 * 1250 + 2500) := by
  have completes : (runFrom (next 20 2500) (start { Session.initial .v5 "c" true with keepAlive := .new 20 } 1000)
      idleRun).any (fun p => decide (p.sent = [1000, 24000, 31000])) = true := by decide
  obtain ⟨p, ends, sent⟩ := (Option.any_eq_true _ _).mp completes
  have run := run_of_runFrom ends
  exact ⟨p, run, of_decide_eq_true sent, packets_in_pace (by decide) run⟩

end PacedClient

end MqttRs
