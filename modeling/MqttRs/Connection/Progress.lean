import MqttRs.Connection.Safety

namespace MqttRs

namespace Connection

open V5.IncomingPacket (carried reply message)

variable {c d : Connection} {limits : Side → Limits} {queue : Side → List V5.IncomingPacket}
  {talks : Side → Conversation} {side : Side} {packet : V5.IncomingPacket} {rest : List V5.IncomingPacket}

theorem work_eq_zero :
    work queue talks = 0 ↔ ∀ side, (talks side).work = 0 ∧ (queue side).countP plain = 0 := by
  simp only [work, sideWork, Nat.add_eq_zero_iff]
  constructor
  · rintro ⟨near, far⟩ (_ | _)
    · exact near
    · exact far
  · exact fun each => ⟨each .near, each .far⟩

/-- Everything that was published has arrived and is acknowledged, and nothing is left on the lines. -/
structure Quiet (c : Connection) : Prop where
  arrived : ∀ side, c.accepted side = c.published side
  lines : ∀ side, (c.lines side).decoder.pending = [] ∧ (c.lines side).transit = []
  outgoing : ∀ side, (c.session side).qosFlow.outgoing = .empty
  incoming : ∀ side, (c.session side).qosFlow.incoming = .empty
  sendQuota : ∀ side, (c.session side).outstanding = 0
  receiveQuota : ∀ side, (c.session side).flowControl.incomingCount = 0

theorem queue_of_work_zero (spoken : c.Spoken limits queue talks) (done : work queue talks = 0) (side : Side) :
    queue side = [] := by
  obtain ⟨idle, noPlain⟩ := work_eq_zero.mp done side
  have sends : (queue side).filterMap carried = [] := by
    rw [← (spoken.carries side).forward, (Conversation.work_eq_zero.mp idle).1, List.map_nil]
  have replies : (queue side).filterMap reply = [] := by
    have backward := (spoken.carries side.other).backward
    rw [Side.other_other] at backward
    rw [← backward, (Conversation.work_eq_zero.mp (work_eq_zero.mp done side.other).1).2.1]
  refine List.eq_nil_iff_forall_not_mem.mpr fun packet member => ?_
  apply List.countP_eq_zero.mp noPlain packet member
  rw [plain, List.filterMap_eq_nil_iff.mp sends packet member, List.filterMap_eq_nil_iff.mp replies packet member]
  rfl

theorem quiet_of_work_zero (agrees : c.Agrees limits queue talks) (done : work queue talks = 0) : c.Quiet := by
  have empty := queue_of_work_zero agrees.spoken done
  have quiet (side : Side) : (talks side).Quiet :=
    Conversation.quiet_of_work_zero (agrees.spoken.carries side).steady (work_eq_zero.mp done side).1
  constructor <;> intro side
  · have arrived := agrees.spoken.inOrder side
    rwa [empty, List.filterMap_nil, List.append_nil] at arrived
  · have bytes := (agrees.wired.holds side).bytes
    rw [empty, List.map_nil, List.map_nil] at bytes
    exact List.append_eq_nil_iff.mp bytes.eq_nil
  · rw [session, ← (agrees.spoken.carries side).publisher]
    exact (quiet side).outgoing
  · have incoming := (quiet side.other).incoming
    rwa [(agrees.spoken.carries side.other).subscriber, Side.other_other] at incoming
  · rw [session, ← (agrees.spoken.carries side).publisher]
    exact (quiet side).sendQuota
  · have uncounted := (quiet side.other).receiveQuota
    rw [Conversation.incomingCount, (agrees.spoken.carries side.other).subscriber, Side.other_other] at uncounted
    exact UInt16.toNat_inj.mp uncounted

end Connection

end MqttRs
