import MqttRs.Library.Replica
import MqttRs.Library.Runs
import MqttRs.State.TopicAlias

namespace MqttRs

namespace TopicAliasManager

def announce (t : TopicAliasManager) (topic : String) : Outcome Empty (String × UInt16) × TopicAliasManager :=
  match t.findAliasForTopic topic with
  | some topicAlias => (.ok ("", topicAlias), t)
  | none =>
    match t.registerForSend topic with
    | (.ok (some topicAlias), t) => (.ok (topic, topicAlias), t)
    | (.ok none, t) => (.ok (topic, 0), t)
    | (.panic, t) => (.panic, t)
    | (.hang, t) => (.hang, t)

def sendTable (t : TopicAliasManager) (topicAlias : UInt16) : Option String :=
  t.topicToAlias[topicAlias.toNat]?.join

def receiveTable (t : TopicAliasManager) (topicAlias : UInt16) : Option String :=
  t.aliasToTopic[topicAlias.toNat]?.join

def tableMessage (topicName : String) (topicAlias : UInt16) : TableMessage UInt16 String :=
  if topicAlias = 0 then .plain topicName
  else if topicName.isEmpty then .refer topicAlias
  else .define topicAlias topicName

def InRange (t : TopicAliasManager) : Prop :=
  ∀ (i : Nat) (topic : String), t.topicToAlias[i]?.join = some topic → 0 < i ∧ i ≤ t.peerMaximum.toNat

section Tables

variable {t : TopicAliasManager} {topic : String} {topicAlias : UInt16}

theorem ensureCapacity_lookup (table : List (Option String)) (index i : Nat) :
    (ensureCapacity table index)[i]?.join = table[i]?.join := by
  unfold ensureCapacity
  split
  · rcases Nat.lt_or_ge i table.length with inside | beyond
    · rw [List.getElem?_append_left inside]
    · rw [List.getElem?_append_right beyond, List.getElem?_eq_none beyond, List.getElem?_replicate]
      split <;> rfl
  · rfl

theorem lt_ensureCapacity (table : List (Option String)) (index : Nat) :
    index < (ensureCapacity table index).length := by
  unfold ensureCapacity
  split
  · rw [List.length_append, List.length_replicate]
    omega
  · omega

theorem set_lookup {table : List (Option String)} {index : Nat} (inside : index < table.length) (value : String)
    (i : Nat) : (table.set index (some value))[i]?.join = if i = index then some value else table[i]?.join := by
  rw [List.getElem?_set]
  by_cases same : i = index
  · subst same
    simp [inside]
  · simp [same, Ne.symm same]

theorem resolveOnReceive_eq {topicName : String} (within : topicAlias ≤ t.ownMaximum)
    (named : topicAlias = 0 → topicName.isEmpty = false) :
    (t.resolveOnReceive topicName topicAlias).1 = .ok ((tableMessage topicName topicAlias).read t.receiveTable) ∧
      (t.resolveOnReceive topicName topicAlias).2.receiveTable =
        (tableMessage topicName topicAlias).update t.receiveTable ∧
      (t.resolveOnReceive topicName topicAlias).2.ownMaximum = t.ownMaximum := by
  unfold resolveOnReceive tableMessage
  by_cases none : topicAlias = 0
  · simp [none, named none, TableMessage.read, TableMessage.update]
  · simp only [none, not_lt.mpr within, ↓reduceIte]
    cases empty : topicName.isEmpty with
    | true => exact ⟨rfl, rfl, rfl⟩
    | false =>
      have room := lt_ensureCapacity t.aliasToTopic topicAlias.toNat
      have inside : topicAlias.toNat < (t.ensureReceiveCapacity topicAlias.toNat).aliasToTopic.length := room
      simp only [Bool.false_eq_true, inside, ↓reduceIte]
      refine ⟨rfl, ?_, rfl⟩
      funext other
      simp only [receiveTable, TableMessage.update, Function.update_apply, set_lookup inside, UInt16.toNat_inj]
      split
      · rfl
      · exact ensureCapacity_lookup t.aliasToTopic topicAlias.toNat other.toNat

theorem findAliasFrom_some {max : UInt16} {i : Nat} {table : List (Option String)}
    (found : findAliasFrom max topic i table = some topicAlias) :
    ∃ j, table[j]? = some (some topic) ∧ topicAlias = UInt16.ofNat (i + j) ∧ 0 < topicAlias ∧ topicAlias ≤ max := by
  induction table generalizing i with
  | nil => cases found
  | cons entry rest ih =>
    simp only [findAliasFrom] at found
    split at found
    · rename_i here
      cases found
      exact ⟨0, by simp [here.1], rfl, here.2.1, here.2.2⟩
    · obtain ⟨j, known, same, bounds⟩ := ih found
      exact ⟨j + 1, by simpa using known, by rw [same, Nat.add_right_comm, Nat.add_assoc], bounds⟩

theorem findAliasForTopic_some (inRange : t.InRange) (found : t.findAliasForTopic topic = some topicAlias) :
    0 < topicAlias ∧ topicAlias ≤ t.peerMaximum ∧ t.sendTable topicAlias = some topic := by
  unfold findAliasForTopic at found
  split at found
  · cases found
  · obtain ⟨j, known, same, positive, within⟩ := findAliasFrom_some found
    have bound := (inRange j topic (by simp [known])).2
    have small := t.peerMaximum.toNat_lt
    have value : topicAlias.toNat = j := by
      rw [same, Nat.zero_add, UInt16.toNat_ofNat']
      exact Nat.mod_eq_of_lt (by omega)
    refine ⟨positive, within, ?_⟩
    rw [sendTable, value, known]
    rfl

theorem registerFrom_cases (topic : String) {turns i : Nat} (room : i + turns ≤ t.topicToAlias.length) :
    (∃ j, i ≤ j ∧ j < i + turns ∧ t.topicToAlias[j]? = some none ∧
      t.registerFrom topic turns i =
        (.ok (some (UInt16.ofNat j)), { t with topicToAlias := t.topicToAlias.set j (some topic) })) ∨
    t.registerFrom topic turns i = (.ok none, t) := by
  induction turns generalizing i with
  | zero => exact .inr rfl
  | succ turns ih =>
    have inside : i < t.topicToAlias.length := by omega
    cases known : t.topicToAlias[i] with
    | none =>
      have free : t.topicToAlias[i]? = some none := by rw [List.getElem?_eq_getElem inside, known]
      refine .inl ⟨i, Nat.le_refl i, by omega, free, ?_⟩
      simp only [registerFrom, free]
    | some taken =>
      have busy : t.topicToAlias[i]? = some (some taken) := by rw [List.getElem?_eq_getElem inside, known]
      rcases ih (show i + 1 + turns ≤ t.topicToAlias.length by omega) with ⟨j, lower, upper, free, result⟩ | none
      · refine .inl ⟨j, by omega, by omega, free, ?_⟩
        simp only [registerFrom, busy, result]
      · refine .inr ?_
        simp only [registerFrom, busy, none]

/-- A sender in step: the same peer maximum, aliases in range, and no alias taken back. -/
structure Extends (t u : TopicAliasManager) : Prop where
  peerMaximum : u.peerMaximum = t.peerMaximum
  inRange : u.InRange
  kept : ∀ topicAlias topic, t.sendTable topicAlias = some topic → u.sendTable topicAlias = some topic

theorem ensureSendCapacity_sendTable (t : TopicAliasManager) (max : Nat) :
    (t.ensureSendCapacity max).sendTable = t.sendTable := by
  funext other
  exact ensureCapacity_lookup t.topicToAlias max other.toNat

theorem InRange.ensureSendCapacity (inRange : t.InRange) (max : Nat) : (t.ensureSendCapacity max).InRange := by
  intro i topic known
  exact inRange i topic (ensureCapacity_lookup t.topicToAlias max i ▸ known)

theorem InRange.takes (inRange : t.InRange) {j : Nat} (lower : 0 < j) (upper : j ≤ t.peerMaximum.toNat)
    (free : t.topicToAlias[j]? = some none) (topic : String) :
    0 < UInt16.ofNat j ∧ UInt16.ofNat j ≤ t.peerMaximum ∧
      sendTable { t with topicToAlias := t.topicToAlias.set j (some topic) } =
        Function.update t.sendTable (UInt16.ofNat j) (some topic) ∧
      Extends t { t with topicToAlias := t.topicToAlias.set j (some topic) } := by
  have bound := t.peerMaximum.toNat_lt
  have value : (UInt16.ofNat j).toNat = j := by
    rw [UInt16.toNat_ofNat']
    exact Nat.mod_eq_of_lt (by omega)
  obtain ⟨inside, -⟩ := List.getElem?_eq_some_iff.mp free
  have unused : t.sendTable (UInt16.ofNat j) = none := by
    rw [sendTable, value, free]
    rfl
  have updated : sendTable { t with topicToAlias := t.topicToAlias.set j (some topic) } =
      Function.update t.sendTable (UInt16.ofNat j) (some topic) := by
    funext other
    have here : other.toNat = j ↔ other = UInt16.ofNat j := by rw [← UInt16.toNat_inj, value]
    rw [Function.update_apply]
    simp only [sendTable, set_lookup inside, here]
  refine ⟨?_, ?_, updated, rfl, ?_, ?_⟩
  · rw [UInt16.lt_iff_toNat_lt, value]
    exact lower
  · rw [UInt16.le_iff_toNat_le, value]
    exact upper
  · intro i other known
    simp only [set_lookup inside] at known
    split at known
    · rename_i here
      exact ⟨here ▸ lower, here ▸ upper⟩
    · exact inRange i other known
  · intro other known held
    rw [updated, Function.update_apply, if_neg]
    · exact held
    · rintro rfl
      cases unused.symm.trans held

theorem registerForSend_cases (inRange : t.InRange) (unknown : t.findAliasForTopic topic = none) :
    (∃ topicAlias u, t.registerForSend topic = (.ok (some topicAlias), u) ∧ 0 < topicAlias ∧
      topicAlias ≤ t.peerMaximum ∧ u.sendTable = Function.update t.sendTable topicAlias (some topic) ∧ Extends t u) ∨
    (∃ u, t.registerForSend topic = (.ok none, u) ∧ u.sendTable = t.sendTable ∧ Extends t u) := by
  have same := t.ensureSendCapacity_sendTable t.peerMaximum.toNat
  have grown := inRange.ensureSendCapacity t.peerMaximum.toNat
  by_cases off : t.peerMaximum = 0
  · exact .inr ⟨t, by simp [registerForSend, off], rfl, rfl, inRange, fun _ _ known => known⟩
  have capacity : 1 + t.peerMaximum.toNat ≤ (t.ensureSendCapacity t.peerMaximum.toNat).topicToAlias.length := by
    have room := lt_ensureCapacity t.topicToAlias t.peerMaximum.toNat
    simp only [ensureSendCapacity]
    omega
  have starts : t.registerForSend topic =
      registerFrom (t.ensureSendCapacity t.peerMaximum.toNat) topic t.peerMaximum.toNat 1 := by
    simp only [registerForSend, off, ↓reduceIte, unknown]
  rw [starts, ← same]
  rcases registerFrom_cases topic capacity with ⟨j, lower, upper, free, result⟩ | none
  · have fits : j ≤ t.peerMaximum.toNat := by omega
    obtain ⟨positive, within, updated, extended⟩ := grown.takes lower fits free topic
    exact .inl ⟨UInt16.ofNat j, _, result, positive, within, updated, extended.peerMaximum, extended.inRange,
      same ▸ extended.kept⟩
  · refine .inr ⟨_, none, rfl, rfl, grown, fun topicAlias topic known => ?_⟩
    rw [same]
    exact known

theorem announce_cases (inRange : t.InRange) (named : topic.isEmpty = false) :
    ∃ topicName topicAlias u, t.announce topic = (.ok (topicName, topicAlias), u) ∧
      (topicAlias = 0 → topicName = topic) ∧ topicAlias ≤ t.peerMaximum ∧
      (topicAlias ≠ 0 → u.sendTable topicAlias = some topic) ∧
      (tableMessage topicName topicAlias).read t.sendTable = some topic ∧
      u.sendTable = (tableMessage topicName topicAlias).update t.sendTable ∧ Extends t u := by
  have nonzero : ∀ topicAlias : UInt16, 0 < topicAlias → topicAlias ≠ 0 := fun topicAlias positive => (ne_of_lt positive).symm
  cases found : t.findAliasForTopic topic with
  | some topicAlias =>
    obtain ⟨positive, within, held⟩ := findAliasForTopic_some inRange found
    have message : tableMessage "" topicAlias = .refer topicAlias := by
      simp [tableMessage, nonzero topicAlias positive]
    refine ⟨"", topicAlias, t, by simp only [announce, found], fun zero => absurd zero (nonzero _ positive), within,
      fun _ => held, ?_, ?_, rfl, inRange, fun _ _ known => known⟩
    · rw [message]
      exact held
    · rw [message]
      rfl
  | none =>
    rcases registerForSend_cases inRange found with
      ⟨topicAlias, u, result, positive, within, updated, grows⟩ | ⟨u, result, same, grows⟩
    · have message : tableMessage topic topicAlias = .define topicAlias topic := by
        simp [tableMessage, nonzero topicAlias positive, named]
      refine ⟨topic, topicAlias, u, by simp only [announce, found, result], fun _ => rfl, within, fun _ => ?_, ?_, ?_,
        grows⟩
      · rw [updated, Function.update_self]
      · rw [message]
        rfl
      · rw [message]
        exact updated
    · refine ⟨topic, 0, u, by simp only [announce, found, result], fun _ => rfl, ?_, fun nonzero => absurd rfl nonzero,
        rfl, same, grows⟩
      exact UInt16.le_iff_toNat_le.mpr (Nat.zero_le _)

end Tables

end TopicAliasManager

structure AliasedPublish where
  topic : String
  topicName : String
  topicAlias : UInt16

/-- A sender and a receiver joined by a FIFO queue: everything sent so far, of which the receiver has resolved a
    first part. -/
structure AliasLink where
  sender : TopicAliasManager
  receiver : TopicAliasManager
  sent : List AliasedPublish
  resolved : List (Outcome Empty (Option String))

inductive AliasEvent where
  | publish (topic : String)
  | deliver

namespace AliasLink

def queue (l : AliasLink) : List AliasedPublish := l.sent.drop l.resolved.length

def next (l : AliasLink) : AliasEvent → Option AliasLink
  | .publish topic =>
    if topic.isEmpty then none
    else match l.sender.announce topic with
      | (.ok (topicName, topicAlias), sender) =>
        some { l with sender, sent := l.sent ++ [{ topic, topicName, topicAlias }] }
      | _ => none
  | .deliver =>
    match l.queue with
    | [] => none
    | message :: _ =>
      let (resolved, receiver) := l.receiver.resolveOnReceive message.topicName message.topicAlias
      some { l with receiver, resolved := l.resolved ++ [resolved] }

/-- Both sides without mappings, and a receiver that accepts every alias that the sender may use. -/
structure Fresh (max : UInt16) (sender receiver : TopicAliasManager) : Prop where
  peerMaximum : sender.peerMaximum = max
  ownMaximum : max ≤ receiver.ownMaximum
  sending : ∀ entry ∈ sender.topicToAlias, entry = none
  receiving : ∀ entry ∈ receiver.aliasToTopic, entry = none

def start (sender receiver : TopicAliasManager) : AliasLink := { sender, receiver, sent := [], resolved := [] }

/-- Everything resolved so far is the topic that was meant, aliases stay within the maximum and are never shared
    between topics, and no call of either side goes out of its table. -/
structure Agreed (max : UInt16) (l : AliasLink) : Prop where
  resolved : l.resolved = (l.sent.take l.resolved.length).map fun message => .ok (some message.topic)
  within : ∀ message ∈ l.sent, message.topicAlias = 0 ∧ message.topicName = message.topic ∨
    1 ≤ message.topicAlias ∧ message.topicAlias ≤ max
  unshared : ∀ first ∈ l.sent, ∀ second ∈ l.sent, first.topicAlias = second.topicAlias → first.topicAlias ≠ 0 →
    first.topic = second.topic
  distinct : ∀ first second topicAlias, l.sender.findAliasForTopic first = some topicAlias →
    l.sender.findAliasForTopic second = some topicAlias → first = second
  announces : ∀ topic, topic.isEmpty = false → ∃ message sender, l.sender.announce topic = (.ok message, sender)

/-- The messages in flight lead the receiver's table to the sender's. -/
structure InStep (max : UInt16) (l : AliasLink) : Prop where
  peerMaximum : l.sender.peerMaximum = max
  ownMaximum : max ≤ l.receiver.ownMaximum
  inRange : l.sender.InRange
  faithful : TableMessage.Faithful l.receiver.receiveTable
    (l.queue.map fun message =>
      (message.topic, TopicAliasManager.tableMessage message.topicName message.topicAlias)) l.sender.sendTable
  named : ∀ message ∈ l.sent, message.topic.isEmpty = false ∧
    (message.topicAlias = 0 → message.topicName = message.topic)
  held : ∀ message ∈ l.sent, message.topicAlias ≤ max ∧
    (message.topicAlias ≠ 0 → l.sender.sendTable message.topicAlias = some message.topic)
  resolved : l.resolved = (l.sent.take l.resolved.length).map fun message => .ok (some message.topic)
  caughtUp : l.resolved.length ≤ l.sent.length

section Steps

variable {max : UInt16} {l l' : AliasLink} {topic : String}

theorem publish_inStep (inStep : l.InStep max) (step : l.next (.publish topic) = some l') : l'.InStep max := by
  simp only [next] at step
  cases named : topic.isEmpty with
  | true => simp [named] at step
  | false =>
    obtain ⟨topicName, topicAlias, u, result, plain, within, table, means, updated, grows⟩ :=
      TopicAliasManager.announce_cases inStep.inRange named
    simp only [named, Bool.false_eq_true, ↓reduceIte, result] at step
    cases step
    have behind := inStep.caughtUp
    have queued : ∀ message : AliasedPublish,
        (l.sent ++ [message]).drop l.resolved.length = l.queue ++ [message] :=
      fun _ => List.drop_append_of_le_length behind
    refine ⟨grows.peerMaximum.trans inStep.peerMaximum, inStep.ownMaximum, grows.inRange, ?_, ?_, ?_, ?_, ?_⟩
    · have sent := inStep.faithful.send means
      rw [← updated] at sent
      rw [queue, queued, List.map_append]
      exact sent
    · intro message member
      rcases List.mem_append.mp member with old | last
      · exact inStep.named message old
      · obtain rfl := List.mem_singleton.mp last
        exact ⟨named, plain⟩
    · intro message member
      rcases List.mem_append.mp member with old | last
      · obtain ⟨bound, known⟩ := inStep.held message old
        exact ⟨bound, fun used => grows.kept _ _ (known used)⟩
      · obtain rfl := List.mem_singleton.mp last
        exact ⟨inStep.peerMaximum ▸ within, table⟩
    · rw [List.take_append_of_le_length behind]
      exact inStep.resolved
    · simp only [List.length_append]
      omega

theorem deliver_inStep (inStep : l.InStep max) (step : l.next .deliver = some l') : l'.InStep max := by
  simp only [next] at step
  cases queued : l.queue with
  | nil => simp [queued] at step
  | cons message rest =>
    simp only [queued] at step
    cases step
    have faithful := inStep.faithful
    rw [queued, List.map_cons] at faithful
    obtain ⟨means, later⟩ := faithful.deliver
    have ahead : l.resolved.length < l.sent.length := by
      by_contra full
      rw [queue, List.drop_eq_nil_of_le (Nat.not_lt.mp full)] at queued
      cases queued
    have here : l.sent[l.resolved.length]? = some message := by
      rw [← List.head?_drop]
      exact congrArg List.head? queued
    have member : message ∈ l.sent := List.mem_of_getElem? here
    obtain ⟨named, plain⟩ := inStep.named message member
    have within := le_trans (inStep.held message member).1 inStep.ownMaximum
    obtain ⟨answer, table, own⟩ := TopicAliasManager.resolveOnReceive_eq within
      (fun zero => (plain zero).symm ▸ named)
    rw [means] at answer
    refine ⟨inStep.peerMaximum, own ▸ inStep.ownMaximum, inStep.inRange, ?_, inStep.named, inStep.held, ?_, ?_⟩
    · have dequeued : l.sent.drop (l.resolved.length + 1) = rest := by
        rw [← List.tail_drop, show l.sent.drop l.resolved.length = message :: rest from queued]
        rfl
      rw [table, queue, List.length_append, List.length_singleton, dequeued]
      exact later
    · rw [answer, List.length_append, List.length_singleton, List.take_add_one, here, List.map_append,
        ← inStep.resolved]
      rfl
    · simp only [List.length_append, List.length_singleton]
      omega

theorem start_inStep {sender receiver : TopicAliasManager} (fresh : Fresh max sender receiver) :
    (start sender receiver).InStep max := by
  have empty : ∀ (table : List (Option String)) (i : Nat), (∀ entry ∈ table, entry = none) → table[i]?.join = none := by
    intro table i none
    cases known : table[i]? with
    | none => rfl
    | some entry =>
      rw [none entry (List.mem_of_getElem? known)]
      rfl
  refine ⟨fresh.peerMaximum, fresh.ownMaximum, ?_, ?_, by simp [start], by simp [start], rfl, Nat.le_refl _⟩
  · intro i topic known
    cases (empty _ i fresh.sending).symm.trans known
  · intro topicAlias topic known
    cases (empty _ _ fresh.sending).symm.trans known

theorem agreed_of_inStep (inStep : l.InStep max) : l.Agreed max := by
  refine ⟨inStep.resolved, fun message member => ?_, ?_, ?_, fun topic named => ?_⟩
  · obtain ⟨bound, -⟩ := inStep.held message member
    by_cases unused : message.topicAlias = 0
    · exact .inl ⟨unused, (inStep.named message member).2 unused⟩
    · refine .inr ⟨?_, bound⟩
      rw [UInt16.le_iff_toNat_le]
      exact Nat.one_le_iff_ne_zero.mpr fun zero => unused (UInt16.toNat_inj.mp zero)
  · intro first left second right same used
    have known := (inStep.held first left).2 used
    rw [same] at used known
    exact Option.some.inj (known.symm.trans ((inStep.held second right).2 used))
  · intro first second topicAlias left right
    have known := (TopicAliasManager.findAliasForTopic_some inStep.inRange left).2.2
    exact Option.some.inj (known.symm.trans (TopicAliasManager.findAliasForTopic_some inStep.inRange right).2.2)
  · obtain ⟨topicName, topicAlias, u, result, -⟩ := TopicAliasManager.announce_cases inStep.inRange named
    exact ⟨_, u, result⟩

theorem next_inStep {event : AliasEvent} (inStep : l.InStep max) (step : Steps next l event l') : l'.InStep max := by
  cases event with
  | publish topic => exact publish_inStep inStep step
  | deliver => exact deliver_inStep inStep step

end Steps

/-- For every sequence of topics and every interleaving with the receiver, each PUBLISH is resolved to the topic
    that it was sent for. -/
theorem aliases_agree {max : UInt16} {sender receiver : TopicAliasManager} (fresh : Fresh max sender receiver)
    {events : List AliasEvent} {l : AliasLink} (run : Run (Steps next) (start sender receiver) events l) :
    l.Agreed max :=
  agreed_of_inStep (run.invariant next_inStep (start_inStep fresh))

def sharedAliasesRun : List AliasEvent :=
  [.publish "a", .publish "b", .deliver, .publish "a", .publish "c", .publish "b", .deliver, .deliver, .deliver,
    .deliver]

theorem sharedAliasesRun_agrees :
    ∃ l, Run (Steps next) (start (TopicAliasManager.new.setPeerMaximum 2) (TopicAliasManager.new.setOwnMaximum 3))
        sharedAliasesRun l ∧ l.Agreed 2 := by
  have fresh : Fresh 2 (TopicAliasManager.new.setPeerMaximum 2) (TopicAliasManager.new.setOwnMaximum 3) :=
    ⟨rfl, by decide, by decide, by decide⟩
  have completes : (runFrom next
      (start (TopicAliasManager.new.setPeerMaximum 2) (TopicAliasManager.new.setOwnMaximum 3))
      sharedAliasesRun).isSome = true := by decide
  obtain ⟨l, ends⟩ := Option.isSome_iff_exists.mp completes
  have run := run_of_runFrom ends
  exact ⟨l, run, aliases_agree fresh run⟩

end AliasLink

end MqttRs
