import MqttRs.Library.MachineInt
import MqttRs.Library.Outcome

namespace MqttRs

structure TopicAliasManager where
  aliasToTopic : List (Option String)
  topicToAlias : List (Option String)
  ownMaximum : UInt16
  peerMaximum : UInt16
  deriving DecidableEq

namespace TopicAliasManager

def new : TopicAliasManager := { aliasToTopic := [], topicToAlias := [], ownMaximum := 0, peerMaximum := 0 }

/-- `if vec.len() <= index { vec.resize(index + 1, None) }` -/
def ensureCapacity (table : List (Option String)) (index : Nat) : List (Option String) :=
  if table.length ≤ index then table ++ List.replicate (index + 1 - table.length) none else table

def ensureReceiveCapacity (t : TopicAliasManager) (index : Nat) : TopicAliasManager :=
  { t with aliasToTopic := ensureCapacity t.aliasToTopic index }

def ensureSendCapacity (t : TopicAliasManager) (index : Nat) : TopicAliasManager :=
  { t with topicToAlias := ensureCapacity t.topicToAlias index }

def setOwnMaximum (t : TopicAliasManager) (max : UInt16) : TopicAliasManager :=
  { t with ownMaximum := max }.ensureReceiveCapacity max.toNat

def setPeerMaximum (t : TopicAliasManager) (max : UInt16) : TopicAliasManager :=
  { t with peerMaximum := max }.ensureSendCapacity max.toNat

def resolveOnReceive (t : TopicAliasManager) (topicName : String) (topicAlias : UInt16) :
    Outcome Empty (Option String) × TopicAliasManager :=
  if topicAlias = 0 then
    if topicName.isEmpty then (.ok none, t) else (.ok (some topicName), t)
  else if t.ownMaximum < topicAlias then (.ok none, t)
  else if topicName.isEmpty then (.ok (t.aliasToTopic[topicAlias.toNat]?.join), t)
  else
    let t := t.ensureReceiveCapacity topicAlias.toNat
    if topicAlias.toNat < t.aliasToTopic.length then
      (.ok (some topicName),
        { t with aliasToTopic := t.aliasToTopic.set topicAlias.toNat (some topicName) })
    else (.panic, t)

/-- The search of `find_alias_for_topic` from index `i` on. -/
def findAliasFrom (peerMaximum : UInt16) (topicName : String) : Nat → List (Option String) → Option UInt16
  | _, [] => none
  | i, entry :: rest =>
    let topicAlias := UInt16.ofNat i
    if entry = some topicName ∧ 0 < topicAlias ∧ topicAlias ≤ peerMaximum then some topicAlias
    else findAliasFrom peerMaximum topicName (i + 1) rest

def findAliasForTopic (t : TopicAliasManager) (topicName : String) : Option UInt16 :=
  if t.peerMaximum = 0 then none else findAliasFrom t.peerMaximum topicName 0 t.topicToAlias

/-- The loop over `1..=max` of `register_for_send`, `turns` being the number of values left. -/
def registerFrom (t : TopicAliasManager) (topicName : String) :
    Nat → Nat → Outcome Empty (Option UInt16) × TopicAliasManager
  | 0, _ => (.ok none, t)
  | turns + 1, topicAlias =>
    match t.topicToAlias[topicAlias]? with
    | none => (.panic, t)
    | some none =>
      (.ok (some (UInt16.ofNat topicAlias)),
        { t with topicToAlias := t.topicToAlias.set topicAlias (some topicName) })
    | some (some _) => registerFrom t topicName turns (topicAlias + 1)

def registerForSend (t : TopicAliasManager) (topicName : String) :
    Outcome Empty (Option UInt16) × TopicAliasManager :=
  if t.peerMaximum = 0 then (.ok none, t)
  else match t.findAliasForTopic topicName with
    | some topicAlias => (.ok (some topicAlias), t)
    | none => registerFrom (t.ensureSendCapacity t.peerMaximum.toNat) topicName t.peerMaximum.toNat 1

def resetMappings (t : TopicAliasManager) : TopicAliasManager := { t with aliasToTopic := [], topicToAlias := [] }

def reset (_ : TopicAliasManager) : TopicAliasManager :=
  { aliasToTopic := [], topicToAlias := [], ownMaximum := 0, peerMaximum := 0 }

def aliasCount (t : TopicAliasManager) : Nat := t.aliasToTopic.countP (·.isSome) + t.topicToAlias.countP (·.isSome)

end TopicAliasManager

end MqttRs
