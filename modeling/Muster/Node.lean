import Muster.Fault
import Muster.Json
import Muster.Time.Clock
import Muster.Time.Rfc3339
/-! What is known about one node instance, how a newer heartbeat is folded into it, and its forms in
JSON. Whether a node is online is no part of its record: status and age are derived from the time since
its last heartbeat whenever the record is read. -/
namespace Muster

inductive Status where
  | online
  | offline
  deriving DecidableEq, Repr

abbrev Additional := List (String × Json)

structure NodeRecord where
  name : String
  type : String
  key : String
  host : Option String
  port : Option UInt16
  additional : Option Additional
  firstSeen : Instant
  lastSeen : Instant
  heartbeats : UInt64

def saturatingAdd (a b : UInt64) : UInt64 := .ofNat (min (a.toNat + b.toNat) (UInt64.size - 1))

/- Folds a newer record of the same instance into this one: its descriptive fields stand, the
times only widen, and it counts as at least one heartbeat. -/
def NodeRecord.merge (record incoming : NodeRecord) : NodeRecord where
  name := incoming.name
  type := incoming.type
  key := record.key
  host := incoming.host
  port := incoming.port
  additional := incoming.additional
  firstSeen := min record.firstSeen incoming.firstSeen
  lastSeen := max record.lastSeen incoming.lastSeen
  heartbeats := saturatingAdd record.heartbeats (max incoming.heartbeats 1)

structure NodeView where
  record : NodeRecord
  status : Status
  ageSeconds : Int

theorem saturatingAddToNat (a b : UInt64) :
    (saturatingAdd a b).toNat = min (a.toNat + b.toNat) (UInt64.size - 1) := by
  simp only [saturatingAdd,UInt64.toNat_ofNat',UInt64.size]
  omega

/- The fields of a structure by name. An object may hold more; a list holds the fields in their
order, neither more nor fewer. -/
def Json.columns? (names : List String) : Json → Option (String → Option Json)
  | .obj fields => some fun name => Entries.find? name fields
  | .arr items =>
      if items.length = names.length then some fun name => Entries.find? name (names.zip items)
      else none
  | _ => none

def Json.optional? {α : Type} (decode : Json → Option α) : Option Json → Option (Option α)
  | none => some none
  | some .null => some none
  | some value => (decode value).map some

def Json.port? (value : Json) : Option UInt16 :=
  (value.within? 0 65535).map fun n => .ofNat n.toNat

def Json.count? (value : Json) : Option UInt64 :=
  (value.within? 0 (UInt64.size - 1)).map fun n => .ofNat n.toNat

def Json.additional? : Json → Option Additional
  | .obj fields => some fields
  | _ => none

def Json.instant? (value : Json) : Option Instant := value.str?.bind Rfc3339.read?

def Status.label : Status → String
  | .online => "online"
  | .offline => "offline"

def Status.ofLabel? (label : String) : Option Status :=
  if label = "online" then some .online
  else if label = "offline" then some .offline
  else none

def Status.toJson (status : Status) : Json := .str status.label

def Status.ofJson? : Json → Option Status
  | .str label => ofLabel? label
  | .obj [(label,.null)] => ofLabel? label
  | _ => none

def NodeRecord.toFields (r : NodeRecord) : List (String × Json) :=
  [("additional",Json.ofOption .obj r.additional),
   ("first_seen",.str (Rfc3339.zulu r.firstSeen)),
   ("heartbeats",.nat r.heartbeats.toNat),
   ("host",Json.ofOption .str r.host),
   ("instance_key",.str r.key),
   ("last_seen",.str (Rfc3339.zulu r.lastSeen)),
   ("node_name",.str r.name),
   ("node_type",.str r.type),
   ("port",Json.ofOption (fun port => .nat port.toNat) r.port)]

def NodeRecord.toJson (r : NodeRecord) : Json := .obj r.toFields

def NodeRecord.fieldNames : List String :=
  ["node_name","node_type","instance_key","host","port","additional","first_seen","last_seen",
    "heartbeats"]

def NodeRecord.ofFields? (field : String → Option Json) : Option NodeRecord := do
  let name ← (← field "node_name").str?
  let type ← (← field "node_type").str?
  let key ← (← field "instance_key").str?
  let host ← Json.optional? Json.str? (field "host")
  let port ← Json.optional? Json.port? (field "port")
  let additional ← Json.optional? Json.additional? (field "additional")
  let firstSeen ← (← field "first_seen").instant?
  let lastSeen ← (← field "last_seen").instant?
  let heartbeats ← (← field "heartbeats").count?
  some ⟨name,type,key,host,port,additional,firstSeen,lastSeen,heartbeats⟩

def NodeRecord.ofJson? (value : Json) : Option NodeRecord :=
  (value.columns? fieldNames).bind ofFields?

def NodeView.toJson (v : NodeView) : Json :=
  .object (v.record.toFields ++ [("status",v.status.toJson),("age_seconds",.int v.ageSeconds)])

def NodeView.ofJson? : Json → Option NodeView
  | .obj fields => do
      let record ← NodeRecord.ofFields? fun name => Entries.find? name fields
      let status ← Status.ofJson? (← Entries.find? "status" fields)
      let age ← (← Entries.find? "age_seconds" fields).within? Int64.minValue.toInt
        Int64.maxValue.toInt
      some ⟨record,status,age⟩
  | _ => none

/- A positive span, in nanoseconds, that fits a 64-bit count of milliseconds. -/
structure LivenessWindow where
  nanos : Int
  positive : 0 < nanos
  bounded : nanos ≤ 9223372036854775807000000
  deriving DecidableEq

namespace LivenessWindow

def ofNanos (nanos : Nat) : Except ConfigurationFault LivenessWindow :=
  if large : 9223372036854775807000000 < nanos then .error .windowOutOfRange
  else if zero : nanos = 0 then .error .windowNotPositive
  else .ok ⟨nanos,by omega,by omega⟩

def ofSeconds (seconds : Nat) : Except ConfigurationFault LivenessWindow :=
  ofNanos (seconds * 1000000000)

def seconds (w : LivenessWindow) : Int := w.nanos / 1000000000

def subsecondNanos (w : LivenessWindow) : Int := w.nanos % 1000000000

/- Online until the whole window has passed; a node seen ahead of the clock is fresh. -/
def statusAt (w : LivenessWindow) (lastSeen now : Instant) : Status :=
  if now.since lastSeen < w.nanos then .online else .offline

def view (w : LivenessWindow) (now : Instant) (record : NodeRecord) : NodeView :=
  ⟨record,w.statusAt record.lastSeen now,record.lastSeen.elapsedSeconds now⟩

end LivenessWindow
end Muster
