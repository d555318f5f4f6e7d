import Muster.Registry.Basic
/-! What the registry is asked: for all nodes, for those that a text or a key finds, whether the required
ones are there, and for counts. The verdict on the required ones is read off a summary that holds one
entry per requirement text. -/
namespace Muster

namespace Registry

def newerFirst (a b : NodeView) : Bool :=
  b.record.lastSeen < a.record.lastSeen ||
    (a.record.lastSeen = b.record.lastSeen && a.record.key ≤ b.record.key)

def order (views : List NodeView) : List NodeView := views.mergeSort newerFirst

def list (reg : Registry) (now : Instant) : List NodeView :=
  order (reg.views now reg.store.records)

theorem memList {reg : Registry} {now : Instant} {v : NodeView} :
    v ∈ reg.list now ↔ ∃ r ∈ reg.store.records, reg.window.view now r = v := by
  simp [list,order,views]

def matchesQuery (query : String) (r : NodeRecord) : Bool :=
  let needle := Text.lower (Text.trim query)
  Text.contains (Text.lower r.name) needle || Text.contains (Text.lower r.type) needle

def discover (reg : Registry) (now : Instant) (query : String) : List NodeView :=
  (reg.list now).filter fun v => matchesQuery query v.record

def lookup (reg : Registry) (now : Instant) (keys : List String) : List NodeView :=
  reg.views now (reg.store.lookup keys)

end Registry

inductive Presence where
  | on
  | off
  deriving DecidableEq, Repr

def Presence.label : Presence → String
  | on => "on"
  | off => "off"

abbrev Summary := List (String × Presence)

def Summary.put (text : String) (presence : Presence) : Summary → Summary
  | [] => [(text,presence)]
  | (t,p) :: rest =>
      if t = text then (text,presence) :: rest else (t,p) :: Summary.put text presence rest

structure Readiness where
  ready : Bool
  summary : Summary
  required : List String
  deriving DecidableEq, Repr

namespace Readiness

def presence (online : List NodeRecord) (r : Requirement) : Presence :=
  if online.any fun record => r.matchedBy record then .on else .off

def summarize (online : List NodeRecord) (requirements : List Requirement) : Summary :=
  requirements.foldl (fun summary r => summary.put r.display (presence online r)) []

def missing (summary : Summary) : List String :=
  (summary.filter fun (_,p) => p = .off).map (·.1)

def evaluate (window : LivenessWindow) (now : Instant) (records : List NodeRecord)
    (requirements : List Requirement) : Readiness :=
  let online := records.filter fun r => window.statusAt r.lastSeen now = .online
  let summary := summarize online requirements
  ⟨summary.all fun (_,p) => p = .on,summary,requirements.map (·.display)⟩

def events (r : Readiness) : List Event :=
  if r.ready then [] else [.notReady (missing r.summary)]

end Readiness

namespace Registry

def keysOnly? (requirements : List Requirement) : Option (List String) :=
  requirements.mapM fun
    | .key value => some value
    | _ => none

def readinessFor (reg : Registry) (now : Instant) (requirements : List Requirement) : Readiness :=
  let records := match keysOnly? requirements with
    | some keys => reg.store.lookup keys
    | none => reg.store.records
  Readiness.evaluate reg.window now records requirements

def readiness (reg : Registry) (now : Instant) : Readiness := reg.readinessFor now reg.requirements

end Registry

def Readiness.toJson (r : Readiness) : Json :=
  .obj [("ready",.bool r.ready),("nodes_summary",.obj (r.summary.map fun (t,p) => (t,.str p.label))),
    ("required_nodes",.strings r.required)]

structure Statistics where
  total : Nat
  online : Nat
  offline : Nat
  byType : Table Nat
  oldest : Option Instant
  newest : Option Instant
  takenAt : Instant

namespace Statistics

def tally (counts : Table Nat) (type : String) : Table Nat :=
  counts.insert type ((counts.get? type).getD 0 + 1)

def extreme (pick : Instant → Instant → Instant) : List Instant → Option Instant
  | [] => none
  | t :: rest => some (rest.foldl pick t)

def ofRecords (window : LivenessWindow) (now : Instant) (records : List NodeRecord) : Statistics :=
  let online := records.countP fun r => window.statusAt r.lastSeen now = .online
  { total := records.length
    online := online
    offline := records.length - online
    byType := records.foldl (fun counts r => tally counts r.type) .empty
    oldest := extreme min (records.map (·.lastSeen))
    newest := extreme max (records.map (·.lastSeen))
    takenAt := now }

def toJson (s : Statistics) : Json :=
  let time := Json.ofOption fun t => .str (Rfc3339.zulu t)
  .obj [("newest_last_seen",time s.newest),
    ("offline",.nat s.offline),
    ("oldest_last_seen",time s.oldest),
    ("online",.nat s.online),
    ("records_by_type",Json.ofTable .nat s.byType),
    ("timestamp",.str (Rfc3339.zulu s.takenAt)),
    ("total_records",.nat s.total)]

end Statistics

def Registry.statistics (reg : Registry) (now : Instant) : Statistics :=
  Statistics.ofRecords reg.window now reg.store.records

end Muster
