import Muster.Event
import Muster.Node
import Muster.Table
/-! All records of the service, one per instance key. Nothing is ever removed. -/
namespace Muster

/- Every record stands under its own key. -/
structure Store where
  nodes : Table NodeRecord
  keyed : ∀ e ∈ nodes.entries, e.2.key = e.1

namespace Store

def empty : Store := ⟨.empty,by simp [Table.empty]⟩

def get? (s : Store) (key : String) : Option NodeRecord := s.nodes.get? key

def records (s : Store) : List NodeRecord := s.nodes.values

def size (s : Store) : Nat := s.nodes.size

theorem keyOfGet {s : Store} {key : String} {r : NodeRecord} (h : s.get? key = some r) :
    r.key = key :=
  s.keyed _ (Entries.memOfFind h)

def write (s : Store) (r : NodeRecord) : Store where
  nodes := s.nodes.insert r.key r
  keyed := fun e he => by
    rcases Entries.memPut he with rfl | inside
    · rfl
    · exact s.keyed e inside

def merged (s : Store) (r : NodeRecord) : NodeRecord :=
  match s.get? r.key with
  | some stored => stored.merge r
  | none => r

def upsert (s : Store) (r : NodeRecord) : Store := s.write (s.merged r)

def upsertEvent (s : Store) (r : NodeRecord) : Event :=
  match s.get? r.key with
  | some stored =>
      let after := stored.merge r
      .nodeUpdated after.name after.key after.heartbeats
  | none => .nodeAdded r.name r.key

def distinctAfter (seen : List String) : List String → List String
  | [] => []
  | key :: rest =>
      if key ∈ seen then distinctAfter seen rest else key :: distinctAfter (key :: seen) rest

def distinct (keys : List String) : List String := distinctAfter [] keys

def lookup (s : Store) (keys : List String) : List NodeRecord := (distinct keys).filterMap s.get?

@[simp] theorem getEmpty (key : String) : empty.get? key = none := rfl

theorem getWrite (s : Store) (r : NodeRecord) (key : String) :
    (s.write r).get? key = if r.key = key then some r else s.get? key :=
  Table.getInsert s.nodes r.key key r

theorem mergedKey (s : Store) (r : NodeRecord) : (s.merged r).key = r.key := by
  simp only [merged]
  split
  · next h => simp [NodeRecord.merge,keyOfGet h]
  · rfl

theorem getMerged (s : Store) (r : NodeRecord) (key : String) :
    (s.upsert r).get? key = if r.key = key then some (s.merged r) else s.get? key := by
  simp [upsert,getWrite,mergedKey]

end Store
end Muster
