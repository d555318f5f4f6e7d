import Muster.Proofs.Fetching
import Muster.Registry.Queries
/-! A heartbeat that is sent again. What a node sends a second time at one reading of the clock is
there already, all but its count; and nothing is found, ordered or counted by the number of
heartbeats, so that the answers are the same up to that number. -/
namespace Muster

/- One heartbeat more, unless the count can hold no more. -/
def NodeRecord.counted (r : NodeRecord) : NodeRecord :=
  { r with heartbeats :=
      if r.heartbeats.toNat = UInt64.size - 1 then r.heartbeats else r.heartbeats + 1 }

def NodeRecord.countedUnder (key : String) (r : NodeRecord) : NodeRecord :=
  if r.key = key then r.counted else r

def NodeView.onRecord (f : NodeRecord → NodeRecord) (v : NodeView) : NodeView :=
  { v with record := f v.record }

theorem saturatingNext (n : UInt64) :
    saturatingAdd n 1 = if n.toNat = UInt64.size - 1 then n else n + 1 := by
  have small := n.toNat_lt
  refine UInt64.toNat_inj.mp ?_
  rw [saturatingAddToNat]
  split
  · next full => simp [full]
  · next room =>
    rw [UInt64.toNat_add]
    unfold UInt64.size at *
    simp only [UInt64.toNat_one]
    omega

/- What a record is found, ordered and judged by. The number of its heartbeats is no part of it. -/
structure Unseen (f : NodeRecord → NodeRecord) : Prop where
  key : ∀ r, (f r).key = r.key
  name : ∀ r, (f r).name = r.name
  type : ∀ r, (f r).type = r.type
  lastSeen : ∀ r, (f r).lastSeen = r.lastSeen

theorem countedUnseen (key : String) : Unseen (NodeRecord.countedUnder key) := by
  constructor <;> intro r <;> unfold NodeRecord.countedUnder <;> split <;> rfl

namespace Entries
variable {β : Type} (f : β → β)

def mapped (entries : List (String × β)) : List (String × β) := entries.map fun e => (e.1,f e.2)

theorem findMapped (key : String) (entries : List (String × β)) :
    find? key (mapped f entries) = (find? key entries).map f := by
  induction entries with
  | nil => rfl
  | cons e rest ih =>
    obtain ⟨k,v⟩ := e
    simp only [mapped,List.map_cons,find?] at ih ⊢
    split
    · rfl
    · exact ih

theorem ascendingMapped {entries : List (String × β)} (h : Ascending entries) :
    Ascending (mapped f entries) := List.pairwise_map.mpr h

end Entries

namespace Store
variable {f : NodeRecord → NodeRecord}

def mapped (s : Store) (unseen : Unseen f) : Store where
  nodes := ⟨Entries.mapped f s.nodes.entries,Entries.ascendingMapped f s.nodes.ascending⟩
  keyed := by
    intro e mem
    obtain ⟨stored,inside,rfl⟩ := List.mem_map.mp mem
    exact (unseen.key stored.2).trans (s.keyed stored inside)

theorem getMapped (s : Store) (unseen : Unseen f) (key : String) :
    (s.mapped unseen).get? key = (s.get? key).map f := Entries.findMapped f key _

theorem recordsMapped (s : Store) (unseen : Unseen f) :
    (s.mapped unseen).records = s.records.map f := by
  simp [records,Table.values,mapped,Entries.mapped]

theorem lookupMapped (s : Store) (unseen : Unseen f) (keys : List String) :
    (s.mapped unseen).lookup keys = (s.lookup keys).map f := by
  simp only [lookup,List.map_filterMap,getMapped]

theorem mergedAgain (s : Store) {r : NodeRecord} (once : r.heartbeats = 1) :
    (s.upsert r).merged r = (s.merged r).counted := by
  have there : (s.upsert r).merged r = (s.merged r).merge r := by rw [merged,mergedUnder]
  rw [there]
  have one : max r.heartbeats 1 = 1 := by rw [once]; rfl
  unfold merged
  split
  · next stored found =>
    have first : min (min stored.firstSeen r.firstSeen) r.firstSeen =
        min stored.firstSeen r.firstSeen := min_eq_left (min_le_right _ _)
    have last : max (max stored.lastSeen r.lastSeen) r.lastSeen =
        max stored.lastSeen r.lastSeen := max_eq_left (le_max_right _ _)
    simp only [NodeRecord.merge,NodeRecord.counted,one,saturatingNext,first,last]
  · have first : min r.firstSeen r.firstSeen = r.firstSeen := min_self _
    have last : max r.lastSeen r.lastSeen = r.lastSeen := max_self _
    simp only [NodeRecord.merge,NodeRecord.counted,one,saturatingNext,first,last]

theorem upsertAgain (s : Store) {r : NodeRecord} (once : r.heartbeats = 1) :
    (s.upsert r).upsert r = (s.upsert r).mapped (countedUnseen r.key) := by
  refine getExt fun key => ?_
  rw [getMapped,getMerged,s.mergedAgain once]
  split
  · next own =>
    subst own
    rw [mergedUnder,Option.map_some,NodeRecord.countedUnder,if_pos (s.mergedKey r)]
  · next other =>
    cases stored : (s.upsert r).get? key with
    | none => rfl
    | some x =>
      have apart : x.key ≠ r.key := fun same => other (same.symm.trans (keyOfGet stored))
      rw [Option.map_some,NodeRecord.countedUnder,if_neg apart]

end Store

namespace Registry
open NodeView (onRecord)
variable {f : NodeRecord → NodeRecord}

def mapped (reg : Registry) (unseen : Unseen f) : Registry :=
  { reg with store := reg.store.mapped unseen }

theorem viewsMapped (reg : Registry) (unseen : Unseen f) (now : Instant)
    (records : List NodeRecord) :
    (reg.mapped unseen).views now (records.map f) = (reg.views now records).map (onRecord f) := by
  have each (r : NodeRecord) : reg.window.view now (f r) = onRecord f (reg.window.view now r) := by
    simp only [LivenessWindow.view,onRecord,unseen.lastSeen]
  simp only [views,mapped,List.map_map]
  exact List.map_congr_left fun r _ => each r

theorem orderMapped (unseen : Unseen f) (views : List NodeView) :
    order (views.map (onRecord f)) = (order views).map (onRecord f) := by
  refine (List.map_mergeSort ?_).symm
  intro a _ b _
  simp only [newerFirst,onRecord,unseen.lastSeen,unseen.key]

theorem mappedAlike (reg : Registry) (unseen : Unseen f) : Alike reg (reg.mapped unseen) where
  window := rfl
  outlines := by
    have records : (reg.mapped unseen).store.records = reg.store.records.map f :=
      reg.store.recordsMapped unseen
    have each (r : NodeRecord) : (f r).outline = r.outline := by
      simp only [NodeRecord.outline,unseen.name,unseen.type,unseen.key,unseen.lastSeen]
    rw [records,List.map_map]
    exact List.map_congr_left fun r _ => each r

section
variable (reg : Registry) (unseen : Unseen f) (now : Instant)

theorem listMapped : (reg.mapped unseen).list now = (reg.list now).map (onRecord f) := by
  have records : (reg.mapped unseen).store.records = reg.store.records.map f :=
    reg.store.recordsMapped unseen
  rw [list,records,viewsMapped,orderMapped unseen,list]

theorem discoverMapped (query : String) :
    (reg.mapped unseen).discover now query = (reg.discover now query).map (onRecord f) := by
  have same (v : NodeView) : matchesQuery query (onRecord f v).record =
      matchesQuery query v.record := by
    simp only [matchesQuery,onRecord,unseen.name,unseen.type]
  simp only [discover,listMapped,List.filter_map,Function.comp_def,same]

theorem lookupMapped (keys : List String) :
    (reg.mapped unseen).lookup now keys = (reg.lookup now keys).map (onRecord f) := by
  have found : (reg.mapped unseen).store.lookup keys = (reg.store.lookup keys).map f :=
    reg.store.lookupMapped unseen keys
  rw [lookup,found,viewsMapped,lookup]

theorem readinessMapped (requirements : List Requirement) :
    (reg.mapped unseen).readinessFor now requirements = reg.readinessFor now requirements :=
  (reg.mappedAlike unseen).readiness now requirements

theorem statisticsMapped : (reg.mapped unseen).statistics now = reg.statistics now := by
  have all : (reg.mapped unseen).store.records = reg.store.records.map f :=
    reg.store.recordsMapped unseen
  have times : (reg.store.records.map f).map (·.lastSeen) = reg.store.records.map (·.lastSeen) := by
    simp only [List.map_map,Function.comp_def,unseen.lastSeen]
  rw [statistics,all]
  simp only [Statistics.ofRecords,times,List.length_map,List.countP_map,List.foldl_map,
    Function.comp_def,unseen.lastSeen,unseen.type]
  rfl

end

variable {reg : Registry} {now : Instant} {body : Json} {view : NodeView}

theorem announceJsonTaken {a : Announcement} (read : Announcement.ofJson body = .ok a)
    (reg : Registry) (now : Instant) : reg.announceJson now body =
      (.ok (reg.announce now a).view,(reg.announce now a).registry,(reg.announce now a).events) := by
  rw [announceJson,read]

theorem takenOfAccepted (accepted : (reg.announceJson now body).1 = .ok view) :
    ∃ a, Announcement.ofJson body = .ok a ∧ view = (reg.announce now a).view := by
  unfold announceJson at accepted
  cases read : Announcement.ofJson body with
  | error e =>
    rw [read] at accepted
    cases accepted
  | ok a =>
    rw [read] at accepted
    cases accepted
    exact ⟨a,rfl,rfl⟩

theorem announceAgain (reg : Registry) (now : Instant) (a : Announcement) :
    let once := (reg.announce now a).registry
    (once.announce now a).registry = once.mapped (countedUnseen a.key) ∧
      (once.announce now a).view = (reg.announce now a).view.onRecord .counted := by
  intro once
  have single : (a.toRecord now).heartbeats = 1 := rfl
  simp only [once,announce,reg.store.upsertAgain single,reg.store.mergedAgain single]
  exact ⟨rfl,rfl⟩

/-- A heartbeat that is taken and sent again at the same reading of the clock leaves the registry as
it was but for the count of that one record, which is one more if it can be. The second answer is
the first up to that count, and so is all that is found at any reading afterwards; verdicts and figures
are the same. -/
theorem retryCountsOnce (accepted : (reg.announceJson now body).1 = .ok view) :
    let once := (reg.announceJson now body).2.1
    let again := once.announceJson now body
    let twice := again.2.1
    let more := NodeRecord.countedUnder view.record.key
    again.1 = .ok (view.onRecord .counted) ∧
    twice = { once with store := twice.store } ∧
    (∀ key, twice.store.get? key = (once.store.get? key).map more) ∧
    ∀ t, twice.list t = (once.list t).map (onRecord more) ∧
      (∀ query, twice.discover t query = (once.discover t query).map (onRecord more)) ∧
      (∀ keys, twice.lookup t keys = (once.lookup t keys).map (onRecord more)) ∧
      (∀ requirements, twice.readinessFor t requirements = once.readinessFor t requirements) ∧
      twice.statistics t = once.statistics t := by
  intro once again twice more
  obtain ⟨a,read,rfl⟩ := takenOfAccepted accepted
  have first : once = (reg.announce now a).registry := by
    simp only [once,announceJsonTaken read]
  have second : again = (.ok (once.announce now a).view,(once.announce now a).registry,
      (once.announce now a).events) := announceJsonTaken read once now
  obtain ⟨registry,answer⟩ := announceAgain reg now a
  rw [← first] at registry answer
  have own : (reg.announce now a).view.record.key = a.key := reg.store.mergedKey (a.toRecord now)
  have unseen : Unseen more := countedUnseen _
  have left : twice = once.mapped unseen := by
    simp only [twice,second,registry,more,own]
  rw [second,left]
  exact ⟨congrArg _ answer,rfl,fun key => once.store.getMapped unseen key,fun t =>
    ⟨once.listMapped unseen t,once.discoverMapped unseen t,once.lookupMapped unseen t,
      once.readinessMapped unseen t,once.statisticsMapped unseen t⟩⟩

theorem retryCountsOnceFull :
    let full : UInt64 := .ofNat (UInt64.size - 1)
    let stored : NodeRecord :=
      ⟨"orb","web","k1",none,none,none,.ofMillis 1000,.ofMillis 9000,full⟩
    let reg : Registry := ⟨Store.empty.upsert stored,⟨10,by decide,by decide⟩,[]⟩
    let body : Json := .obj [("instance_key","k1"),("node_name","orb-2"),("node_type","web")]
    let renamed : NodeRecord := { stored with name := "orb-2" }
    let view : NodeView := reg.window.view (.ofMillis 2000) renamed
    let once := (reg.announceJson (.ofMillis 2000) body).2.1
    let again := once.announceJson (.ofMillis 2000) body
    (reg.announceJson (.ofMillis 2000) body).1 = .ok view ∧ renamed.counted = renamed ∧
      again.1 = .ok (view.onRecord .counted) ∧
      ∀ t, again.2.1.list t = (once.list t).map (onRecord (.countedUnder "k1")) ∧
        again.2.1.statistics t = once.statistics t := by
  intro full stored reg body renamed view once again
  have accepted : (reg.announceJson (.ofMillis 2000) body).1 = .ok view := by rfl
  obtain ⟨answer,_,_,answers⟩ := retryCountsOnce accepted
  refine ⟨accepted,rfl,answer,fun t => ?_⟩
  obtain ⟨listed,_,_,_,figures⟩ := answers t
  exact ⟨listed,figures⟩

end Registry
end Muster
