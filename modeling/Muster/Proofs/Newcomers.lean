import Mathlib.Data.List.Induction
import Muster.Proofs.Freshness
import Muster.Proofs.History
/-! Which heartbeats are taken for the first of their node. The registry tells by the count that a write
leaves. Every write under a known key raises that count, but under a new key it is the one of the record
itself: where that record counts no heartbeat, the node is greeted as new although it is known. -/
namespace Muster

def Raised (before after : UInt64) : Prop :=
  before < after ∨ before.toNat = UInt64.size - 1 ∧ after = before

theorem raisedCounted {before after : UInt64} (raised : Raised before after) : 1 ≤ after := by
  rw [UInt64.le_iff_toNat_le,UInt64.toNat_one]
  rcases raised with more | ⟨full,same⟩
  · have less := UInt64.lt_iff_toNat_lt.mp more
    omega
  · rw [same,full]
    decide

theorem countedLeast (n : UInt64) : 1 ≤ (max n 1).toNat := by
  change 1 ≤ (if n ≤ 1 then 1 else n).toNat
  split
  · decide
  · next more =>
    rw [UInt64.le_iff_toNat_le,UInt64.toNat_one] at more
    omega

theorem mergeRaises (stored incoming : NodeRecord) :
    Raised stored.heartbeats (stored.merge incoming).heartbeats := by
  have once := countedLeast incoming.heartbeats
  have count := saturatingAddToNat stored.heartbeats (max incoming.heartbeats 1)
  have bound := stored.heartbeats.toNat_lt
  change Raised _ (saturatingAdd _ _)
  by_cases full : stored.heartbeats.toNat = UInt64.size - 1
  · refine .inr ⟨full,UInt64.toNat_inj.mp ?_⟩
    omega
  · refine .inl (UInt64.lt_iff_toNat_lt.mpr ?_)
    unfold UInt64.size at *
    omega

namespace Store
variable {s : Store} {r old : NodeRecord}

theorem mergedNew (new : s.get? r.key = none) : s.merged r = r := by rw [merged,new]

theorem mergedKnown (known : s.get? r.key = some old) : s.merged r = old.merge r := by
  rw [merged,known]

theorem mergedCounted (s : Store) (r : NodeRecord) :
    1 ≤ (s.merged r).heartbeats ↔ (∃ old, s.get? r.key = some old) ∨ 1 ≤ r.heartbeats := by
  cases found : s.get? r.key with
  | none => simp [mergedNew found]
  | some old => simp [mergedKnown found,raisedCounted (mergeRaises old r)]

theorem mergedOnce (s : Store) (single : r.heartbeats = 1) : (s.merged r).heartbeats = 1 ↔
    s.get? r.key = none ∨ ∃ old, s.get? r.key = some old ∧ old.heartbeats = 0 := by
  cases found : s.get? r.key with
  | none => simp [mergedNew found,single]
  | some old =>
    have count := saturatingAddToNat old.heartbeats 1
    have sum : (old.merge r).heartbeats = saturatingAdd old.heartbeats 1 := by
      rw [NodeRecord.merge,single]
      rfl
    rw [mergedKnown found,sum]
    simp only [reduceCtorEq,Option.some.injEq,exists_eq_left',false_or,← UInt64.toNat_inj,count,
      UInt64.toNat_one,UInt64.toNat_zero,UInt64.size]
    omega

end Store

/- One write, and no heartbeat counted in it. -/
def OnlyUncounted (writes : List NodeRecord) : Prop := writes.map (·.heartbeats) = [0]

instance (writes : List NodeRecord) : Decidable (OnlyUncounted writes) := by
  unfold OnlyUncounted
  infer_instance

theorem absorbedUncounted (writes : List NodeRecord) :
    (∃ r, writes.foldl Store.absorb none = some r ∧ r.heartbeats = 0) ↔ OnlyUncounted writes := by
  cases writes using List.reverseRecOn with
  | nil => simp [OnlyUncounted]
  | append_singleton before last =>
    rw [List.foldl_append,OnlyUncounted,List.map_append]
    cases stored : before.foldl Store.absorb none with
    | none =>
      rw [(Store.absorbedNone.mp stored).2]
      simp [Store.absorb]
    | some old =>
      have some : before ≠ [] := fun none => by simp [none] at stored
      constructor
      · intro found
        obtain ⟨r,same,zero⟩ := found
        cases same
        have counted := raisedCounted (mergeRaises old last)
        rw [zero] at counted
        exact absurd counted (by decide)
      · intro single
        have length := congrArg List.length single
        simp only [List.length_append,List.length_map,List.length_cons,List.length_nil] at length
        exact absurd (List.length_eq_zero_iff.mp (by omega)) some

namespace Watch

theorem storedUncounted (reg : Registry) (empty : reg.store = .empty) (clock : Clock)
    (actions : List Action) (key : String) :
    (∃ r, ((starting reg clock).after actions).store.get? key = some r ∧ r.heartbeats = 0) ↔
      OnlyUncounted ((writes clock actions).filter (·.key = key)) := by
  rw [getStarted reg empty]
  exact absorbedUncounted _

theorem intakeCounts {actions : List Action} (intake : ∀ a ∈ actions, a.direct? = none)
    (clock : Clock) (key : String) :
    ¬ OnlyUncounted ((writes clock actions).filter (·.key = key)) := by
  intro only
  have zero : 0 ∈ ((writes clock actions).filter (·.key = key)).map (·.heartbeats) := by
    rw [only]
    exact List.mem_cons_self
  obtain ⟨r,mem,uncounted⟩ := List.mem_map.mp zero
  have written := (List.mem_filter.mp mem).1
  rw [writesHeard intake clock] at written
  obtain ⟨h,_,same⟩ := List.mem_map.mp written
  subst same
  exact absurd uncounted (by decide : (1 : UInt64) ≠ 0)

end Watch

theorem Registry.announceSays (reg : Registry) (now : Instant) (a : Announcement) :
    (reg.announce now a).events = [reg.store.upsertEvent (a.toRecord now),
      if (reg.store.merged (a.toRecord now)).heartbeats = 1
      then .registered a.name a.type a.key else .heartbeat a.name a.type a.key] := by
  have own := reg.store.mergedAnnounced a now
  have name : (reg.store.merged (a.toRecord now)).name = a.name := congrArg (·.name) own
  have type : (reg.store.merged (a.toRecord now)).type = a.type := congrArg (·.type) own
  have key : (reg.store.merged (a.toRecord now)).key = a.key := congrArg (·.key) own
  rw [announce,name,type,key]

namespace Watch

/-- Whatever was written in a run, by heartbeats or past the intake, a write leaves a count of at least
one unless it brings a record with no heartbeat counted under a new key, and under a known key it
raises the count. A record with no heartbeat counted is there exactly as long as such a write is the
only one under its key, and then, or if no record is there, a heartbeat is said to be of a new node. -/
theorem newcomersTold (start : Instant) (window : LivenessWindow) (requirements : List Requirement)
    (actions : List Action) :
    let w := (starting ⟨.empty,window,requirements⟩ (.startingAt start)).after actions
    let under := fun key => (writes (.startingAt start) actions).filter (·.key = key)
    (∀ r : NodeRecord, ∃ stored, (w.store.upsert r).get? r.key = some stored ∧
      (1 ≤ stored.heartbeats ↔ (∃ old, w.store.get? r.key = some old) ∨ 1 ≤ r.heartbeats) ∧
      ∀ old, w.store.get? r.key = some old → Raised old.heartbeats stored.heartbeats) ∧
    (∀ key, (∃ r, w.store.get? key = some r ∧ r.heartbeats = 0) ↔ OnlyUncounted (under key)) ∧
    ((∀ a ∈ actions, a.direct? = none) → ∀ key, ¬ OnlyUncounted (under key)) ∧
    ∀ a : Announcement,
      (w.registry.announce w.now a).events.map (fun e => (e.level,e.message)) =
        [(.debug,(w.store.upsertEvent (a.toRecord w.now)).message),
          if w.store.get? a.key = none ∨ OnlyUncounted (under a.key)
          then (.info,"New node registered: " ++ a.name ++ Event.about a.type a.key)
          else (.debug,"Heartbeat from " ++ a.name ++ Event.about a.type a.key)] := by
  intro w under
  have uncounted (key : String) := storedUncounted ⟨.empty,window,requirements⟩ rfl
    (.startingAt start) actions key
  refine ⟨?_,uncounted,fun intake => intakeCounts intake _,?_⟩
  · intro r
    refine ⟨w.store.merged r,w.store.mergedUnder r,w.store.mergedCounted r,?_⟩
    intro old known
    rw [Store.mergedKnown known]
    exact mergeRaises old r
  · intro a
    have first : (w.registry.store.merged (a.toRecord w.now)).heartbeats = 1 ↔
        w.store.get? a.key = none ∨ OnlyUncounted (under a.key) :=
      (w.store.mergedOnce rfl).trans (or_congr_right (uncounted a.key))
    have written : (w.store.upsertEvent (a.toRecord w.now)).level = .debug := by
      unfold Store.upsertEvent
      split <;> rfl
    rw [Registry.announceSays]
    simp only [first,List.map_cons,List.map_nil]
    change [((w.store.upsertEvent _).level,_),_] = _
    rw [written]
    split <;> rfl

theorem newcomersToldKnown :
    let orb : Announcement := ⟨"orb","web","k1",none,none,none⟩
    let late : NodeRecord := ⟨"orb","web","k1",none,none,none,.epoch,.epoch,0⟩
    let actions : List Action := [.announce orb,.sweep]
    let w := (starting ⟨.empty,⟨10,by decide,by decide⟩,[]⟩ (.startingAt .epoch)).after actions
    (∀ a ∈ actions, a.direct? = none) ∧ w.store.get? "k1" = some (orb.toRecord w.now) ∧
      (∃ stored, (w.store.upsert late).get? "k1" = some stored ∧ Raised 1 stored.heartbeats) ∧
      (w.registry.announce w.now orb).events.map (fun e => (e.level,e.message)) =
        [(.debug,"Updated node orb (k1), heartbeats: 2"),
          (.debug,"Heartbeat from orb (type: web, key: k1)")] := by
  intro orb late actions w
  have intake : ∀ a ∈ actions, a.direct? = none := by simp [actions,Action.direct?]
  have known : w.store.get? "k1" = some (orb.toRecord w.now) := rfl
  obtain ⟨writes,_,counted,told⟩ := newcomersTold .epoch ⟨10,by decide,by decide⟩ [] actions
  obtain ⟨stored,there,_,raised⟩ := writes late
  have said := told orb
  have here := counted intake "k1"
  have present : w.store.get? "k1" ≠ none := by simp [known]
  rw [if_neg (not_or.mpr ⟨present,here⟩)] at said
  exact ⟨intake,known,⟨stored,there,raised _ known⟩,said.trans (by decide +kernel)⟩

/- The record is there, and its first heartbeat is said to be of a new node. -/
theorem uncountedGreeted :
    let orb : NodeRecord := ⟨"orb","web","k1",none,none,none,.epoch,.epoch,0⟩
    let w := (starting ⟨.empty,⟨10,by decide,by decide⟩,[]⟩ (.startingAt .epoch)).after
      [.upsert orb]
    w.store.get? "k1" = some orb ∧ orb.heartbeats = 0 ∧
      (w.registry.announce w.now ⟨"orb","web","k1",none,none,none⟩).events.map
        (fun e => (e.level,e.message)) =
        [(.debug,"Updated node orb (k1), heartbeats: 1"),
          (.info,"New node registered: orb (type: web, key: k1)")] := by
  intro orb w
  exact ⟨rfl,rfl,by decide +kernel⟩

end Watch
end Muster
