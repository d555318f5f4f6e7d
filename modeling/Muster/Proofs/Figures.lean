import Mathlib.Algebra.BigOperators.Group.List.Lemmas
import Muster.Proofs.Listing
/-! The figures of a registry, against its listing. They are made in one pass over the records in any
order; what they say is what can be counted and read off in the listing of the same moment. -/
namespace Muster

namespace Statistics

def tallies (types : List String) : Table Nat := types.foldl tally .empty

theorem talliesCount (types : List String) (type : String) :
    (tallies types).get? type =
      if types.count type = 0 then none else some (types.count type) := by
  induction types using List.reverseRecOn with
  | nil => rfl
  | append_singleton types last ih =>
    have next : tallies (types ++ [last]) = tally (tallies types) last := by simp [tallies]
    rw [next,tally,Table.getInsert,List.count_append]
    split
    · next same =>
      subst same
      rw [ih,List.count_singleton_self,if_neg (Nat.succ_ne_zero _)]
      split
      · next new => rw [new]; rfl
      · rfl
    · next differ =>
      have none : [last].count type = 0 := List.count_eq_zero.mpr (by simp [Ne.symm differ])
      rw [ih,none,Nat.add_zero]

theorem talliesEntry {types : List String} {type : String} {count : Nat} :
    (type,count) ∈ (tallies types).entries ↔ 0 < count ∧ count = types.count type := by
  have found := talliesCount types type
  rw [Table.get?] at found
  rw [Entries.memIff (Entries.keysNodup (tallies types).ascending),found]
  split
  · next none => simp only [reduceCtorEq,false_iff]; omega
  · next some => simp only [Option.some.injEq]; omega

theorem talliesSum (types : List String) : (tallies types).values.sum = types.length := by
  have unique := Entries.keysNodup (tallies types).ascending
  have members (type : String) : type ∈ (tallies types).keys ↔ type ∈ types.dedup := by
    rw [Table.keys,List.mem_map,List.mem_dedup,← List.count_pos_iff]
    constructor
    · intro ⟨e,mem,same⟩
      exact same ▸ (talliesEntry.mp mem).2 ▸ (talliesEntry.mp mem).1
    · intro some
      exact ⟨(type,types.count type),talliesEntry.mpr ⟨some,rfl⟩,rfl⟩
  have perm := (List.perm_ext_iff_of_nodup unique types.nodup_dedup).mpr members
  have values : (tallies types).values = (tallies types).keys.map fun type => types.count type := by
    rw [Table.values,Table.keys,List.map_map]
    exact List.map_congr_left fun e mem => (talliesEntry.mp mem).2
  calc (tallies types).values.sum
      = ((tallies types).keys.map fun type => types.count type).sum := by rw [values]
    _ = (types.dedup.map fun type => types.count type).sum := (perm.map _).sum_eq
    _ = types.length := types.sum_map_count_dedup_eq_length

theorem newestFirst {times : List Instant} (sorted : times.Pairwise fun a b => b ≤ a) :
    extreme max times = times.head? := by
  cases times with
  | nil => rfl
  | cons t rest =>
    have below := (List.pairwise_cons.mp sorted).1
    clear sorted
    refine congrArg some ?_
    induction rest with
    | nil => rfl
    | cons x rest ih =>
      rw [List.foldl_cons,max_eq_left (below x List.mem_cons_self)]
      exact ih fun y mem => below y (List.mem_cons_of_mem x mem)

theorem oldestLast {times : List Instant} (sorted : times.Pairwise fun a b => b ≤ a) :
    extreme min times = times.getLast? := by
  induction times with
  | nil => rfl
  | cons t rest ih =>
    obtain ⟨below,tail⟩ := List.pairwise_cons.mp sorted
    cases rest with
    | nil => rfl
    | cons x rest =>
      rw [List.getLast?_cons_cons,← ih tail]
      simp only [extreme,List.foldl_cons,min_eq_right (below x List.mem_cons_self)]

theorem statusesCounted (views : List NodeView) :
    views.countP (·.status = .online) + views.countP (·.status = .offline) = views.length := by
  have others : views.countP (fun v => ¬ decide (v.status = .online) = true) =
      views.countP (·.status = .offline) := by
    refine List.countP_congr fun v _ => ?_
    cases v.status <;> simp
  rw [← others]
  exact (views.length_eq_countP_add_countP (·.status = .online)).symm

structure Agrees (views : List NodeView) (s : Statistics) : Prop where
  total : s.total = views.length
  online : s.online = views.countP (·.status = .online)
  offline : s.offline = views.countP (·.status = .offline)
  parts : s.online + s.offline = s.total
  types : ∀ type count, (type,count) ∈ s.byType.entries ↔
    0 < count ∧ count = views.countP (·.record.type = type)
  summed : s.byType.values.sum = s.total
  newest : s.newest = views.head?.map (·.record.lastSeen)
  oldest : s.oldest = views.getLast?.map (·.record.lastSeen)

theorem ofRecordsAgrees {window : LivenessWindow} {now : Instant} {views : List NodeView}
    (shown : ∀ v ∈ views, v.status = window.statusAt v.record.lastSeen now)
    (sorted : (views.map (·.record.lastSeen)).Pairwise fun a b => b ≤ a) :
    (ofRecords window now (views.map (·.record))).Agrees views := by
  let s := ofRecords window now (views.map (·.record))
  have total : s.total = views.length := List.length_map _
  have online : s.online = views.countP (·.status = .online) := by
    refine List.countP_map.trans (List.countP_congr fun v mem => ?_)
    simp [shown v mem]
  have rest : s.offline = s.total - s.online := rfl
  have sides := statusesCounted views
  have offline : s.offline = views.countP (·.status = .offline) := by omega
  have parts : s.online + s.offline = s.total := by omega
  have byType : s.byType = tallies (views.map (·.record.type)) := by
    simp only [s,ofRecords,tallies,List.foldl_map]
  have times : (views.map (·.record)).map (·.lastSeen) = views.map (·.record.lastSeen) :=
    List.map_map
  exact {
    total := total
    online := online
    offline := offline
    parts := parts
    types := by
      intro type count
      rw [byType,talliesEntry,List.count_eq_countP,List.countP_map]
      rfl
    summed := by rw [byType,talliesSum,List.length_map,total]
    newest := by
      rw [← List.head?_map,← newestFirst sorted,← times]
      rfl
    oldest := by
      rw [← List.getLast?_map,← oldestLast sorted,← times]
      rfl }

end Statistics

namespace Registry
variable {reg : Registry} {now : Instant} {v : NodeView}

theorem listRecords (reg : Registry) (now : Instant) :
    ((reg.list now).map (·.record)).Perm reg.store.records := by
  have perm := (reg.listPerm now).map (·.record)
  rwa [List.map_map,List.map_id''] at perm
  exact fun _ => rfl

theorem listStatus (mem : v ∈ reg.list now) :
    v.status = reg.window.statusAt v.record.lastSeen now := by
  obtain ⟨r,_,shown⟩ := memList.mp mem
  subst shown
  rfl

theorem statisticsListed (reg : Registry) (now : Instant) :
    reg.statistics now = .ofRecords reg.window now ((reg.list now).map (·.record)) :=
  Statistics.ofRecordsPerm (reg.listRecords now).symm reg.window now

/-- The figures are those of the listing at the same reading, which has all records of the store. No time
is given exactly where nothing is listed. -/
theorem statisticsAgree (reg : Registry) (now : Instant) :
    (reg.statistics now).Agrees (reg.list now) ∧ (reg.list now).length = reg.store.size ∧
    ((reg.statistics now).newest = none ↔ reg.list now = []) ∧
    ((reg.statistics now).oldest = none ↔ reg.list now = []) ∧
    (reg.statistics now).takenAt = now := by
  have sorted : ((reg.list now).map (·.record.lastSeen)).Pairwise fun a b => b ≤ a := by
    refine List.pairwise_map.mpr ((reg.listStrict now).imp fun before => ?_)
    exact before.elim le_of_lt fun same => same.1.ge
  have agrees : (reg.statistics now).Agrees (reg.list now) := by
    rw [statisticsListed]
    exact Statistics.ofRecordsAgrees (fun v mem => listStatus mem) sorted
  have stored : (reg.list now).length = reg.store.size := by
    rw [(reg.listPerm now).length_eq,List.length_map,Store.sizeRecords]
  refine ⟨agrees,stored,?_,?_,rfl⟩
  · rw [agrees.newest,Option.map_eq_none_iff,List.head?_eq_none_iff]
  · rw [agrees.oldest,Option.map_eq_none_iff,List.getLast?_eq_none_iff]

end Registry
end Muster
