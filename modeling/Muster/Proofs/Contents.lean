import Mathlib.Data.List.Induction
import Mathlib.Data.List.Nodup
import Mathlib.Data.List.Sort
import Muster.Store
/-! What stands in a table and in the store. A table answers for a key exactly what stands in it
under that key; a store has one record for each of its keys. -/
namespace Muster

namespace Entries
variable {β : Type} {entries : List (String × β)}

theorem keysNodup (h : Ascending entries) : (entries.map Prod.fst).Nodup := by
  have sorted : (entries.map Prod.fst).Pairwise (· < ·) := List.pairwise_map.mpr h
  refine sorted.imp ?_
  intro a b less same
  subst same
  exact String.lt_irrefl a less

theorem findOfMem {key : String} {value : β} (unique : (entries.map Prod.fst).Nodup)
    (mem : (key,value) ∈ entries) : find? key entries = some value := by
  induction entries with
  | nil => simp at mem
  | cons e rest ih =>
    obtain ⟨k,v⟩ := e
    obtain ⟨fresh,unique⟩ := List.nodup_cons.mp unique
    simp only [find?]
    rcases List.mem_cons.mp mem with same | inside
    · cases same
      exact if_pos rfl
    · have differ : k ≠ key := by
        intro same
        exact fresh (same ▸ List.mem_map.mpr ⟨(key,value),inside,rfl⟩)
      rw [if_neg differ]
      exact ih unique inside

theorem memIff {key : String} {value : β} (unique : (entries.map Prod.fst).Nodup) :
    (key,value) ∈ entries ↔ find? key entries = some value :=
  ⟨findOfMem unique,memOfFind⟩

theorem findExt {others : List (String × β)} (here : Ascending entries) (there : Ascending others)
    (same : ∀ key, find? key entries = find? key others) : entries = others := by
  have one := keysNodup here
  have two := keysNodup there
  have members (e : String × β) : e ∈ entries ↔ e ∈ others := by
    rw [memIff one,memIff two,same]
  have strict : Std.Asymm fun a b : String × β => a.1 < b.1 :=
    ⟨fun a _ less more => String.lt_irrefl a.1 (String.lt_trans less more)⟩
  exact here.eq_of_mem_iff there members

theorem findOfPairs (key : String) (pairs : List (String × β)) :
    find? key (ofPairs pairs) = find? key pairs.reverse := by
  induction pairs using List.reverseRecOn with
  | nil => rfl
  | append_singleton pairs e ih =>
    rw [ofPairs,List.foldl_append,List.reverse_append]
    simp only [List.foldl_cons,List.foldl_nil,findPut,List.reverse_singleton,List.singleton_append,
      find?,← ih]
    rfl

theorem findInPairs {pairs : List (String × β)} {e : String × β}
    (unique : (pairs.map Prod.fst).Nodup) (mem : e ∈ pairs) :
    find? e.1 (ofPairs pairs) = some e.2 := by
  rw [findOfPairs]
  refine findOfMem ?_ (List.mem_reverse.mpr mem)
  rw [List.map_reverse]
  exact List.nodup_reverse.mpr unique

theorem findAbove {key : String} (above : ∀ e ∈ entries, e.1 < key) : find? key entries = none := by
  induction entries with
  | nil => rfl
  | cons e rest ih =>
    obtain ⟨here,behind⟩ := List.forall_mem_cons.mp above
    have differ : e.1 ≠ key := fun same => String.lt_irrefl key (same ▸ here)
    simp only [find?,if_neg differ,ih behind]

theorem putAbove {key : String} (above : ∀ e ∈ entries, e.1 < key) (value : β) :
    put key value entries = entries ++ [(key,value)] := by
  induction entries with
  | nil => rfl
  | cons e rest ih =>
    obtain ⟨here,behind⟩ := List.forall_mem_cons.mp above
    have differ : e.1 ≠ key := fun same => String.lt_irrefl key (same ▸ here)
    have less : ¬ key < e.1 := fun less => String.lt_irrefl key (String.lt_trans less here)
    simp only [put,if_neg less,if_neg differ,ih behind,List.cons_append]

theorem findSome {key : String} :
    (∃ value, find? key entries = some value) ↔ key ∈ entries.map Prod.fst := by
  induction entries with
  | nil => simp [find?]
  | cons e rest ih =>
    simp only [find?,List.map_cons,List.mem_cons]
    split
    · next same => exact iff_of_true ⟨_,rfl⟩ (.inl same.symm)
    · next other => rw [ih,or_iff_right (Ne.symm other)]

theorem ofPairsAscending (pairs : List (String × β)) : Ascending (ofPairs pairs) := by
  induction pairs using List.reverseRecOn with
  | nil => exact .nil
  | append_singleton pairs e ih =>
    rw [ofPairs,List.foldl_append]
    exact ascendingPut e.1 e.2 ih

theorem memOfPairs {pairs : List (String × β)} {e : String × β} (mem : e ∈ ofPairs pairs) :
    e ∈ pairs := by
  have found := findOfMem (keysNodup (ofPairsAscending pairs)) mem
  rw [findOfPairs] at found
  exact List.mem_reverse.mp (memOfFind found)

theorem keysOfPairs {pairs : List (String × β)} {key : String} :
    key ∈ (ofPairs pairs).map Prod.fst ↔ key ∈ pairs.map Prod.fst := by
  rw [← findSome,findOfPairs,findSome,List.map_reverse,List.mem_reverse]

end Entries

theorem Table.getExt {β : Type} {a b : Table β} (same : ∀ key, a.get? key = b.get? key) :
    a = b := by
  obtain ⟨entries,here⟩ := a
  obtain ⟨others,there⟩ := b
  cases Entries.findExt here there same
  rfl

namespace Store
variable {s : Store} {r : NodeRecord} {key : String}

theorem getExt {s t : Store} (same : ∀ key, s.get? key = t.get? key) : s = t := by
  obtain ⟨nodes,keyed⟩ := s
  obtain ⟨others,_⟩ := t
  cases (Table.getExt same : nodes = others)
  rfl

theorem memRecords : r ∈ s.records ↔ s.get? r.key = some r := by
  have unique := Entries.keysNodup s.nodes.ascending
  constructor
  · intro mem
    obtain ⟨⟨k,stored⟩,inside,same⟩ := List.mem_map.mp mem
    have own : stored.key = k := s.keyed _ inside
    cases same
    rw [own]
    exact Entries.findOfMem unique inside
  · intro found
    exact List.mem_map.mpr ⟨(r.key,r),Entries.memOfFind found,rfl⟩

theorem memOfGet (found : s.get? key = some r) : r ∈ s.records := by
  have own := keyOfGet found
  exact memRecords.mpr (own.symm ▸ found)

theorem mergedUnder (s : Store) (r : NodeRecord) : (s.upsert r).get? r.key = some (s.merged r) := by
  rw [getMerged,if_pos rfl]

theorem recordKeys (s : Store) : s.records.map (·.key) = s.nodes.entries.map Prod.fst := by
  simp only [records,Table.values,List.map_map]
  exact List.map_congr_left s.keyed

theorem recordKeysNodup (s : Store) : (s.records.map (·.key)).Nodup := by
  rw [recordKeys]
  exact Entries.keysNodup s.nodes.ascending

theorem sizeRecords (s : Store) : s.records.length = s.size := List.length_map _

theorem memDistinctAfter {seen keys : List String} :
    key ∈ distinctAfter seen keys ↔ key ∈ keys ∧ key ∉ seen := by
  induction keys generalizing seen with
  | nil => simp [distinctAfter]
  | cons k rest ih =>
    simp only [distinctAfter]
    split
    · next old =>
      rw [ih,List.mem_cons]
      refine and_congr_left fun new => ?_
      have differ : key ≠ k := fun same => new (same ▸ old)
      simp [differ]
    · next new =>
      rw [List.mem_cons,ih,List.mem_cons,List.mem_cons]
      by_cases same : key = k
      · subst same; simp [new]
      · simp [same]

theorem memLookup {keys : List String} : r ∈ s.lookup keys ↔ r.key ∈ keys ∧ r ∈ s.records := by
  have asked {k : String} : k ∈ distinct keys ↔ k ∈ keys := by simp [distinct,memDistinctAfter]
  simp only [lookup,List.mem_filterMap,asked]
  constructor
  · rintro ⟨k,mem,found⟩
    exact ⟨keyOfGet found ▸ mem,memOfGet found⟩
  · rintro ⟨mem,inside⟩
    exact ⟨r.key,mem,memRecords.mp inside⟩

end Store
end Muster
