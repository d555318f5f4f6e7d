import Mathlib.Data.List.Sort
import Muster.Proofs.ByteOrder
import Muster.Proofs.Enumeration
import Muster.Proofs.Searching
/-! What is listed and looked up, and in which order. Every record is listed once. Who was seen last stands
first, and of those seen at one instant the bytes of the keys decide; no two records have one key, so
that the order is strict. A search leaves nodes out of the listing and moves none; a lookup has one view
of each key that is known, at the place where the key is first asked for. -/
namespace Muster

def NodeView.Before (a b : NodeView) : Prop :=
  b.record.lastSeen < a.record.lastSeen ∨
    (a.record.lastSeen = b.record.lastSeen ∧ Text.bytes a.record.key < Text.bytes b.record.key)

namespace Registry
variable {reg : Registry} {now : Instant} {query : String} {r : NodeRecord} {v : NodeView}

theorem beforeOfNewer {a b : NodeView} (newer : newerFirst a b = true)
    (apart : a.record.key ≠ b.record.key) : a.Before b := by
  rcases newerFirstIff.mp newer with later | ⟨same,below⟩
  · exact .inl later
  · by_cases less : a.record.key < b.record.key
    · exact .inr ⟨same,Text.bytesLess.mp less⟩
    · exact absurd (String.le_antisymm below (String.not_lt.mp less)) apart

theorem listPerm (reg : Registry) (now : Instant) :
    (reg.list now).Perm (reg.store.records.map (reg.window.view now)) :=
  List.mergeSort_perm _ _

theorem listKeysNodup (reg : Registry) (now : Instant) :
    ((reg.list now).map (·.record.key)).Nodup := by
  have keys := (reg.listPerm now).map (·.record.key)
  refine keys.nodup_iff.mpr ?_
  rw [List.map_map]
  exact reg.store.recordKeysNodup

theorem listStrict (reg : Registry) (now : Instant) : (reg.list now).Pairwise NodeView.Before := by
  have sorted := orderSorted (reg.views now reg.store.records)
  have apart := List.pairwise_map.mp (reg.listKeysNodup now)
  exact (sorted.and apart).imp fun ⟨newer,differ⟩ => beforeOfNewer newer differ

end Registry

namespace Store
variable {keys seen : List String}

theorem distinctOrder : (distinctAfter seen keys).Pairwise fun a b => keys.idxOf a < keys.idxOf b := by
  induction keys generalizing seen with
  | nil => exact .nil
  | cons k rest ih =>
    -- Keys other than the first are one place further on than in the rest.
    have further {seen : List String} (old : k ∈ seen) : (distinctAfter seen rest).Pairwise
        fun a b => (k :: rest).idxOf a < (k :: rest).idxOf b := by
      have other {key : String} (mem : key ∈ distinctAfter seen rest) : k ≠ key := fun same =>
        (memDistinctAfter.mp mem).2 (same ▸ old)
      refine ih.imp_of_mem fun here there less => ?_
      rw [List.idxOf_cons_ne _ (other here),List.idxOf_cons_ne _ (other there)]
      omega
    simp only [distinctAfter]
    split
    · next old => exact further old
    · next new =>
      refine List.pairwise_cons.mpr ⟨fun key mem => ?_,further List.mem_cons_self⟩
      have differ : k ≠ key := fun same =>
        (memDistinctAfter.mp mem).2 (same ▸ List.mem_cons_self)
      rw [List.idxOf_cons_self,List.idxOf_cons_ne _ differ]
      omega

theorem placesOrder (unique : keys.Nodup) :
    keys.Pairwise fun a b => keys.idxOf a < keys.idxOf b := by
  refine List.pairwise_iff_getElem.mpr fun i j hi hj less => ?_
  rwa [unique.idxOf_getElem,unique.idxOf_getElem]

theorem lookupOrder (s : Store) (keys : List String) :
    (s.lookup keys).Pairwise fun a b => keys.idxOf a.key < keys.idxOf b.key := by
  have places : (distinct keys).Pairwise fun a b => keys.idxOf a < keys.idxOf b := distinctOrder
  refine places.filterMap _ ?_
  intro a b less x here y there
  rw [keyOfGet here,keyOfGet there]
  exact less

end Store

namespace Registry
variable {reg : Registry} {now : Instant} {keys : List String}

/- One view of each known key that is asked for, as it is listed, in the order of first asking. -/
structure Found (reg : Registry) (now : Instant) (keys : List String) (views : List NodeView) :
    Prop where
  known : ∀ key, key ∈ views.map (·.record.key) ↔ key ∈ keys ∧ (reg.store.get? key).isSome
  listed : ∀ v ∈ views, v ∈ reg.list now
  order : views.Pairwise fun a b => keys.idxOf a.record.key < keys.idxOf b.record.key

theorem listKnown (reg : Registry) (now : Instant) {key : String} :
    key ∈ (reg.list now).map (·.record.key) ↔ (reg.store.get? key).isSome := by
  rw [((reg.listPerm now).map _).mem_iff,List.map_map,List.mem_map,Option.isSome_iff_exists]
  refine exists_congr fun r => ?_
  constructor
  · intro shown
    obtain ⟨mem,own⟩ := shown
    exact own ▸ Store.memRecords.mp mem
  · intro found
    exact ⟨Store.memOfGet found,Store.keyOfGet found⟩

theorem lookupFound (reg : Registry) (now : Instant) (keys : List String) :
    Found reg now keys (reg.lookup now keys) where
  known := by
    intro key
    rw [lookup,viewsKeys,List.mem_map,Option.isSome_iff_exists]
    simp only [Store.memLookup]
    constructor
    · intro shown
      obtain ⟨r,⟨asked,mem⟩,own⟩ := shown
      exact ⟨own ▸ asked,r,own ▸ Store.memRecords.mp mem⟩
    · intro known
      obtain ⟨asked,r,found⟩ := known
      have own := Store.keyOfGet found
      exact ⟨r,⟨own.symm ▸ asked,Store.memOfGet found⟩,own⟩
  listed := by
    intro v mem
    obtain ⟨r,fetched,shown⟩ := List.mem_map.mp mem
    have stored := (Store.memLookup.mp fetched).2
    exact memList.mpr ⟨r,stored,shown⟩
  order := List.pairwise_map.mpr (reg.store.lookupOrder keys)

theorem foundMember {views others : List NodeView} (here : Found reg now keys views)
    (there : Found reg now keys others) {v : NodeView} (mem : v ∈ views) : v ∈ others := by
  have known := (here.known v.record.key).mp (List.mem_map_of_mem mem)
  obtain ⟨w,found,same⟩ := List.mem_map.mp ((there.known v.record.key).mpr known)
  have equal := List.inj_on_of_nodup_map (reg.listKeysNodup now) (there.listed w found)
    (here.listed v mem) same
  exact equal ▸ found

theorem foundUnique {views others : List NodeView} (here : Found reg now keys views)
    (there : Found reg now keys others) : views = others := by
  have members (v : NodeView) : v ∈ views ↔ v ∈ others :=
    ⟨foundMember here there,foundMember there here⟩
  have strict : Std.Asymm fun a b : NodeView => keys.idxOf a.record.key < keys.idxOf b.record.key :=
    ⟨fun _ _ => Nat.lt_asymm⟩
  exact here.order.eq_of_mem_iff there.order members

theorem foundTwice {views : List NodeView} (found : Found reg now keys views) :
    Found reg now (keys ++ keys) views where
  known key := by rw [List.mem_append,or_self]; exact found.known key
  listed := found.listed
  order := by
    have asked {v : NodeView} (mem : v ∈ views) : v.record.key ∈ keys :=
      ((found.known v.record.key).mp (List.mem_map_of_mem mem)).1
    refine found.order.imp_of_mem fun here there less => ?_
    rwa [List.idxOf_append_of_mem (asked here),List.idxOf_append_of_mem (asked there)]

theorem listFound (reg : Registry) (now : Instant) :
    Found reg now ((reg.list now).map (·.record.key)) (reg.list now) where
  known key := by rw [← reg.listKnown now,and_self]
  listed _ mem := mem
  order := by
    have places := List.pairwise_map.mp (Store.placesOrder (reg.listKeysNodup now))
    exact places

/-- A lookup gives just what is described by its keys. Asking for all keys once more gives the same, and
the keys of the listing, in its order, give the listing. -/
theorem lookupsFirstAsked (reg : Registry) (now : Instant) (keys : List String) :
    Found reg now keys (reg.lookup now keys) ∧
    (∀ views, Found reg now keys views → views = reg.lookup now keys) ∧
    reg.lookup now (keys ++ keys) = reg.lookup now keys ∧
    reg.lookup now ((reg.list now).map (·.record.key)) = reg.list now := by
  have found := reg.lookupFound now keys
  refine ⟨found,fun views other => foundUnique other found,?_,?_⟩
  · exact foundUnique (reg.lookupFound now (keys ++ keys)) (foundTwice found)
  · exact foundUnique (reg.lookupFound now _) (reg.listFound now)

end Registry
end Muster
