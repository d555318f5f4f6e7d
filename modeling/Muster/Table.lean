/-! Finite maps from text to values. The entries stand in ascending key order, one per key, so
that two tables with the same values under the same keys are the same table. -/
namespace Muster

namespace Entries
variable {β : Type}

def find? (key : String) : List (String × β) → Option β
  | [] => none
  | (k,v) :: rest => if k = key then some v else find? key rest

/- The last value given to a key stands; a new key goes before the first greater one. -/
def put (key : String) (value : β) : List (String × β) → List (String × β)
  | [] => [(key,value)]
  | (k,v) :: rest =>
      if key < k then (key,value) :: (k,v) :: rest
      else if k = key then (key,value) :: rest
      else (k,v) :: put key value rest

def ofPairs (pairs : List (String × β)) : List (String × β) :=
  pairs.foldl (fun entries (key,value) => put key value entries) []

abbrev Ascending (entries : List (String × β)) : Prop :=
  entries.Pairwise fun a b => a.1 < b.1

theorem findPut (key other : String) (value : β) (entries : List (String × β)) :
    find? other (put key value entries) = if key = other then some value else find? other entries := by
  induction entries with
  | nil => simp [put,find?]
  | cons e rest ih =>
    obtain ⟨k,v⟩ := e
    simp only [put]
    split
    · simp [find?]
    · split
      · next same => subst same; simp only [find?]; split <;> rfl
      · next differ =>
        simp only [find?,ih]
        by_cases hk : k = other
        · have : key ≠ other := fun h => differ (hk.trans h.symm)
          simp [hk,this]
        · simp [hk]

theorem memOfFind {key : String} {value : β} {entries : List (String × β)}
    (h : find? key entries = some value) : (key,value) ∈ entries := by
  induction entries with
  | nil => simp [find?] at h
  | cons e rest ih =>
    obtain ⟨k,v⟩ := e
    simp only [find?] at h
    split at h
    · next same => cases h; exact same ▸ List.mem_cons_self
    · exact List.mem_cons_of_mem _ (ih h)

theorem memPut {key : String} {value : β} {entries : List (String × β)} {e : String × β}
    (h : e ∈ put key value entries) : e = (key,value) ∨ e ∈ entries := by
  induction entries with
  | nil => simpa [put] using h
  | cons a rest ih =>
    obtain ⟨k,v⟩ := a
    simp only [put] at h
    split at h
    · exact List.mem_cons.1 h
    · split at h
      · exact (List.mem_cons.1 h).imp_right (List.mem_cons_of_mem _)
      · rcases List.mem_cons.1 h with rfl | h
        · exact .inr List.mem_cons_self
        · exact (ih h).imp_right (List.mem_cons_of_mem _)

theorem ascendingPut (key : String) (value : β) {entries : List (String × β)}
    (h : Ascending entries) : Ascending (put key value entries) := by
  induction entries with
  | nil => simp [put,Ascending]
  | cons e rest ih =>
    obtain ⟨k,v⟩ := e
    obtain ⟨first,tail⟩ := List.pairwise_cons.1 h
    simp only [put]
    split
    · next lt =>
      refine List.pairwise_cons.2 ⟨fun b hb => ?_,h⟩
      rcases List.mem_cons.1 hb with rfl | hb
      · exact lt
      · exact String.lt_trans lt (first b hb)
    · next notLt =>
      split
      · next same => subst same; exact List.pairwise_cons.2 ⟨first,tail⟩
      · next differ =>
        have above : k < key := by
          rcases String.le_total key k with le | le
          · exact absurd (String.le_antisymm (String.not_lt.1 notLt) le) differ
          · rcases Classical.em (k < key) with lt | not
            · exact lt
            · exact absurd (String.le_antisymm le (String.not_lt.1 not)) differ
        refine List.pairwise_cons.2 ⟨fun b hb => ?_,ih tail⟩
        rcases memPut hb with rfl | inside
        · exact above
        · exact first b inside

end Entries

structure Table (β : Type) where
  entries : List (String × β)
  ascending : Entries.Ascending entries

namespace Table
variable {β : Type}

def empty : Table β := ⟨[],.nil⟩

def get? (t : Table β) (key : String) : Option β := Entries.find? key t.entries

def insert (t : Table β) (key : String) (value : β) : Table β :=
  ⟨Entries.put key value t.entries,Entries.ascendingPut key value t.ascending⟩

def size (t : Table β) : Nat := t.entries.length

def keys (t : Table β) : List String := t.entries.map (·.1)

def values (t : Table β) : List β := t.entries.map (·.2)

instance : EmptyCollection (Table β) := ⟨empty⟩

@[simp] theorem getEmpty (key : String) : (empty : Table β).get? key = none := rfl

@[simp] theorem getInsert (t : Table β) (key other : String) (value : β) :
    (t.insert key value).get? other = if key = other then some value else t.get? other :=
  Entries.findPut key other value t.entries

end Table
end Muster
