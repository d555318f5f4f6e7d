import Muster.Proofs.Gathering
/-! Several clients that write to one store at the same time. A write is one step of the store, so
that what they do together is one of the orders that keep the order of each of them. What a record
adds up to does not depend on which of these it is; only its description is that of the last. -/
namespace Muster

structure Write where
  client : Nat
  record : NodeRecord

namespace Write

def own (client : Nat) (writes : List Write) : List NodeRecord :=
  (writes.filter (·.client = client)).map (·.record)

def under (key : String) (writes : List Write) : List NodeRecord :=
  (writes.map (·.record)).filter (·.key = key)

end Write

open Write (own under)

def Interleaves (clients : List (List NodeRecord)) (writes : List Write) : Prop :=
  ∀ client, own client writes = clients.getD client []

def Separate (clients : List (List NodeRecord)) : Prop :=
  clients.Pairwise fun a b => ∀ x ∈ a, ∀ y ∈ b, x.key ≠ y.key

namespace Store

def written (s : Store) (writes : List Write) : Store :=
  (writes.map (·.record)).foldl upsert s

/- What the writes of one client return when nobody else writes. -/
def told (s : Store) : List NodeRecord → List NodeRecord
  | [] => []
  | r :: rest => s.merged r :: told (s.upsert r) rest

def outcomes (s : Store) : List Write → List Write
  | [] => []
  | w :: rest => ⟨w.client,s.merged w.record⟩ :: outcomes (s.upsert w.record) rest

end Store

theorem filterOwn (client : Nat) (writes : List Write) :
    writes.filter (·.client = client) = (own client writes).map (Write.mk client) := by
  rw [own,List.map_map]
  refine (List.map_id _).symm.trans (List.map_congr_left ?_)
  intro w mem
  have here : w.client = client := by simpa using (List.mem_filter.mp mem).2
  subst here
  rfl

/- Orders with the same subsequence for each client hold the same writes: the first of one comes
in the other behind writes of other clients only. -/
theorem permOfFilters {first second : List Write} (same : ∀ client : Nat,
    first.filter (·.client = client) = second.filter (·.client = client)) :
    first.Perm second := by
  induction first generalizing second with
  | nil =>
    cases second with
    | nil => exact .nil
    | cons w rest => simpa using same w.client
  | cons w rest ih =>
    have here := same w.client
    rw [List.filter_cons_of_pos (by simp),eq_comm,List.filter_eq_cons_iff] at here
    obtain ⟨before,after,split,others,_,later⟩ := here
    subst split
    have next : rest.Perm (before ++ after) := by
      refine ih fun client => ?_
      have both := same client
      by_cases own : w.client = client
      · subst own
        have none : before.filter (·.client = w.client) = [] := List.filter_eq_nil_iff.mpr others
        rw [List.filter_append,none,List.nil_append,later]
      · simpa [List.filter_append,own] using both
    exact (next.cons w).trans List.perm_middle.symm

variable {clients : List (List NodeRecord)} {first second writes : List Write} {s : Store}
  {key : String}

theorem interleavesPerm (one : Interleaves clients first) (two : Interleaves clients second) :
    first.Perm second :=
  permOfFilters fun client => by rw [filterOwn,filterOwn,one client,two client]

theorem memOwn (h : Interleaves clients writes) {w : Write} (mem : w ∈ writes) :
    w.record ∈ clients.getD w.client [] := by
  rw [← h]
  exact List.mem_map.mpr ⟨w,List.mem_filter.mpr ⟨mem,by simp⟩,rfl⟩

theorem clientAt {i : Nat} {r : NodeRecord} (mem : r ∈ clients.getD i []) :
    ∃ hi : i < clients.length, r ∈ clients[i] := by
  rw [List.getD_eq_getElem?_getD] at mem
  by_cases hi : i < clients.length
  · exact ⟨hi,by simpa [hi] using mem⟩
  · simp [hi] at mem

theorem memInterleaves (h : Interleaves clients writes) {w : Write} (mem : w ∈ writes) :
    ∃ client ∈ clients, w.record ∈ client := by
  obtain ⟨hi,inside⟩ := clientAt (memOwn h mem)
  exact ⟨_,List.getElem_mem hi,inside⟩

theorem memUnder {r : NodeRecord} :
    r ∈ under key writes ↔ ∃ w ∈ writes, w.record = r ∧ r.key = key := by
  simp only [under,List.mem_filter,List.mem_map,decide_eq_true_eq]
  constructor
  · rintro ⟨⟨w,mem,same⟩,here⟩
    exact ⟨w,mem,same,here⟩
  · rintro ⟨w,mem,same,here⟩
    exact ⟨⟨w,mem,same⟩,here⟩

theorem getWritten (s : Store) (writes : List Write) (key : String) :
    (s.written writes).get? key = (under key writes).foldl Store.absorb (s.get? key) :=
  Store.getFold _ s key

theorem gathersWritten (counted : ∀ client ∈ clients, ∀ r ∈ client, 1 ≤ r.heartbeats)
    (h : Interleaves clients writes) (s : Store) {r : NodeRecord}
    (stored : (s.written writes).get? key = some r) :
    Gathers ((s.get? key).toList ++ under key writes) r := by
  have held : ∀ x ∈ s.get? key, x.key = key := fun x here => Store.keyOfGet here
  have own : ∀ x ∈ under key writes, x.key = key := by
    intro x mem
    obtain ⟨_,_,_,own⟩ := memUnder.mp mem
    exact own
  have once : ∀ x ∈ under key writes, 1 ≤ x.heartbeats := by
    intro x mem
    obtain ⟨w,here,rfl,_⟩ := memUnder.mp mem
    obtain ⟨client,listed,inside⟩ := memInterleaves h here
    exact counted client listed w.record inside
  have known := gathersFold held own once
  rw [← getWritten,stored] at known
  exact known.1

theorem underPerm (one : Interleaves clients first) (two : Interleaves clients second)
    (key : String) : (under key first).Perm (under key second) :=
  ((interleavesPerm one two).map _).filter _

theorem getWrittenNone : (s.written writes).get? key = none ↔
    s.get? key = none ∧ under key writes = [] := by
  rw [getWritten,Store.absorbedNone]

theorem toldKeeps {s t : Store} {records : List NodeRecord}
    (same : ∀ r ∈ records, s.get? r.key = t.get? r.key) : s.told records = t.told records := by
  induction records generalizing s t with
  | nil => rfl
  | cons r rest ih =>
    have here : s.merged r = t.merged r := by
      simp only [Store.merged,same r List.mem_cons_self]
    simp only [Store.told,here]
    refine congrArg _ (ih fun x mem => ?_)
    rw [Store.getMerged,Store.getMerged,here,same x (List.mem_cons_of_mem _ mem)]

theorem ownOutcomes {client : Nat} (apart : ∀ w ∈ writes, w.client ≠ client →
    ∀ r ∈ own client writes, w.record.key ≠ r.key) (s : Store) :
    own client (s.outcomes writes) = s.told (own client writes) := by
  induction writes generalizing s with
  | nil => rfl
  | cons w rest ih =>
    by_cases here : w.client = client
    · have mine : own client (w :: rest) = w.record :: own client rest := by simp [own,here]
      have next := ih (fun x mem other r inside => apart x (List.mem_cons_of_mem _ mem) other r
        (mine ▸ List.mem_cons_of_mem _ inside)) (s.upsert w.record)
      rw [mine,Store.told,← next]
      simp [own,Store.outcomes,here]
    · have others : own client (w :: rest) = own client rest := by simp [own,here]
      rw [others] at apart ⊢
      have next := ih (fun x mem => apart x (List.mem_cons_of_mem _ mem)) (s.upsert w.record)
      have kept : (s.upsert w.record).told (own client rest) = s.told (own client rest) := by
        refine toldKeeps fun r mem => ?_
        rw [Store.getMerged,if_neg (apart w List.mem_cons_self here r mem)]
      rw [← kept,← next]
      simp [own,Store.outcomes,here]

theorem separateAt (separate : Separate clients) {i j : Nat} (differ : i ≠ j) {x y : NodeRecord}
    (here : x ∈ clients.getD i []) (there : y ∈ clients.getD j []) : x.key ≠ y.key := by
  obtain ⟨hi,inside⟩ := clientAt here
  obtain ⟨hj,also⟩ := clientAt there
  have apart := List.pairwise_iff_getElem.mp separate
  rcases Nat.lt_or_gt_of_ne differ with less | more
  · exact apart i j hi hj less x inside y also
  · exact (apart j i hj hi more y also x inside).symm

theorem separateOwn (separate : Separate clients) (h : Interleaves clients writes) {w : Write}
    (mem : w ∈ writes) {client : Nat} (other : w.client ≠ client) {r : NodeRecord}
    (there : r ∈ own client writes) : w.record.key ≠ r.key := by
  rw [h] at there
  exact separateAt separate other (memOwn h mem) there

theorem underOwn {client : Nat} (only : ∀ w ∈ writes, w.record.key = key → w.client = client) :
    under key writes = (own client writes).filter (·.key = key) := by
  rw [under,own,List.filter_map,List.filter_map,List.filter_filter]
  refine congrArg _ (List.filter_congr fun w mem => ?_)
  by_cases here : w.record.key = key
  · simp [here,only w mem here]
  · simp [here]

theorem underSeparate (separate : Separate clients) (one : Interleaves clients first)
    (two : Interleaves clients second) (key : String) : under key first = under key second := by
  cases found : under key first with
  | nil =>
    have perm := underPerm one two key
    rw [found] at perm
    exact perm.nil_eq
  | cons r rest =>
    obtain ⟨w,mem,rfl,here⟩ := memUnder.mp (found ▸ List.mem_cons_self : r ∈ under key first)
    have inside := memOwn one mem
    have only {writes : List Write} (h : Interleaves clients writes) :
        ∀ x ∈ writes, x.record.key = key → x.client = w.client := by
      intro x there same
      by_contra other
      have apart := separateOwn separate h there other (h w.client ▸ inside)
      exact apart (same.trans here.symm)
    rw [← found,underOwn (only one),underOwn (only two),one,two]

/-- Whatever order the writes of several clients come in, the store ends with the same keys and with
the same times and counts under each of them, and no heartbeat is lost; the description under a key
is that of its last write. Clients that share no key find the very same store, and are told the same
at every write. -/
theorem writersConverge (s : Store) (counted : ∀ client ∈ clients, ∀ r ∈ client, 1 ≤ r.heartbeats)
    (one : Interleaves clients first) (two : Interleaves clients second) :
    (∀ key, (s.written first).get? key = none ↔ (s.written second).get? key = none) ∧
    (∀ key a b, (s.written first).get? key = some a → (s.written second).get? key = some b →
      a.firstSeen = b.firstSeen ∧ a.lastSeen = b.lastSeen ∧ a.heartbeats = b.heartbeats) ∧
    (∀ writes, Interleaves clients writes → ∀ key r, (s.written writes).get? key = some r →
      Gathers ((s.get? key).toList ++ under key writes) r) ∧
    (Separate clients → s.written first = s.written second ∧
      ∀ client, own client (s.outcomes first) = own client (s.outcomes second)) := by
  refine ⟨fun key => ?_,fun key a b here there => ?_,
    fun writes h key r stored => gathersWritten counted h s stored,?_⟩
  · rw [getWrittenNone,getWrittenNone,← List.length_eq_zero_iff,(underPerm one two key).length_eq,
      List.length_eq_zero_iff]
  · exact gathersPerm ((underPerm one two key).append_left _)
      (gathersWritten counted one s here) (gathersWritten counted two s there)
  · intro separate
    refine ⟨Store.getExt fun key => ?_,fun client => ?_⟩
    · rw [getWritten,getWritten,underSeparate separate one two]
    · have alone {writes : List Write} (h : Interleaves clients writes) :
          own client (s.outcomes writes) = s.told (clients.getD client []) := by
        rw [ownOutcomes fun w mem other r there => separateOwn separate h mem other there,h]
      rw [alone one,alone two]

theorem writersConvergeTwo :
    let a : NodeRecord :=
      ⟨"orb","web","k1",none,none,none,.ofMillis 5000,.ofMillis 5000,18446744073709551615⟩
    let b : NodeRecord := ⟨"moon","web","k1",none,none,none,.ofMillis 2000,.ofMillis 2000,3⟩
    let c : NodeRecord := ⟨"sun","web","k2",none,none,none,.ofMillis 9000,.ofMillis 9000,1⟩
    let count (clients : List (List NodeRecord)) : Prop :=
      ∀ client ∈ clients, ∀ r ∈ client, 1 ≤ r.heartbeats
    (count [[a,c],[b]] ∧ Interleaves [[a,c],[b]] [⟨0,a⟩,⟨1,b⟩,⟨0,c⟩] ∧
      Interleaves [[a,c],[b]] [⟨1,b⟩,⟨0,a⟩,⟨0,c⟩] ∧
      ∃ x y, (Store.empty.written [⟨0,a⟩,⟨1,b⟩,⟨0,c⟩]).get? "k1" = some x ∧
        (Store.empty.written [⟨1,b⟩,⟨0,a⟩,⟨0,c⟩]).get? "k1" = some y ∧
        x.name = "moon" ∧ y.name = "orb" ∧ x.firstSeen = y.firstSeen ∧ x.lastSeen = y.lastSeen ∧
        x.heartbeats = y.heartbeats) ∧
    count [[a],[c]] ∧ Separate [[a],[c]] ∧ Interleaves [[a],[c]] [⟨0,a⟩,⟨1,c⟩] ∧
      Interleaves [[a],[c]] [⟨1,c⟩,⟨0,a⟩] ∧
      Store.empty.written [⟨0,a⟩,⟨1,c⟩] = Store.empty.written [⟨1,c⟩,⟨0,a⟩] := by
  intro a b c count
  have shared : count [[a,c],[b]] := by simp [count]; decide
  have apart : count [[a],[c]] := by simp [count]; decide
  have one : Interleaves [[a,c],[b]] [⟨0,a⟩,⟨1,b⟩,⟨0,c⟩]
    | 0 | 1 | _ + 2 => rfl
  have two : Interleaves [[a,c],[b]] [⟨1,b⟩,⟨0,a⟩,⟨0,c⟩]
    | 0 | 1 | _ + 2 => rfl
  have three : Interleaves [[a],[c]] [⟨0,a⟩,⟨1,c⟩]
    | 0 | 1 | _ + 2 => rfl
  have four : Interleaves [[a],[c]] [⟨1,c⟩,⟨0,a⟩]
    | 0 | 1 | _ + 2 => rfl
  have separate : Separate [[a],[c]] := by simp [Separate,a,c]
  obtain ⟨_,same,_⟩ := writersConverge .empty shared one two
  obtain ⟨_,_,_,alike⟩ := writersConverge .empty apart three four
  have here : (Store.empty.written [⟨0,a⟩,⟨1,b⟩,⟨0,c⟩]).get? "k1" = some (a.merge b) := by
    simp [getWritten,under,Store.absorb,a,b,c]
  have there : (Store.empty.written [⟨1,b⟩,⟨0,a⟩,⟨0,c⟩]).get? "k1" = some (b.merge a) := by
    simp [getWritten,under,Store.absorb,a,b,c]
  have counts := same "k1" (a.merge b) (b.merge a) here there
  exact ⟨⟨shared,one,two,a.merge b,b.merge a,here,there,rfl,rfl,counts⟩,apart,separate,three,four,
    (alike separate).1⟩

end Muster
