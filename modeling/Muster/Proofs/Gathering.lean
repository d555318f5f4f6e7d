import Mathlib.Algebra.BigOperators.Group.List.Basic
import Mathlib.Algebra.GroupWithZero.Nat
import Mathlib.Data.List.Induction
import Mathlib.Order.Bounds.Basic
import Muster.Proofs.Contents
import Muster.Proofs.Instants
/-! What the records written under one key add up to. Nothing is assumed of their times, so that the
last record written need not be the latest seen. -/
namespace Muster

namespace Store

/- What becomes of the record of a key when another one is written under that key. -/
def absorb (stored : Option NodeRecord) (r : NodeRecord) : Option NodeRecord :=
  some (match stored with
    | some old => old.merge r
    | none => r)

theorem getUpsert (s : Store) (r : NodeRecord) (key : String) : (s.upsert r).get? key =
    if r.key = key then absorb (s.get? key) r else s.get? key := by
  rw [getMerged]
  split
  · next own =>
    subst own
    cases stored : s.get? r.key <;> simp [merged,absorb,stored]
  · rfl

theorem getFold (records : List NodeRecord) (s : Store) (key : String) :
    (records.foldl upsert s).get? key =
      (records.filter (·.key = key)).foldl absorb (s.get? key) := by
  induction records generalizing s with
  | nil => rfl
  | cons r rest ih =>
    rw [List.foldl_cons,ih,getUpsert]
    by_cases own : r.key = key
    · simp [own]
    · simp [own]

theorem absorbedNone {stored : Option NodeRecord} {records : List NodeRecord} :
    records.foldl absorb stored = none ↔ stored = none ∧ records = [] := by
  cases records using List.reverseRecOn with
  | nil => simp
  | append_singleton before last => simp [absorb]

end Store

structure Resembles (a b : NodeRecord) : Prop where
  name : a.name = b.name
  type : a.type = b.type
  host : a.host = b.host
  port : a.port = b.port
  additional : a.additional = b.additional

/- A record made of others: the least and the greatest of their times, all their heartbeats as far
as the count goes, and the description of the last. -/
structure Gathers (seen : List NodeRecord) (r : NodeRecord) : Prop where
  key : ∀ x ∈ seen, x.key = r.key
  firstSeen : IsLeast {t | ∃ x ∈ seen, x.firstSeen = t} r.firstSeen
  lastSeen : IsGreatest {t | ∃ x ∈ seen, x.lastSeen = t} r.lastSeen
  heartbeats : r.heartbeats.toNat =
    min (seen.map (·.heartbeats.toNat)).sum (UInt64.size - 1)
  latest : ∃ last, seen.getLast? = some last ∧ Resembles last r

theorem countedOnce {n : UInt64} (counted : 1 ≤ n) : max n 1 = n := by
  change (if n ≤ 1 then 1 else n) = n
  split
  · next few => exact UInt64.le_antisymm counted few
  · rfl

theorem gathersOne (r : NodeRecord) : Gathers [r] r where
  key := by simp
  firstSeen := by simp
  lastSeen := by simp
  heartbeats := by
    have small := r.heartbeats.toNat_lt
    simp only [List.map_cons,List.map_nil,List.sum_cons,List.sum_nil,UInt64.size]
    omega
  latest := ⟨r,rfl,⟨rfl,rfl,rfl,rfl,rfl⟩⟩

theorem gathersNext {seen : List NodeRecord} {r x : NodeRecord} (known : Gathers seen r)
    (own : x.key = r.key) (counted : 1 ≤ x.heartbeats) : Gathers (seen ++ [x]) (r.merge x) where
  key := by
    intro y mem
    rcases List.mem_append.mp mem with old | new
    · exact known.key y old
    · exact List.mem_singleton.mp new ▸ own
  firstSeen := by
    have wider : {t | ∃ y ∈ seen ++ [x], y.firstSeen = t} =
        insert x.firstSeen {t | ∃ y ∈ seen, y.firstSeen = t} := by
      ext t
      simp [or_and_right,exists_or,or_comm,eq_comm]
    rw [wider,NodeRecord.merge,min_comm]
    exact known.firstSeen.insert x.firstSeen
  lastSeen := by
    have wider : {t | ∃ y ∈ seen ++ [x], y.lastSeen = t} =
        insert x.lastSeen {t | ∃ y ∈ seen, y.lastSeen = t} := by
      ext t
      simp [or_and_right,exists_or,or_comm,eq_comm]
    rw [wider,NodeRecord.merge,max_comm]
    exact known.lastSeen.insert x.lastSeen
  heartbeats := by
    have count := known.heartbeats
    simp only [NodeRecord.merge,saturatingAddToNat,countedOnce counted,List.map_append,
      List.map_cons,List.map_nil,List.sum_append,List.sum_cons,List.sum_nil]
    unfold UInt64.size at count ⊢
    omega
  latest := ⟨x,by simp,⟨rfl,rfl,rfl,rfl,rfl⟩⟩

theorem gathersFold {key : String} {stored : Option NodeRecord} {records : List NodeRecord}
    (held : ∀ r ∈ stored, r.key = key) (own : ∀ r ∈ records, r.key = key)
    (counted : ∀ r ∈ records, 1 ≤ r.heartbeats) :
    match records.foldl Store.absorb stored with
    | none => stored.toList ++ records = []
    | some r => Gathers (stored.toList ++ records) r ∧ r.key = key := by
  induction records using List.reverseRecOn with
  | nil =>
    cases stored with
    | none => rfl
    | some r => exact ⟨gathersOne r,held r rfl⟩
  | append_singleton before x ih =>
    have known := ih (fun r mem => own r (List.mem_append_left _ mem))
      fun r mem => counted r (List.mem_append_left _ mem)
    have here := own x (by simp)
    have once := counted x (by simp)
    rw [List.foldl_append,← List.append_assoc]
    cases folded : before.foldl Store.absorb stored with
    | none =>
      rw [folded] at known
      have none : stored.toList ++ before = [] := known
      rw [none]
      exact ⟨gathersOne x,here⟩
    | some r =>
      rw [folded] at known
      exact ⟨gathersNext known.1 (here.trans known.2.symm) once,known.2⟩

theorem gathersPerm {seen others : List NodeRecord} {a b : NodeRecord} (perm : seen.Perm others)
    (one : Gathers seen a) (two : Gathers others b) :
    a.firstSeen = b.firstSeen ∧ a.lastSeen = b.lastSeen ∧ a.heartbeats = b.heartbeats := by
  have members (x : NodeRecord) : x ∈ seen ↔ x ∈ others := perm.mem_iff
  have first := one.firstSeen
  have last := one.lastSeen
  simp only [members] at first last
  have sum := (perm.map (·.heartbeats.toNat)).sum_eq
  refine ⟨first.unique two.firstSeen,last.unique two.lastSeen,UInt64.toNat_inj.mp ?_⟩
  rw [one.heartbeats,two.heartbeats,sum]

end Muster
