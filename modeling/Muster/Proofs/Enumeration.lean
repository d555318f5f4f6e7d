import Muster.Proofs.Contents
import Muster.Proofs.Instants
import Muster.Proofs.Sweep
import Muster.Registry.Queries
/-! A store promises no order for its records. Whatever order they are handed out in, the answers
are the same: listings are sorted by an order without ties, and all else counts, picks or compares
in a way that does not depend on what comes first. -/
namespace Muster

/- The records of a store in one of the orders in which they may be handed out. -/
structure Snapshot (s : Store) where
  records : List NodeRecord
  perm : records.Perm s.records

/- All that is answered from the records, for whatever is asked. -/
structure Answers where
  list : List NodeView
  discover : String → List NodeView
  lookup : List String → List NodeView
  readiness : List Requirement → Readiness
  statistics : Statistics

def Registry.answers (reg : Registry) (now : Instant) : Answers :=
  ⟨reg.list now,reg.discover now,reg.lookup now,reg.readinessFor now,reg.statistics now⟩

namespace Snapshot

def get? {s : Store} (shot : Snapshot s) (key : String) : Option NodeRecord :=
  shot.records.find? (·.key = key)

def lookup {s : Store} (shot : Snapshot s) (keys : List String) : List NodeRecord :=
  (Store.distinct keys).filterMap shot.get?

def answers (reg : Registry) (now : Instant) (shot : Snapshot reg.store) : Answers where
  list := Registry.order (reg.views now shot.records)
  discover query := (Registry.order (reg.views now shot.records)).filter fun v =>
    Registry.matchesQuery query v.record
  lookup keys := reg.views now (shot.lookup keys)
  readiness requirements := Readiness.evaluate reg.window now
    (match Registry.keysOnly? requirements with
      | some keys => shot.lookup keys
      | none => shot.records) requirements
  statistics := Statistics.ofRecords reg.window now shot.records

end Snapshot

namespace Registry

theorem newerFirstIff {a b : NodeView} : newerFirst a b = true ↔
    b.record.lastSeen < a.record.lastSeen ∨
      (a.record.lastSeen = b.record.lastSeen ∧ a.record.key ≤ b.record.key) := by
  simp [newerFirst]

theorem newerFirstTrans {a b c : NodeView} (ab : newerFirst a b = true)
    (bc : newerFirst b c = true) : newerFirst a c = true := by
  rw [newerFirstIff] at ab bc ⊢
  rcases ab with newer | ⟨same,below⟩
  · rcases bc with also | ⟨level,_⟩
    · exact .inl (lt_trans also newer)
    · exact .inl (level ▸ newer)
  · rcases bc with also | ⟨level,further⟩
    · exact .inl (same ▸ also)
    · exact .inr ⟨same.trans level,String.le_trans below further⟩

theorem newerFirstTotal (a b : NodeView) : (newerFirst a b || newerFirst b a) = true := by
  rw [Bool.or_eq_true,newerFirstIff,newerFirstIff]
  rcases lt_trichotomy a.record.lastSeen b.record.lastSeen with older | same | newer
  · exact .inr (.inl older)
  · exact (String.le_total a.record.key b.record.key).imp
      (fun below => .inr ⟨same,below⟩) fun above => .inr ⟨same.symm,above⟩
  · exact .inl (.inl newer)

theorem viewsKeys (reg : Registry) (now : Instant) (records : List NodeRecord) :
    (reg.views now records).map (·.record.key) = records.map (·.key) := by
  rw [views,List.map_map]
  rfl

theorem newerFirstTie {a b : NodeView} (ab : newerFirst a b = true)
    (ba : newerFirst b a = true) : a.record.key = b.record.key := by
  rw [newerFirstIff] at ab ba
  rcases ab with newer | ⟨same,below⟩
  · rcases ba with older | ⟨level,_⟩
    · exact absurd older (lt_asymm newer)
    · exact absurd newer (level ▸ lt_irrefl _)
  · rcases ba with older | ⟨_,above⟩
    · exact absurd older (same ▸ lt_irrefl _)
    · exact String.le_antisymm below above

theorem orderSorted (views : List NodeView) :
    (order views).Pairwise fun a b => newerFirst a b = true :=
  @List.pairwise_mergeSort _ newerFirst (fun _ _ _ => newerFirstTrans) newerFirstTotal views

theorem orderPerm {first second : List NodeView} (perm : first.Perm second)
    (unique : (first.map (·.record.key)).Nodup) : order first = order second := by
  have kept (views : List NodeView) : (order views).Perm views := List.mergeSort_perm views _
  have both : (order first).Perm (order second) :=
    (kept first).trans (perm.trans (kept second).symm)
  have untied : ∀ a b, a ∈ order first → b ∈ order second → newerFirst a b = true →
      newerFirst b a = true → a = b := by
    intro a b here there ab ba
    have inside : a ∈ first := (kept first).mem_iff.mp here
    have also : b ∈ first := perm.mem_iff.mpr ((kept second).mem_iff.mp there)
    exact List.inj_on_of_nodup_map unique inside also (newerFirstTie ab ba)
  exact both.eq_of_pairwise untied (orderSorted first) (orderSorted second)

end Registry

namespace Readiness

theorem presencePerm {first second : List NodeRecord} (perm : first.Perm second) (r : Requirement) :
    presence first r = presence second r := by
  simp only [presence,perm.any_eq]

theorem evaluatePerm {first second : List NodeRecord} (perm : first.Perm second)
    (window : LivenessWindow) (now : Instant) (requirements : List Requirement) :
    evaluate window now first requirements = evaluate window now second requirements := by
  have online := perm.filter fun r => decide (window.statusAt r.lastSeen now = .online)
  simp only [evaluate,summarize,presencePerm online]

end Readiness

namespace Statistics

theorem tallyComm (counts : Table Nat) (a b : String) :
    tally (tally counts a) b = tally (tally counts b) a := by
  refine Table.getExt fun key => ?_
  simp only [tally,Table.getInsert]
  split <;> split <;> simp_all

theorem extremePerm {pick : Instant → Instant → Instant} (comm : ∀ a b, pick a b = pick b a)
    (assoc : ∀ a b c, pick (pick a b) c = pick a (pick b c)) {first second : List Instant}
    (perm : first.Perm second) : extreme pick first = extreme pick second := by
  induction perm with
  | nil => rfl
  | cons t rest =>
    refine congrArg some (rest.foldl_eq' ?_ t)
    intro a _ b _ c
    rw [assoc,comm a b,← assoc]
  | swap a b rest => simp only [extreme,List.foldl_cons,comm a b]
  | trans _ _ one two => exact one.trans two

theorem ofRecordsPerm {first second : List NodeRecord} (perm : first.Perm second)
    (window : LivenessWindow) (now : Instant) :
    ofRecords window now first = ofRecords window now second := by
  have types : first.foldl (fun counts r => tally counts r.type) .empty =
      second.foldl (fun counts r => tally counts r.type) .empty :=
    perm.foldl_eq' (fun a _ b _ counts => tallyComm counts a.type b.type) _
  have times := perm.map (·.lastSeen)
  simp only [ofRecords,perm.length_eq,perm.countP_eq,types,extremePerm min_comm min_assoc times,
    extremePerm max_comm max_assoc times]

end Statistics

/- Two sweeps that differ in nothing but the order in which keys are reported. -/
structure SameSweep (a b : SweepReport × Sweeper × List Event) : Prop where
  sweeper : a.2.1 = b.2.1
  checked : a.1.checked = b.1.checked
  wentOffline : a.1.wentOffline.Perm b.1.wentOffline
  recovered : a.1.recovered.Perm b.1.recovered
  skipped : a.1.skipped.Perm b.1.skipped

namespace Sweeper
variable {first second : List NodeRecord} {window : LivenessWindow} {now : Instant}

theorem passPerm (perm : first.Perm second) (unique : (first.map (·.key)).Nodup)
    (memory : Table Status) :
    (pass window now memory first).2 = (pass window now memory second).2 := by
  have also : (second.map (·.key)).Nodup := (perm.map _).nodup unique
  refine Table.getExt fun key => ?_
  by_cases there : ∃ r ∈ first, r.key = key
  · obtain ⟨r,mem,rfl⟩ := there
    rw [passOwn memory unique mem,passOwn memory also (perm.mem_iff.mp mem)]
  · have absent : ∀ r ∈ first, r.key ≠ key := fun r mem same => there ⟨r,mem,same⟩
    rw [passOther memory absent,
      passOther memory fun r mem => absent r (perm.mem_iff.mpr mem)]

theorem sweepPerm (perm : first.Perm second) (unique : (first.map (·.key)).Nodup) (s : Sweeper)
    (window : LivenessWindow) (now : Instant) :
    SameSweep (s.sweepRecords window now first) (s.sweepRecords window now second) := by
  have also : (second.map (·.key)).Nodup := (perm.map _).nodup unique
  have sightings : (pass window now s.memory first).1.Perm (pass window now s.memory second).1 := by
    rw [passSightings _ unique,passSightings _ also]
    exact perm.map _
  have keys (sighting : Sighting) : (keysOf sighting (pass window now s.memory first).1).Perm
      (keysOf sighting (pass window now s.memory second).1) := (sightings.filter _).map _
  have counters : count s.counters (report (pass window now s.memory first).1) =
      count s.counters (report (pass window now s.memory second).1) := by
    simp only [count,report,(keys _).length_eq]
  exact {
    sweeper := congrArg₂ Sweeper.mk (passPerm perm unique s.memory) counters
    checked := sightings.length_eq
    wentOffline := keys .wentOffline
    recovered := keys .recovered
    skipped := keys .skipped }

end Sweeper

namespace Snapshot
variable {s : Store}

theorem keysNodup (shot : Snapshot s) : (shot.records.map (·.key)).Nodup :=
  (shot.perm.map _).nodup_iff.mpr s.recordKeysNodup

theorem getSame (shot : Snapshot s) (key : String) : shot.get? key = s.get? key := by
  cases found : shot.get? key with
  | none =>
    cases stored : s.get? key with
    | none => rfl
    | some r =>
      have mem : r ∈ shot.records := shot.perm.mem_iff.mpr (Store.memOfGet stored)
      have absent := List.find?_eq_none.mp found r mem
      simp [Store.keyOfGet stored] at absent
  | some r =>
    have own : r.key = key := by simpa using List.find?_some found
    have mem : r ∈ s.records := shot.perm.mem_iff.mp (List.mem_of_find?_eq_some found)
    rw [← own,Store.memRecords.mp mem]

theorem lookupSame (shot : Snapshot s) (keys : List String) : shot.lookup keys = s.lookup keys :=
  List.filterMap_congr fun key _ => shot.getSame key

theorem answersSame (reg : Registry) (now : Instant) (shot : Snapshot reg.store) :
    shot.answers reg now = reg.answers now := by
  have views := shot.perm.map (reg.window.view now)
  have unique : ((reg.views now shot.records).map (·.record.key)).Nodup := by
    rw [Registry.viewsKeys]
    exact shot.keysNodup
  have listed : Registry.order (reg.views now shot.records) = reg.list now :=
    Registry.orderPerm views unique
  have verdict (requirements : List Requirement) :
      (shot.answers reg now).readiness requirements = reg.readinessFor now requirements := by
    simp only [answers,Registry.readinessFor]
    cases Registry.keysOnly? requirements with
    | none => exact Readiness.evaluatePerm shot.perm reg.window now requirements
    | some keys => simp only [shot.lookupSame]
  have found (keys : List String) : reg.views now (shot.lookup keys) = reg.lookup now keys := by
    rw [shot.lookupSame]
    rfl
  have figures : Statistics.ofRecords reg.window now shot.records = reg.statistics now :=
    Statistics.ofRecordsPerm shot.perm reg.window now
  have discovered (query : String) : (Registry.order (reg.views now shot.records)).filter
      (fun v => Registry.matchesQuery query v.record) = reg.discover now query := by
    rw [listed]
    rfl
  simp only [answers,Registry.answers,Answers.mk.injEq]
  exact ⟨listed,funext discovered,funext found,funext verdict,figures⟩

/-- In whatever order the records of a store are handed out, the answers of the registry are the
same, and a sweep leaves the same sweeper and reports the same keys. -/
theorem orderHidden (reg : Registry) (now : Instant) (first second : Snapshot reg.store) :
    first.answers reg now = second.answers reg now ∧ first.answers reg now = reg.answers now ∧
    ∀ s : Sweeper,
      SameSweep (s.sweepRecords reg.window now first.records)
        (s.sweepRecords reg.window now second.records) ∧
      SameSweep (s.sweepRecords reg.window now first.records) (s.sweep reg now) := by
  refine ⟨?_,answersSame reg now first,fun s => ⟨?_,?_⟩⟩
  · rw [answersSame,answersSame]
  · exact s.sweepPerm (first.perm.trans second.perm.symm) first.keysNodup reg.window now
  · exact s.sweepPerm first.perm first.keysNodup reg.window now

end Snapshot
end Muster
