import Muster.Proofs.Contents
import Muster.Registry.Patrol
/-! One sweep over the store. Because each key has one record, a sweep deals with every key by
itself: what it reports of a key and what it remembers depend on that record and on what was
remembered before, and the order of the records does not matter. -/
namespace Muster

namespace Sighting
variable {previous status : Option Status}

theorem wentOfflineIff : of previous status = .wentOffline ↔
    previous ≠ some .offline ∧ status.or previous = some .offline := by
  rcases status with _ | _ | _ <;> rcases previous with _ | _ | _ <;> simp [of]

theorem recoveredIff : of previous status = .recovered ↔
    previous = some .offline ∧ status.or previous ≠ some .offline := by
  rcases status with _ | _ | _ <;> rcases previous with _ | _ | _ <;> simp [of]

theorem skippedIff : of previous status = .skipped ↔ status = none := by
  rcases status with _ | _ | _ <;> rcases previous with _ | _ | _ <;> simp [of]

end Sighting

namespace Sweeper
variable {window : LivenessWindow} {now : Instant} {records : List NodeRecord}

theorem observeNone {r : NodeRecord} : observe window now r = none ↔ now < r.lastSeen := by
  unfold observe
  split <;> simp_all

theorem getRemember (memory : Table Status) (key other : String) (status : Option Status) :
    (remember memory key status).get? other =
      if key = other then status.or (memory.get? other) else memory.get? other := by
  cases status with
  | none => simp [remember]
  | some status => simp [remember]

theorem passSightings (memory : Table Status) (unique : (records.map (·.key)).Nodup) :
    (pass window now memory records).1 =
      records.map fun r => (r,Sighting.of (memory.get? r.key) (observe window now r)) := by
  induction records generalizing memory with
  | nil => rfl
  | cons r rest ih =>
    obtain ⟨fresh,unique⟩ := List.nodup_cons.mp unique
    simp only [pass,ih _ unique,List.map_cons]
    refine congrArg _ (List.map_congr_left ?_)
    intro x mem
    have differ : r.key ≠ x.key := fun same => fresh (List.mem_map.mpr ⟨x,mem,same.symm⟩)
    rw [getRemember,if_neg differ]

theorem passOther (memory : Table Status) {key : String} (absent : ∀ r ∈ records, r.key ≠ key) :
    (pass window now memory records).2.get? key = memory.get? key := by
  induction records generalizing memory with
  | nil => rfl
  | cons r rest ih =>
    simp only [pass]
    rw [ih _ fun x mem => absent x (List.mem_cons_of_mem _ mem),getRemember,
      if_neg (absent r List.mem_cons_self)]

theorem passOwn (memory : Table Status) (unique : (records.map (·.key)).Nodup) {r : NodeRecord}
    (mem : r ∈ records) : (pass window now memory records).2.get? r.key =
      (observe window now r).or (memory.get? r.key) := by
  induction records generalizing memory with
  | nil => simp at mem
  | cons first rest ih =>
    obtain ⟨fresh,unique⟩ := List.nodup_cons.mp unique
    simp only [pass]
    rcases List.mem_cons.mp mem with same | inside
    · subst same
      have absent : ∀ x ∈ rest, x.key ≠ r.key := fun x later same =>
        fresh (List.mem_map.mpr ⟨x,later,same⟩)
      rw [passOther _ absent,getRemember,if_pos rfl]
    · have differ : first.key ≠ r.key := fun same =>
        fresh (List.mem_map.mpr ⟨r,inside,same.symm⟩)
      rw [ih _ unique inside,getRemember,if_neg differ]

theorem memKeysOf {sight : NodeRecord → Sighting} {sighting : Sighting} {key : String} :
    key ∈ keysOf sighting (records.map fun r => (r,sight r)) ↔
      ∃ r ∈ records, r.key = key ∧ sight r = sighting := by
  simp only [keysOf,List.mem_map,List.mem_filter]
  constructor
  · rintro ⟨_,⟨⟨r,mem,rfl⟩,seen⟩,own⟩
    exact ⟨r,mem,own,by simpa using seen⟩
  · rintro ⟨r,mem,own,seen⟩
    exact ⟨(r,sight r),⟨⟨r,mem,rfl⟩,by simpa using seen⟩,own⟩

theorem keysOfNodup (unique : (records.map (·.key)).Nodup) (sight : NodeRecord → Sighting)
    (sighting : Sighting) : (keysOf sighting (records.map fun r => (r,sight r))).Nodup := by
  have kept : (keysOf sighting (records.map fun r => (r,sight r))).Sublist
      ((records.map fun r => (r,sight r)).map fun e => e.1.key) :=
    List.Sublist.map _ List.filter_sublist
  refine kept.nodup ?_
  rw [List.map_map]
  exact unique

variable {s : Sweeper} {reg : Registry} {key : String}

/- What a sweep sees under a key: nothing, unless a record is there and not ahead of the clock. -/
def seen (reg : Registry) (now : Instant) (key : String) : Option Status :=
  (reg.store.get? key).bind (observe reg.window now)

theorem sweepMemory (s : Sweeper) (reg : Registry) (now : Instant) (key : String) :
    (s.sweep reg now).2.1.memory.get? key = (seen reg now key).or (s.memory.get? key) := by
  change (pass reg.window now s.memory reg.store.records).2.get? key = _
  unfold seen
  cases stored : reg.store.get? key with
  | none =>
    have absent : ∀ r ∈ reg.store.records, r.key ≠ key := by
      rintro r mem rfl
      rw [Store.memRecords.mp mem] at stored
      contradiction
    rw [passOther _ absent]
    rfl
  | some r =>
    have own := Store.keyOfGet stored
    subst own
    rw [passOwn _ reg.store.recordKeysNodup (Store.memOfGet stored)]
    rfl

theorem sweepReport (s : Sweeper) (reg : Registry) (now : Instant) : (s.sweep reg now).1 =
    report (reg.store.records.map fun r =>
      (r,Sighting.of (s.memory.get? r.key) (observe reg.window now r))) := by
  change report (pass reg.window now s.memory reg.store.records).1 = _
  rw [passSightings _ reg.store.recordKeysNodup]

theorem sighted {sighting : Sighting} :
    key ∈ keysOf sighting (reg.store.records.map fun r =>
      (r,Sighting.of (s.memory.get? r.key) (observe reg.window now r))) ↔
    ∃ r, reg.store.get? key = some r ∧
      Sighting.of (s.memory.get? key) (observe reg.window now r) = sighting := by
  rw [memKeysOf]
  constructor
  · rintro ⟨r,mem,rfl,seen⟩
    exact ⟨r,Store.memRecords.mp mem,seen⟩
  · rintro ⟨r,stored,seen⟩
    have own := Store.keyOfGet stored
    subst own
    exact ⟨r,Store.memOfGet stored,rfl,seen⟩

theorem sweepWentOffline : key ∈ (s.sweep reg now).1.wentOffline ↔
    s.memory.get? key ≠ some .offline ∧
      (s.sweep reg now).2.1.memory.get? key = some .offline := by
  rw [sweepReport,sweepMemory,seen]
  refine sighted.trans ?_
  simp only [Sighting.wentOfflineIff]
  cases reg.store.get? key <;> simp

theorem sweepRecovered : key ∈ (s.sweep reg now).1.recovered ↔
    s.memory.get? key = some .offline ∧
      (s.sweep reg now).2.1.memory.get? key ≠ some .offline := by
  rw [sweepReport,sweepMemory,seen]
  refine sighted.trans ?_
  simp only [Sighting.recoveredIff]
  cases reg.store.get? key <;> simp

theorem sweepSkipped : key ∈ (s.sweep reg now).1.skipped ↔
    ∃ r, reg.store.get? key = some r ∧ now < r.lastSeen := by
  rw [sweepReport]
  refine sighted.trans ?_
  simp only [Sighting.skippedIff,observeNone]

theorem sweepSkippedRecords : key ∈ (s.sweep reg now).1.skipped ↔
    ∃ r ∈ reg.store.records, r.key = key ∧ now < r.lastSeen := by
  rw [sweepSkipped]
  constructor
  · rintro ⟨r,stored,ahead⟩
    exact ⟨r,Store.memOfGet stored,Store.keyOfGet stored,ahead⟩
  · rintro ⟨r,mem,rfl,ahead⟩
    exact ⟨r,Store.memRecords.mp mem,ahead⟩

theorem sweepChecked (s : Sweeper) (reg : Registry) (now : Instant) :
    (s.sweep reg now).1.checked = reg.store.size := by
  rw [sweepReport,report,List.length_map,Store.sizeRecords]

theorem sweepCounters (s : Sweeper) (reg : Registry) (now : Instant) :
    (s.sweep reg now).2.1.counters = count s.counters (s.sweep reg now).1 := rfl

end Sweeper

structure SweepReport.Exclusive (r : SweepReport) : Prop where
  wentOffline : r.wentOffline.Nodup
  recovered : r.recovered.Nodup
  skipped : r.skipped.Nodup
  changed : r.wentOffline.Disjoint r.recovered
  offlineSeen : r.wentOffline.Disjoint r.skipped
  recoveredSeen : r.recovered.Disjoint r.skipped

theorem Sweeper.sweepExclusive (s : Sweeper) (reg : Registry) (now : Instant) :
    (s.sweep reg now).1.Exclusive := by
  have nodup := keysOfNodup reg.store.recordKeysNodup fun r =>
    Sighting.of (s.memory.get? r.key) (observe reg.window now r)
  have apart {a b : Sighting} (differ : a ≠ b) {key : String}
      (ha : ∃ r, reg.store.get? key = some r ∧
        Sighting.of (s.memory.get? key) (observe reg.window now r) = a)
      (hb : ∃ r, reg.store.get? key = some r ∧
        Sighting.of (s.memory.get? key) (observe reg.window now r) = b) : False := by
    obtain ⟨r,stored,seen⟩ := ha
    obtain ⟨other,again,saw⟩ := hb
    cases Option.some.inj (stored.symm.trans again)
    exact differ (seen.symm.trans saw)
  rw [sweepReport]
  exact {
    wentOffline := nodup .wentOffline
    recovered := nodup .recovered
    skipped := nodup .skipped
    changed := fun _ ha hb => apart (by decide) (sighted.mp ha) (sighted.mp hb)
    offlineSeen := fun _ ha hb => apart (by decide) (sighted.mp ha) (sighted.mp hb)
    recoveredSeen := fun _ ha hb => apart (by decide) (sighted.mp ha) (sighted.mp hb) }

end Muster
