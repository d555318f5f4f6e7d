import Muster.Proofs.Run
import Muster.Proofs.Sweep
import Muster.Registry.Patrol
/-! Sweeps between changes. A sweep leaves the sweeper with what there is to see at that reading of the
clock. As long as clock and store stand still the sweeps after it find nothing that has changed; all
they do is to skip once more the records that are ahead of the clock. -/
namespace Muster

def Registry.ahead (reg : Registry) (now : Instant) : List NodeRecord :=
  reg.store.records.filter fun r => now < r.lastSeen

def Registry.still (reg : Registry) (now : Instant) : SweepReport :=
  ⟨reg.store.size,[],[],(reg.ahead now).map (·.key)⟩

namespace Sweeper
variable {s : Sweeper} {reg : Registry} {now : Instant}

/- What there is to see under a key is what is remembered of it. -/
def Settled (s : Sweeper) (reg : Registry) (now : Instant) : Prop :=
  ∀ key status, seen reg now key = some status → s.memory.get? key = some status

def idled (s : Sweeper) (sweeps skipped : Nat) : Sweeper :=
  ⟨s.memory,{ s.counters with
    sweeps := s.counters.sweeps + .ofNat sweeps
    skipped := s.counters.skipped + .ofNat (sweeps * skipped) }⟩

theorem sweepSettles (s : Sweeper) (reg : Registry) (now : Instant) :
    (s.sweep reg now).2.1.Settled reg now := by
  intro key status saw
  rw [sweepMemory,saw,Option.some_or]

theorem skippedAhead (s : Sweeper) (reg : Registry) (now : Instant) :
    (s.sweep reg now).1.skipped = (reg.ahead now).map (·.key) := by
  rw [sweepReport]
  simp only [report,keysOf,Registry.ahead,List.filter_map,List.map_map,Function.comp_def,
    Sighting.skippedIff,observeNone]

theorem settledMemory (settled : s.Settled reg now) : (s.sweep reg now).2.1.memory = s.memory := by
  refine Table.getExt fun key => ?_
  rw [sweepMemory]
  cases saw : seen reg now key with
  | none => rfl
  | some status => rw [settled key status saw,Option.some_or]

theorem settledReport (settled : s.Settled reg now) : (s.sweep reg now).1 = reg.still now := by
  have kept := settledMemory settled
  have wentOffline : (s.sweep reg now).1.wentOffline = [] := by
    refine List.eq_nil_iff_forall_not_mem.mpr fun key told => ?_
    obtain ⟨before,after⟩ := sweepWentOffline.mp told
    exact before (kept ▸ after)
  have recovered : (s.sweep reg now).1.recovered = [] := by
    refine List.eq_nil_iff_forall_not_mem.mpr fun key told => ?_
    obtain ⟨before,after⟩ := sweepRecovered.mp told
    exact after (kept ▸ before)
  have checked := s.sweepChecked reg now
  have skipped := s.skippedAhead reg now
  let told := (s.sweep reg now).1
  calc told
      = ⟨told.checked,told.wentOffline,told.recovered,told.skipped⟩ := rfl
    _ = reg.still now := by rw [checked,wentOffline,recovered,skipped,Registry.still]

theorem settledSweep (settled : s.Settled reg now) :
    (s.sweep reg now).2.1 = s.idled 1 (reg.ahead now).length := by
  have counters : (s.sweep reg now).2.1.counters = count s.counters (reg.still now) := by
    rw [sweepCounters,settledReport settled]
  calc (s.sweep reg now).2.1
      = ⟨s.memory,count s.counters (reg.still now)⟩ :=
        congrArg₂ Sweeper.mk (settledMemory settled) counters
    _ = s.idled 1 (reg.ahead now).length := by simp [count,idled,Registry.still]

theorem idledNone (s : Sweeper) (skipped : Nat) : s.idled 0 skipped = s := by simp [idled]

theorem idledNext (s : Sweeper) (sweeps skipped : Nat) :
    (s.idled sweeps skipped).idled 1 skipped = s.idled (sweeps + 1) skipped := by
  simp [idled,Nat.add_mul,UInt64.ofNat_add,UInt64.add_assoc]

theorem idledSettled (settled : s.Settled reg now) (sweeps skipped : Nat) :
    (s.idled sweeps skipped).Settled reg now := settled

end Sweeper

namespace Watch

theorem sweepsStill {w : Watch} (settled : w.sweeper.Settled w.registry w.now) (n : Nat) :
    w.after (.replicate n .sweep) =
      { w with sweeper := w.sweeper.idled n (w.registry.ahead w.now).length } ∧
    w.reports (.replicate n .sweep) = .replicate n (w.registry.still w.now) := by
  induction n with
  | zero => exact ⟨by rw [Sweeper.idledNone]; rfl,rfl⟩
  | succ n ih =>
    obtain ⟨state,told⟩ := ih
    have here := Sweeper.idledSettled settled n (w.registry.ahead w.now).length
    have left := (Sweeper.settledSweep here).trans (Sweeper.idledNext ..)
    rw [List.replicate_succ',List.replicate_succ',afterSnoc,reportsSnoc,state,told]
    constructor
    · exact congrArg (fun sweeper => { w with sweeper }) left
    · exact congrArg (fun report => _ ++ [report]) (Sweeper.settledReport here)

theorem patrolSweeps (w : Watch) (n : Nat) :
    (Patrol.sweeps w.registry w.now n w.sweeper).1 = (w.after (.replicate n .sweep)).sweeper := by
  induction n generalizing w with
  | zero => rfl
  | succ n ih => exact ih (w.step .sweep).2

/-- In any state, once a sweep is done, the sweeps that follow while clock and store stand still report
no change and skip the same records; nothing is remembered otherwise, and the counters show no more
than that these sweeps were made and what they skipped. A patrol that has as many sweeps to make
does the same. -/
theorem sweepsSettle (w : Watch) (n : Nat) :
    let first := (w.step .sweep).2
    let more := List.replicate n Action.sweep
    let last := first.after more
    let ahead := w.store.records.filter fun r => w.now < r.lastSeen
    ∃ report, (w.step .sweep).1 = .swept report ∧ report.skipped = ahead.map (·.key) ∧
      first.reports more = .replicate n ⟨report.checked,[],[],report.skipped⟩ ∧
      last = { w with sweeper := last.sweeper } ∧
      last.sweeper.memory = first.sweeper.memory ∧
      last.sweeper.counters = { first.sweeper.counters with
        sweeps := first.sweeper.counters.sweeps + .ofNat n
        skipped := first.sweeper.counters.skipped + .ofNat (n * ahead.length) } ∧
      (Patrol.sweeps w.registry w.now (n + 1) w.sweeper).1 = last.sweeper := by
  intro first more last ahead
  have settled : first.sweeper.Settled first.registry first.now :=
    w.sweeper.sweepSettles w.registry w.now
  obtain ⟨state,reports⟩ := sweepsStill settled n
  have sweeper : last.sweeper = first.sweeper.idled n ahead.length := congrArg Watch.sweeper state
  have checked := w.sweeper.sweepChecked w.registry w.now
  have skipped := w.sweeper.skippedAhead w.registry w.now
  refine ⟨(w.sweeper.sweep w.registry w.now).1,rfl,skipped,?_,?_,?_,?_,?_⟩
  · rw [checked,skipped]
    exact reports
  · change last = { first with sweeper := last.sweeper }
    rw [sweeper]
    exact state
  · rw [sweeper,Sweeper.idled]
  · rw [sweeper,Sweeper.idled]
  · exact w.patrolSweeps (n + 1)

end Watch
end Muster
