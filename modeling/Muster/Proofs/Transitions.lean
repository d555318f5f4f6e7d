import Mathlib.Algebra.BigOperators.Group.Finset.Piecewise
import Mathlib.Algebra.GroupWithZero.Nat
import Muster.Proofs.Run
import Muster.Proofs.Sweep
/-! What one sweeper reports over a whole run. Its memory of a key turns exactly where it reports
the key, so that the reports of a key alternate and the counters tell how many keys are down. -/
namespace Muster

inductive Transition where
  | wentOffline
  | recovered
  deriving DecidableEq, Repr

def SweepReport.transitions (r : SweepReport) (key : String) : List Transition :=
  (if key ∈ r.wentOffline then [.wentOffline] else []) ++
    if key ∈ r.recovered then [.recovered] else []

def transitions (reports : List SweepReport) (key : String) : List Transition :=
  reports.flatMap (·.transitions key)

structure Alternates (ts : List Transition) : Prop where
  begins : ∀ t ∈ ts.head?, t = .wentOffline
  turns : ts.IsChain (· ≠ ·)

/- The invariant of one key: its memory is the latest report of it, and every recovery answers a
report of going offline before it. -/
structure Tracks (memory : Table Status) (reports : List SweepReport) (key : String) : Prop where
  alternates : Alternates (transitions reports key)
  latest : (transitions reports key).getLast? = some .wentOffline ↔
    memory.get? key = some .offline
  balance : (transitions reports key).count .wentOffline =
    (transitions reports key).count .recovered +
      if memory.get? key = some .offline then 1 else 0

theorem alternatesSnoc {ts : List Transition} {t : Transition} (h : Alternates ts)
    (begins : ts = [] → t = .wentOffline) (turns : ts.getLast? ≠ some t) :
    Alternates (ts ++ [t]) where
  begins := by
    cases ts with
    | nil => simpa using begins rfl
    | cons first rest => exact h.begins
  turns := by
    refine List.isChain_append.mpr ⟨h.turns,.singleton t,?_⟩
    intro last mem x here same
    cases Option.some.inj here
    exact turns (same ▸ mem)

theorem transitionsSnoc (reports : List SweepReport) (report : SweepReport) (key : String) :
    transitions (reports ++ [report]) key = transitions reports key ++ report.transitions key := by
  simp [transitions]

theorem sweepTransitions (s : Sweeper) (reg : Registry) (now : Instant) (key : String) :
    (s.sweep reg now).1.transitions key =
      if s.memory.get? key = some .offline then
        if (s.sweep reg now).2.1.memory.get? key = some .offline then [] else [.recovered]
      else
        if (s.sweep reg now).2.1.memory.get? key = some .offline then [.wentOffline] else [] := by
  simp only [SweepReport.transitions,Sweeper.sweepWentOffline,Sweeper.sweepRecovered]
  split <;> split <;> simp_all

theorem sweepTracks {s : Sweeper} {reports : List SweepReport} {key : String} (reg : Registry)
    (now : Instant) (tracks : Tracks s.memory reports key) :
    Tracks (s.sweep reg now).2.1.memory (reports ++ [(s.sweep reg now).1]) key := by
  have told := sweepTransitions s reg now key
  obtain ⟨alternates,latest,balance⟩ := tracks
  by_cases before : s.memory.get? key = some .offline <;>
    by_cases after : (s.sweep reg now).2.1.memory.get? key = some .offline <;>
      simp only [before,after,if_true,if_false,iff_true,iff_false] at told latest balance <;>
        constructor <;> rw [transitionsSnoc,told]
  -- down and still down
  · simpa using alternates
  · simp [latest,after]
  · simp [balance,after]
  -- down before, back now
  · refine alternatesSnoc alternates ?_ (by simp [latest])
    intro none
    simp [none] at latest
  · simp [after]
  · simp [balance,after]
  -- up before, down now
  · exact alternatesSnoc alternates (fun _ => rfl) latest
  · simp [after]
  · simp [balance,after]
  -- up and still up
  · simpa using alternates
  · simp [latest,after]
  · simp [balance,after]

theorem newTracks (key : String) : Tracks Sweeper.new.memory [] key where
  alternates := ⟨by simp [transitions],by simp [transitions]⟩
  latest := by simp [transitions,Sweeper.new]
  balance := by simp [transitions,Sweeper.new]

def total (list : SweepReport → List String) (reports : List SweepReport) : Nat :=
  (reports.map fun r => (list r).length).sum

theorem totalSnoc (list : SweepReport → List String) (reports : List SweepReport)
    (report : SweepReport) :
    total list (reports ++ [report]) = total list reports + (list report).length := by
  simp [total]

def counted (reports : List SweepReport) : SweepCounters :=
  ⟨.ofNat reports.length,.ofNat (total (·.wentOffline) reports),
    .ofNat (total (·.recovered) reports),.ofNat (total (·.skipped) reports)⟩

theorem countSnoc (reports : List SweepReport) (report : SweepReport) :
    Sweeper.count (counted reports) report = counted (reports ++ [report]) := by
  simp [Sweeper.count,counted,totalSnoc,UInt64.ofNat_add]

theorem countList {reports : List SweepReport} (list : SweepReport → List String)
    (nodup : ∀ r ∈ reports, (list r).Nodup) (key : String) :
    (reports.flatMap list).count key = reports.countP fun r => key ∈ list r := by
  induction reports with
  | nil => rfl
  | cons r rest ih =>
    have here := nodup r List.mem_cons_self
    have later := ih fun x mem => nodup x (List.mem_cons_of_mem _ mem)
    rw [List.flatMap_cons,List.count_append,later,List.countP_cons,here.count,Nat.add_comm]
    simp

theorem countTransition (reports : List SweepReport) (key : String) :
    (transitions reports key).count .wentOffline = reports.countP (fun r => key ∈ r.wentOffline) ∧
    (transitions reports key).count .recovered = reports.countP (fun r => key ∈ r.recovered) := by
  induction reports with
  | nil => exact ⟨rfl,rfl⟩
  | cons r rest ih =>
    simp only [transitions,List.flatMap_cons,List.count_append,List.countP_cons]
    have offline := ih.1
    have recovered := ih.2
    simp only [transitions] at offline recovered
    rw [offline,recovered,SweepReport.transitions]
    constructor <;> split <;> split <;> simp_all <;> omega

def down (reports : List SweepReport) : Finset String :=
  (reports.flatMap (·.wentOffline)).toFinset.filter fun key =>
    (transitions reports key).getLast? = some .wentOffline

theorem memDown {reports : List SweepReport} {key : String} :
    key ∈ down reports ↔ (transitions reports key).getLast? = some .wentOffline := by
  simp only [down,Finset.mem_filter,List.mem_toFinset,and_iff_right_iff_imp]
  intro last
  obtain ⟨r,mem,told⟩ := List.mem_flatMap.mp (List.mem_of_getLast? last)
  refine List.mem_flatMap.mpr ⟨r,mem,?_⟩
  simpa [SweepReport.transitions] using told

theorem totalDown {reports : List SweepReport} (exclusive : ∀ r ∈ reports, r.Exclusive)
    (balance : ∀ key, (transitions reports key).count .wentOffline =
      (transitions reports key).count .recovered + if key ∈ down reports then 1 else 0) :
    total (·.wentOffline) reports = total (·.recovered) reports + (down reports).card := by
  let offline := reports.flatMap (·.wentOffline)
  let recovered := reports.flatMap (·.recovered)
  have each (key : String) :
      offline.count key = recovered.count key + if key ∈ down reports then 1 else 0 := by
    have same := balance key
    rw [(countTransition reports key).1,(countTransition reports key).2] at same
    rw [countList _ (fun r mem => (exclusive r mem).wentOffline),
      countList _ (fun r mem => (exclusive r mem).recovered),same]
  -- a key that recovered went offline before, so that summing over those that did misses none
  have within : recovered.toFinset ⊆ offline.toFinset := by
    intro key mem
    rw [List.mem_toFinset,← List.count_pos_iff] at mem ⊢
    have same := each key
    omega
  have inside : down reports ⊆ offline.toFinset := Finset.filter_subset _ _
  calc total (·.wentOffline) reports
      = offline.length := List.length_flatMap.symm
    _ = ∑ key ∈ offline.toFinset, offline.count key := offline.sum_toFinset_count_eq_length.symm
    _ = ∑ key ∈ offline.toFinset, recovered.count key +
          ∑ key ∈ offline.toFinset, (if key ∈ down reports then 1 else 0) := by
        rw [← Finset.sum_add_distrib]
        exact Finset.sum_congr rfl fun key _ => each key
    _ = recovered.length + (down reports).card := by
        congr 1
        · rw [← recovered.sum_toFinset_count_eq_length]
          refine (Finset.sum_subset within ?_).symm
          intro key _ absent
          exact List.count_eq_zero.mpr fun mem => absent (List.mem_toFinset.mpr mem)
        · rw [← Finset.card_filter,Finset.filter_mem_eq_inter,Finset.inter_eq_right.mpr inside]
    _ = total (·.recovered) reports + (down reports).card := by
        rw [total,← List.length_flatMap]

/- The counters hold the totals of the reports, and the difference of the first two is the number
of keys that are down. -/
structure Tallied (c : SweepCounters) (reports : List SweepReport) : Prop where
  sweeps : c.sweeps.toNat = reports.length
  offlineTransitions : c.offlineTransitions.toNat = total (·.wentOffline) reports
  recoveries : c.recoveries.toNat = total (·.recovered) reports
  skipped : c.skipped.toNat = total (·.skipped) reports
  down : c.offlineTransitions.toNat = c.recoveries.toNat + (down reports).card

namespace Watch

theorem runTracks (reg : Registry) (clock : Clock) (actions : List Action) (key : String) :
    Tracks ((starting reg clock).after actions).sweeper.memory
      ((starting reg clock).reports actions) key :=
  sweeperInduction (P := fun s reports => Tracks s.memory reports key) (newTracks key)
    (fun _ _ reg now tracks => sweepTracks reg now tracks) reg clock actions

theorem runExclusive (reg : Registry) (clock : Clock) (actions : List Action) :
    ∀ report ∈ (starting reg clock).reports actions, report.Exclusive := by
  refine sweeperInduction (P := fun _ reports => ∀ report ∈ reports, report.Exclusive)
    (by simp) ?_ reg clock actions
  intro s reports reg now earlier report mem
  rcases List.mem_append.mp mem with old | new
  · exact earlier report old
  · cases List.mem_singleton.mp new
    exact s.sweepExclusive reg now

theorem runCounters (reg : Registry) (clock : Clock) (actions : List Action) :
    ((starting reg clock).after actions).sweeper.counters =
      counted ((starting reg clock).reports actions) := by
  refine sweeperInduction (P := fun s reports => s.counters = counted reports) rfl ?_
    reg clock actions
  intro s reports reg now held
  rw [Sweeper.sweepCounters,held,countSnoc]

theorem runDown (reg : Registry) (clock : Clock) (actions : List Action) :
    total (·.wentOffline) ((starting reg clock).reports actions) =
      total (·.recovered) ((starting reg clock).reports actions) +
        (down ((starting reg clock).reports actions)).card := by
  refine totalDown (runExclusive reg clock actions) ?_
  intro key
  have tracks := runTracks reg clock actions key
  rw [tracks.balance]
  simp only [memDown,tracks.latest]

/-- In any run the reports of a key alternate, beginning with its going offline; no report names a
key twice; and while they fit their words, the counters agree with the reports so far. -/
theorem reportsAlternate (reg : Registry) (clock : Clock) (actions : List Action) :
    let w := (starting reg clock).after actions
    let reports := (starting reg clock).reports actions
    (∀ key, Alternates (transitions reports key)) ∧
    (∀ report ∈ reports, report.Exclusive) ∧
    reports.length = actions.countP Action.isSweep ∧
    (∀ key, key ∈ down reports ↔ (transitions reports key).getLast? = some .wentOffline) ∧
    (reports.length < UInt64.size → total (·.wentOffline) reports < UInt64.size →
      total (·.skipped) reports < UInt64.size → Tallied w.sweeper.counters reports) := by
  intro w reports
  refine ⟨fun key => (runTracks reg clock actions key).alternates,runExclusive reg clock actions,
    reportsLength _ actions,fun _ => memDown,?_⟩
  intro few offline skipped
  have held : w.sweeper.counters = counted reports := runCounters reg clock actions
  have difference := runDown reg clock actions
  have recovered : total (·.recovered) reports < UInt64.size := by
    change total (·.wentOffline) reports = total (·.recovered) reports + _ at difference
    omega
  have fits {n : Nat} (small : n < UInt64.size) : (UInt64.ofNat n).toNat = n :=
    UInt64.toNat_ofNat_of_lt' small
  rw [held]
  exact {
    sweeps := fits few
    offlineTransitions := fits offline
    recoveries := fits recovered
    skipped := fits skipped
    down := by
      change (UInt64.ofNat _).toNat = (UInt64.ofNat _).toNat + _
      rw [fits offline,fits recovered]
      exact difference }

theorem reportsAlternateReturn :
    let reg : Registry := ⟨.empty,⟨10,by decide,by decide⟩,[]⟩
    let a : Announcement := ⟨"orb","web","k1",none,none,none⟩
    let actions : List Action :=
      [.announce a,.sweep,.advance 1,.sweep,.sweep,.announce a,.sweep]
    let reports := (starting reg ⟨0⟩).reports actions
    reports.length < UInt64.size ∧ total (·.wentOffline) reports < UInt64.size ∧
      total (·.skipped) reports < UInt64.size ∧
      transitions reports "k1" = [.wentOffline,.recovered] ∧
      Tallied ((starting reg ⟨0⟩).after actions).sweeper.counters reports := by
  intro reg a actions reports
  have told : reports = [⟨1,[],[],[]⟩,⟨1,["k1"],[],[]⟩,⟨1,[],[],[]⟩,⟨1,[],["k1"],[]⟩] := by
    decide +kernel
  have few : reports.length < UInt64.size := by rw [told]; decide
  have offline : total (·.wentOffline) reports < UInt64.size := by rw [told]; decide
  have skipped : total (·.skipped) reports < UInt64.size := by rw [told]; decide
  obtain ⟨_,_,_,_,tallied⟩ := reportsAlternate reg ⟨0⟩ actions
  exact ⟨few,offline,skipped,by rw [told]; decide,tallied few offline skipped⟩

end Watch
end Muster
