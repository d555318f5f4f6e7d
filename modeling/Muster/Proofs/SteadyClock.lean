import Mathlib.Data.List.Chain
import Muster.Proofs.History
import Muster.Proofs.Sweep
/-! Runs in which the clock never goes back. The heartbeats of a key then come in the order of their
times, so that the first has the least of these and the latest the greatest, and no record is ever
ahead of the clock: what sweeps do about such records is for clocks that go back. -/
namespace Muster

def readings (clock : Clock) : List Action → List Instant
  | [] => [clock.now]
  | a :: rest => clock.now :: readings (a.clockAfter clock) rest

def NeverBack (clock : Clock) (actions : List Action) : Prop :=
  (readings clock actions).IsChain (· ≤ ·)

theorem readingsPrefix {before actions : List Action} (part : before <+: actions) (clock : Clock) :
    readings clock before <+: readings clock actions := by
  obtain ⟨later,rfl⟩ := part
  induction before generalizing clock with
  | nil => cases later <;> simp [readings]
  | cons a rest ih => exact List.prefix_cons_inj _ |>.mpr (ih _)

theorem readingsLast (w : Watch) (actions : List Action) :
    (readings w.clock actions).getLast? = some (w.after actions).now := by
  induction actions generalizing w with
  | nil => rfl
  | cons a rest ih =>
    have later := ih (w.step a).2
    rw [Watch.stepClock] at later
    rw [readings,List.getLast?_cons,later]
    rfl

theorem heardReadings (clock : Clock) (actions : List Action) :
    ((heartbeats clock actions).map Heartbeat.time).Sublist (readings clock actions) := by
  induction actions generalizing clock with
  | nil => exact List.nil_sublist _
  | cons a rest ih =>
    have later := ih (a.clockAfter clock)
    simp only [heartbeats,readings,List.map_append]
    cases a.accepted? with
    | none => exact later.cons _
    | some taken => exact later.cons_cons _

namespace NeverBack
variable {w : Watch} {actions : List Action}

theorem atPrefix {before : List Action} (steady : NeverBack w.clock actions)
    (part : before <+: actions) : NeverBack w.clock before :=
  List.IsChain.prefix steady (readingsPrefix part w.clock)

theorem sorted (steady : NeverBack w.clock actions) :
    ((heartbeats w.clock actions).map Heartbeat.time).Pairwise (· ≤ ·) :=
  (List.isChain_iff_pairwise.mp steady).sublist (heardReadings w.clock actions)

theorem latest (steady : NeverBack w.clock actions) {t : Instant}
    (read : t ∈ readings w.clock actions) : t ≤ (w.after actions).now := by
  obtain ⟨earlier,split⟩ := List.getLast?_eq_some_iff.mp (readingsLast w actions)
  have ordered := List.isChain_iff_pairwise.mp steady
  rw [split] at read ordered
  rcases List.mem_append.mp read with before | last
  · exact (List.pairwise_append.mp ordered).2.2 t before _ List.mem_cons_self
  · exact le_of_eq (List.mem_singleton.mp last)

theorem notAhead (steady : NeverBack w.clock actions) {h : Heartbeat}
    (mem : h ∈ heartbeats w.clock actions) : h.time ≤ (w.after actions).now :=
  steady.latest ((heardReadings w.clock actions).subset (List.mem_map_of_mem mem))

end NeverBack

/- A record of heartbeats that came in the order of their times: it begins with the first of them,
it ends with the latest, and the clock has not been behind it. -/
structure InOrder (heard : List Heartbeat) (now : Instant) (r : NodeRecord) : Prop where
  first : ∃ h, heard.head? = some h ∧ r.firstSeen = h.time
  latest : ∃ h, heard.getLast? = some h ∧ r.lastSeen = h.time
  ordered : r.firstSeen ≤ r.lastSeen
  notAhead : r.lastSeen ≤ now
  counted : 1 ≤ r.heartbeats

variable {heard : List Heartbeat} {h : Heartbeat}

theorem firstLeast (sorted : (heard.map Heartbeat.time).Pairwise (· ≤ ·))
    (first : heard.head? = some h) : IsLeast (times heard) h.time := by
  obtain ⟨rest,rfl⟩ := List.head?_eq_some_iff.mp first
  refine ⟨⟨h,List.mem_cons_self,rfl⟩,?_⟩
  rintro t ⟨x,mem,rfl⟩
  rcases List.mem_cons.mp mem with same | later
  · rw [same]
  · exact List.rel_of_pairwise_cons sorted (List.mem_map_of_mem later)

theorem latestGreatest (sorted : (heard.map Heartbeat.time).Pairwise (· ≤ ·))
    (latest : heard.getLast? = some h) : IsGreatest (times heard) h.time := by
  obtain ⟨earlier,rfl⟩ := List.getLast?_eq_some_iff.mp latest
  refine ⟨⟨h,by simp,rfl⟩,?_⟩
  rintro t ⟨x,mem,rfl⟩
  rw [List.map_append] at sorted
  rcases List.mem_append.mp mem with before | last
  · exact (List.pairwise_append.mp sorted).2.2 _ (List.mem_map_of_mem before) _ (by simp)
  · rw [List.mem_singleton.mp last]

theorem rememberedInOrder {now : Instant} {r : NodeRecord} (known : Remembers heard r)
    (sorted : (heard.map Heartbeat.time).Pairwise (· ≤ ·)) (past : ∀ h ∈ heard, h.time ≤ now) :
    InOrder heard now r := by
  obtain ⟨last,final,_⟩ := known.latest
  have nonempty : heard ≠ [] := by
    rintro rfl
    simp at final
  obtain ⟨first,rest,begins⟩ := List.exists_cons_of_ne_nil nonempty
  have head : heard.head? = some first := by rw [begins]; rfl
  have seen : r.lastSeen = last.time := known.lastSeen.unique (latestGreatest sorted final)
  exact {
    first := ⟨first,head,known.firstSeen.unique (firstLeast sorted head)⟩
    latest := ⟨last,final,seen⟩
    ordered := known.firstSeen.2 known.lastSeen.1
    notAhead := seen ▸ past last (List.mem_of_getLast? final)
    counted := by
      have count := known.heartbeats
      have length := List.length_pos_iff.mpr nonempty
      rw [UInt64.le_iff_toNat_le,count]
      simp only [UInt64.size,UInt64.toNat_one]
      omega }

theorem Sweeper.noneSkipped {reg : Registry} {now : Instant}
    (past : ∀ r ∈ reg.store.records, r.lastSeen ≤ now) (s : Sweeper) :
    (s.sweep reg now).1.skipped = [] := by
  refine List.eq_nil_iff_forall_not_mem.mpr fun key skipped => ?_
  obtain ⟨r,mem,_,ahead⟩ := sweepSkippedRecords.mp skipped
  exact absurd ahead (not_lt_of_ge (past r mem))

namespace Watch
variable {reg : Registry} {clock : Clock} {actions : List Action}

theorem steadyRecords (empty : reg.store = .empty) (intake : ∀ a ∈ actions, a.direct? = none)
    (steady : NeverBack clock actions) {r : NodeRecord}
    (mem : r ∈ ((starting reg clock).after actions).store.records) :
    InOrder ((heartbeats clock actions).filter (·.key = r.key))
      ((starting reg clock).after actions).now r := by
  have known := getAfter reg empty clock intake r.key
  rw [Store.memRecords.mp mem] at known
  have steady : NeverBack (starting reg clock).clock actions := steady
  have own := (heartbeats clock actions).filter_sublist (p := (·.key = r.key))
  refine rememberedInOrder known.1 (steady.sorted.sublist (own.map _)) fun h inside => ?_
  exact steady.notAhead (own.subset inside)

theorem steadySkipsNone (empty : reg.store = .empty) (intake : ∀ a ∈ actions, a.direct? = none)
    (steady : NeverBack clock actions) (s : Sweeper) :
    (s.sweep ((starting reg clock).after actions).registry
      ((starting reg clock).after actions).now).1.skipped = [] :=
  s.noneSkipped fun _ mem => (steadyRecords empty intake steady mem).notAhead

/-- While the clock does not go back and all records come in by heartbeats, every record at every
point of a run is in order, and no sweep made there, by whatever sweeper, skips any of them. -/
theorem steadyClockOrders (window : LivenessWindow) (requirements : List Requirement)
    (clock : Clock) (actions : List Action) (intake : ∀ a ∈ actions, a.direct? = none)
    (steady : NeverBack clock actions) :
    let start := starting ⟨.empty,window,requirements⟩ clock
    (∀ before, before <+: actions →
      (∀ r ∈ (start.after before).store.records,
        InOrder ((heartbeats clock before).filter (·.key = r.key)) (start.after before).now r) ∧
      ∀ s : Sweeper,
        (s.sweep (start.after before).registry (start.after before).now).1.skipped = []) ∧
    ∀ report ∈ start.reports actions, report.skipped = [] := by
  intro start
  have each (before : List Action) (part : before <+: actions) :
      (∀ r ∈ (start.after before).store.records,
        InOrder ((heartbeats clock before).filter (·.key = r.key)) (start.after before).now r) ∧
      ∀ s : Sweeper,
        (s.sweep (start.after before).registry (start.after before).now).1.skipped = [] := by
    have taken : ∀ a ∈ before, a.direct? = none := fun a mem => intake a (part.subset mem)
    have kept : NeverBack clock before := steady.atPrefix (w := start) part
    exact ⟨fun r mem => steadyRecords rfl taken kept mem,steadySkipsNone rfl taken kept⟩
  refine ⟨each,fun report told => ?_⟩
  obtain ⟨before,part,made⟩ := reportSwept told
  rw [made]
  exact (each before part).2 _

theorem steadyClockOrdersRename :
    let first : Heartbeat := ⟨.ofMillis 2000,⟨"orb","web","k1",none,none,none⟩⟩
    let second : Heartbeat := ⟨.ofMillis 5000,⟨"orb-2","web","k1",none,some 80,none⟩⟩
    let actions : List Action := [.announce first.announcement,.sweep,.announceJson .null,
      .advance 3000,.announce second.announcement,.set (.ofMillis Clock.lastMilli),.sweep]
    let start := starting ⟨.empty,⟨10,by decide,by decide⟩,[]⟩ (.startingAt first.time)
    (∀ a ∈ actions, a.direct? = none) ∧ NeverBack (.startingAt first.time) actions ∧
      (∃ r ∈ (start.after actions).store.records,
        InOrder [first,second] (.ofMillis Clock.lastMilli) r) ∧
      ∀ report ∈ start.reports actions, report.skipped = [] := by
  intro first second actions start
  have intake : ∀ a ∈ actions, a.direct? = none := by simp [actions,Action.direct?]
  have steady : NeverBack (.startingAt first.time) actions := by
    unfold NeverBack
    decide +kernel
  have begins : (Clock.startingAt first.time).now = first.time := by decide
  have later : ((Clock.startingAt first.time).advance 3000).now = second.time := by decide
  have heard : heartbeats (.startingAt first.time) actions = [first,second] := by
    simp [actions,heartbeats,Action.accepted?,Action.clockAfter,begins,later,Announcement.ofJson,
      Except.toOption]
  have now : (start.after actions).now = .ofMillis Clock.lastMilli := by decide +kernel
  obtain ⟨points,reports⟩ := steadyClockOrders ⟨10,by decide,by decide⟩ []
    (.startingAt first.time) actions intake steady
  obtain ⟨r,mem,own⟩ := (heardStored ⟨.empty,⟨10,by decide,by decide⟩,[]⟩ rfl
    (.startingAt first.time) intake "k1").mpr ⟨first,by simp [heard],rfl⟩
  have ordered := (points actions (List.prefix_refl _)).1 r mem
  rw [heard,own] at ordered
  exact ⟨intake,steady,⟨r,mem,now ▸ ordered⟩,reports⟩

end Watch
end Muster
