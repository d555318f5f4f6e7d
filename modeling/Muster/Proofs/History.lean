import Muster.Proofs.Gathering
import Muster.Proofs.Run
/-! What the store remembers of the heartbeats of a run. Nothing is assumed of the clock: readings
may repeat and go backwards, so that the latest heartbeat need not be the one with the greatest. -/
namespace Muster

structure Heartbeat where
  time : Instant
  announcement : Announcement

namespace Heartbeat

def key (h : Heartbeat) : String := h.announcement.key

def record (h : Heartbeat) : NodeRecord := h.announcement.toRecord h.time

end Heartbeat

/- The heartbeats that are taken in a run, each with the reading of the clock at that step. -/
def heartbeats (clock : Clock) : List Action → List Heartbeat
  | [] => []
  | a :: rest => (a.accepted?.map (⟨clock.now,·⟩)).toList ++ heartbeats (a.clockAfter clock) rest

theorem writesHeard {actions : List Action} (intake : ∀ a ∈ actions, a.direct? = none)
    (clock : Clock) :
    Watch.writes clock actions = (heartbeats clock actions).map Heartbeat.record := by
  induction actions generalizing clock with
  | nil => rfl
  | cons a rest ih =>
    have here := intake a List.mem_cons_self
    have later := ih (fun b mem => intake b (List.mem_cons_of_mem _ mem)) (a.clockAfter clock)
    simp only [Watch.writes,heartbeats,Action.writes,here,later,List.map_append]
    cases a.accepted? <;> rfl

structure Describes (a : Announcement) (r : NodeRecord) : Prop where
  name : r.name = a.name
  type : r.type = a.type
  key : r.key = a.key
  host : r.host = a.host
  port : r.port = a.port
  additional : r.additional = a.additional

def times (heard : List Heartbeat) : Set Instant := {t | ∃ h ∈ heard, h.time = t}

/- The record of a node after all its heartbeats: as the latest one describes it, with the
greatest and the least of their times, and with their number as far as the count goes. -/
structure Remembers (heard : List Heartbeat) (r : NodeRecord) : Prop where
  latest : ∃ h, heard.getLast? = some h ∧ Describes h.announcement r
  lastSeen : IsGreatest (times heard) r.lastSeen
  firstSeen : IsLeast (times heard) r.firstSeen
  heartbeats : r.heartbeats.toNat = min heard.length (UInt64.size - 1)

theorem remembersGathered {heard : List Heartbeat} {r : NodeRecord}
    (gathered : Gathers (heard.map Heartbeat.record) r) : Remembers heard r where
  latest := by
    obtain ⟨last,final,same⟩ := gathered.latest
    rw [List.getLast?_map] at final
    obtain ⟨h,latest,rfl⟩ := Option.map_eq_some_iff.mp final
    have own := gathered.key h.record (List.mem_map_of_mem (List.mem_of_getLast? latest))
    exact ⟨h,latest,same.name.symm,same.type.symm,own.symm,same.host.symm,same.port.symm,
      same.additional.symm⟩
  lastSeen := by simpa [times,Heartbeat.record,Announcement.toRecord] using gathered.lastSeen
  firstSeen := by simpa [times,Heartbeat.record,Announcement.toRecord] using gathered.firstSeen
  heartbeats := by
    have single : (heard.map Heartbeat.record).map (·.heartbeats.toNat) = heard.map fun _ => 1 :=
      List.map_map
    simpa [single] using gathered.heartbeats

theorem remembersAll {heard : List Heartbeat} {key : String} (own : ∀ h ∈ heard, h.key = key) :
    match (heard.map Heartbeat.record).foldl Store.absorb none with
    | none => heard = []
    | some r => Remembers heard r ∧ r.key = key := by
  have keys : ∀ r ∈ heard.map Heartbeat.record, r.key = key := by
    intro r mem
    obtain ⟨h,inside,rfl⟩ := List.mem_map.mp mem
    exact own h inside
  have counted : ∀ r ∈ heard.map Heartbeat.record, 1 ≤ r.heartbeats := by
    simp [Heartbeat.record,Announcement.toRecord]
  have nothing : ∀ r ∈ (none : Option NodeRecord), r.key = key := by simp
  have known := gathersFold nothing keys counted
  cases stored : (heard.map Heartbeat.record).foldl Store.absorb none with
  | none =>
    rw [stored] at known
    simpa using known
  | some r =>
    rw [stored] at known
    exact ⟨remembersGathered known.1,known.2⟩

namespace Watch

theorem stepKeeps (w : Watch) {a : Action} {key : String}
    (past : ∀ r ∈ a.writes w.now, r.key ≠ key) : (w.step a).2.store.get? key = w.store.get? key := by
  rw [stepStore,Store.getFold]
  have none : (a.writes w.now).filter (·.key = key) = [] := by
    simpa [List.filter_eq_nil_iff] using past
  rw [none]
  rfl

theorem stepOther (w : Watch) {a : Action} (intake : a.direct? = none) {key : String}
    (other : ∀ taken, a.accepted? = some taken → taken.key ≠ key) :
    (w.step a).2.store.get? key = w.store.get? key := by
  refine stepKeeps w ?_
  intro r mem
  simp only [Action.writes,intake,Option.toList_none,List.append_nil,Option.mem_toList] at mem
  obtain ⟨taken,accepted,same⟩ := Option.map_eq_some_iff.mp mem
  subst same
  exact other taken accepted

theorem getStarted (reg : Registry) (empty : reg.store = .empty) (clock : Clock)
    (actions : List Action) (key : String) :
    ((starting reg clock).after actions).store.get? key =
      ((writes clock actions).filter (·.key = key)).foldl Store.absorb none := by
  have start : (starting reg clock).store.get? key = none := by
    change reg.store.get? key = none
    rw [empty]
    rfl
  rw [afterStore,Store.getFold,start]
  rfl

theorem getAfter (reg : Registry) (empty : reg.store = .empty) (clock : Clock)
    {actions : List Action} (intake : ∀ a ∈ actions, a.direct? = none) (key : String) :
    match ((starting reg clock).after actions).store.get? key with
    | none => (heartbeats clock actions).filter (·.key = key) = []
    | some r => Remembers ((heartbeats clock actions).filter (·.key = key)) r ∧ r.key = key := by
  have same : ((heartbeats clock actions).map Heartbeat.record).filter (·.key = key) =
      ((heartbeats clock actions).filter (·.key = key)).map Heartbeat.record := List.filter_map
  rw [getStarted reg empty,writesHeard intake,same]
  exact remembersAll (by simp)

theorem heardStored (reg : Registry) (empty : reg.store = .empty) (clock : Clock)
    {actions : List Action} (intake : ∀ a ∈ actions, a.direct? = none) (key : String) :
    (∃ r ∈ ((starting reg clock).after actions).store.records, r.key = key) ↔
      ∃ h ∈ heartbeats clock actions, h.key = key := by
  have known := getAfter reg empty clock intake key
  constructor
  · rintro ⟨r,mem,rfl⟩
    rw [Store.memRecords.mp mem] at known
    obtain ⟨h,last,_⟩ := known.1.latest
    obtain ⟨inside,same⟩ := List.mem_filter.mp (List.mem_of_getLast? last)
    exact ⟨h,inside,by simpa using same⟩
  · rintro ⟨h,mem,own⟩
    cases stored : ((starting reg clock).after actions).store.get? key with
    | none =>
      rw [stored] at known
      have absent := List.filter_eq_nil_iff.mp known h mem
      simp [own] at absent
    | some r => exact ⟨r,Store.memOfGet stored,Store.keyOfGet stored⟩

/-- After any run of the intake the store has one record for every key a heartbeat came in for,
and that record remembers the heartbeats of its key; no other step changes it. -/
theorem storeRemembers (start : Instant) (window : LivenessWindow) (requirements : List Requirement)
    (actions : List Action) (intake : ∀ a ∈ actions, a.direct? = none) :
    let w := (starting ⟨.empty,window,requirements⟩ (.startingAt start)).after actions
    let heard := heartbeats (.startingAt start) actions
    (∀ key, (∃ r ∈ w.store.records, r.key = key) ↔ ∃ h ∈ heard, h.key = key) ∧
    (w.store.records.map (·.key)).Nodup ∧
    (∀ r ∈ w.store.records, Remembers (heard.filter (·.key = r.key)) r) ∧
    ∀ a : Action, a.direct? = none →
      ∀ key, (∀ taken, a.accepted? = some taken → taken.key ≠ key) →
        (w.step a).2.store.get? key = w.store.get? key := by
  intro w heard
  refine ⟨heardStored _ rfl _ intake,w.store.recordKeysNodup,?_,
    fun _ past _ other => stepOther w past other⟩
  intro r mem
  have known := getAfter ⟨.empty,window,requirements⟩ rfl (.startingAt start) intake r.key
  rw [Store.memRecords.mp mem] at known
  exact known.1

theorem storeRemembersRetreat :
    let first : Heartbeat := ⟨.ofMillis 5000,⟨"orb","web","k1",none,none,none⟩⟩
    let second : Heartbeat := ⟨.ofMillis 2000,⟨"orb","push","k1",some "10.0.0.1",some 80,none⟩⟩
    let actions : List Action := [.announce first.announcement,.sweep,.announceJson .null,
      .set second.time,.announce second.announcement,.ask .list]
    (∀ a ∈ actions, a.direct? = none) ∧
      ∃ r ∈ ((starting ⟨.empty,⟨10,by decide,by decide⟩,[]⟩
        (.startingAt first.time)).after actions).store.records,
        r.key = "k1" ∧ Remembers [first,second] r := by
  intro first second actions
  have intake : ∀ a ∈ actions, a.direct? = none := by simp [actions,Action.direct?]
  have early : (Clock.startingAt second.time).now = second.time := by decide
  have late : (Clock.startingAt first.time).now = first.time := by decide
  have heard : heartbeats (.startingAt first.time) actions = [first,second] := by
    simp [actions,heartbeats,Action.accepted?,Action.clockAfter,early,late,Announcement.ofJson,
      Except.toOption]
  obtain ⟨keys,_,known,_⟩ :=
    storeRemembers first.time ⟨10,by decide,by decide⟩ [] actions intake
  obtain ⟨r,mem,own⟩ := (keys "k1").mpr ⟨first,by simp [heard],rfl⟩
  have all := known r mem
  rw [heard,own] at all
  exact ⟨intake,r,mem,own,all⟩

end Watch

end Muster
