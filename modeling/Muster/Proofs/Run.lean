import Mathlib.Data.List.Induction
import Muster.Registry.Patrol
import Muster.Registry.Queries
import Muster.Time.Clock
/-! Runs of a registry with the clock it reads and the sweeper that watches it. A step is one call
from outside, in whatever order calls come; the clock may be moved in either direction. -/
namespace Muster

inductive Query where
  | list
  | discover (query : String)
  | lookup (keys : List String)
  | ready
  | readiness (requirements : List Requirement)
  | statistics
  | snapshot
  | count

inductive Action where
  | set (time : Instant)
  | advance (ms : Int)
  | announce (a : Announcement)
  | announceJson (body : Json)
  | upsert (r : NodeRecord)
  | ask (q : Query)
  | sweep

inductive Answer where
  | moved (now : Instant)
  | noted (view : NodeView)
  | refused (error : ValidationError)
  | stored (record : NodeRecord)
  | views (found : List NodeView)
  | verdict (readiness : Readiness)
  | figures (statistics : Statistics)
  | records (stored : List NodeRecord)
  | number (n : Nat)
  | swept (report : SweepReport)

def Query.answer (reg : Registry) (now : Instant) : Query → Answer
  | list => .views (reg.list now)
  | discover query => .views (reg.discover now query)
  | lookup keys => .views (reg.lookup now keys)
  | ready => .verdict (reg.readiness now)
  | readiness requirements => .verdict (reg.readinessFor now requirements)
  | statistics => .figures (reg.statistics now)
  | snapshot => .records reg.store.records
  | count => .number reg.store.size

def Answer.report? : Answer → Option SweepReport
  | swept report => some report
  | _ => none

namespace Action

def clockAfter (clock : Clock) : Action → Clock
  | set time => .startingAt time
  | advance ms => clock.advance ms
  | _ => clock

/- The heartbeat that a step brings in, if it brings one that is taken. -/
def accepted? : Action → Option Announcement
  | announce a => some a
  | announceJson body => (Announcement.ofJson body).toOption
  | _ => none

/- A write past the intake, of a record made elsewhere. -/
def direct? : Action → Option NodeRecord
  | upsert r => some r
  | _ => none

def isSweep : Action → Bool
  | sweep => true
  | _ => false

def writes (now : Instant) (a : Action) : List NodeRecord :=
  (a.accepted?.map (·.toRecord now)).toList ++ a.direct?.toList

end Action

structure Watch where
  registry : Registry
  clock : Clock
  sweeper : Sweeper

namespace Watch

def starting (reg : Registry) (clock : Clock) : Watch := ⟨reg,clock,.new⟩

def now (w : Watch) : Instant := w.clock.now

def store (w : Watch) : Store := w.registry.store

def step (w : Watch) : Action → Answer × Watch
  | .set time =>
      let clock := Clock.startingAt time
      (.moved clock.now,{ w with clock })
  | .advance ms =>
      let clock := w.clock.advance ms
      (.moved clock.now,{ w with clock })
  | .announce a =>
      let written := w.registry.announce w.now a
      (.noted written.view,{ w with registry := written.registry })
  | .announceJson body =>
      match w.registry.announceJson w.now body with
      | (.ok view,registry,_) => (.noted view,{ w with registry })
      | (.error e,registry,_) => (.refused e,{ w with registry })
  | .upsert r =>
      (.stored (w.store.merged r),{ w with registry.store := w.store.upsert r })
  | .ask q => (q.answer w.registry w.now,w)
  | .sweep =>
      let (report,sweeper,_) := w.sweeper.sweep w.registry w.now
      (.swept report,{ w with sweeper })

def after (w : Watch) (actions : List Action) : Watch := actions.foldl (fun w a => (w.step a).2) w

def answers (w : Watch) : List Action → List Answer
  | [] => []
  | a :: rest => (w.step a).1 :: answers (w.step a).2 rest

def reports (w : Watch) (actions : List Action) : List SweepReport :=
  (w.answers actions).filterMap Answer.report?

theorem stepClock (w : Watch) (a : Action) : (w.step a).2.clock = a.clockAfter w.clock := by
  cases a with
  | announceJson body =>
    simp only [step,Registry.announceJson]
    cases Announcement.ofJson body <;> rfl
  | _ => rfl

theorem stepRegistry (w : Watch) (a : Action) : (w.step a).2.registry =
    { w.registry with store := (a.writes w.now).foldl Store.upsert w.store } := by
  cases a with
  | announceJson body =>
    simp only [step,Registry.announceJson,Action.writes,Action.accepted?,Action.direct?]
    cases Announcement.ofJson body <;> rfl
  | _ => rfl

theorem stepStore (w : Watch) (a : Action) :
    (w.step a).2.store = (a.writes w.now).foldl Store.upsert w.store := by
  rw [store,stepRegistry]

theorem stepSweeper (w : Watch) (a : Action) :
    (a.isSweep = true ∧ (w.step a).1.report? = some (w.sweeper.sweep w.registry w.now).1 ∧
      (w.step a).2.sweeper = (w.sweeper.sweep w.registry w.now).2.1) ∨
    (a.isSweep = false ∧ (w.step a).1.report? = none ∧ (w.step a).2.sweeper = w.sweeper) := by
  cases a with
  | sweep => exact .inl ⟨rfl,rfl,rfl⟩
  | announceJson body =>
    refine .inr ⟨rfl,?_⟩
    simp only [step,Registry.announceJson]
    cases Announcement.ofJson body <;> exact ⟨rfl,rfl⟩
  | ask q => cases q <;> exact .inr ⟨rfl,rfl,rfl⟩
  | _ => exact .inr ⟨rfl,rfl,rfl⟩

theorem afterSnoc (w : Watch) (actions : List Action) (a : Action) :
    w.after (actions ++ [a]) = ((w.after actions).step a).2 := by
  simp [after]

theorem answersSnoc (w : Watch) (actions : List Action) (a : Action) :
    w.answers (actions ++ [a]) = w.answers actions ++ [((w.after actions).step a).1] := by
  induction actions generalizing w with
  | nil => rfl
  | cons b rest ih =>
    simp only [List.cons_append,answers,ih]
    rfl

theorem reportsSnoc (w : Watch) (actions : List Action) (a : Action) :
    w.reports (actions ++ [a]) =
      w.reports actions ++ ((w.after actions).step a).1.report?.toList := by
  simp only [reports,answersSnoc,List.filterMap_append]
  cases last : ((w.after actions).step a).1.report? <;> simp [last]

/- What holds of a new sweeper and is kept by a sweep of any registry at any time holds of the
sweeper and its reports after every run. -/
theorem sweeperInduction {P : Sweeper → List SweepReport → Prop} (fresh : P .new [])
    (swept : ∀ s reports reg now, P s reports →
      P (Sweeper.sweep s reg now).2.1 (reports ++ [(Sweeper.sweep s reg now).1]))
    (reg : Registry) (clock : Clock) (actions : List Action) :
    P ((starting reg clock).after actions).sweeper ((starting reg clock).reports actions) := by
  induction actions using List.reverseRecOn with
  | nil => exact fresh
  | append_singleton before a ih =>
    rw [afterSnoc,reportsSnoc]
    rcases stepSweeper ((starting reg clock).after before) a with ⟨_,told,left⟩ | ⟨_,told,left⟩
    · rw [told,left]
      exact swept _ _ _ _ ih
    · rw [told,left]
      simpa using ih

theorem reportsLength (w : Watch) (actions : List Action) :
    (w.reports actions).length = actions.countP Action.isSweep := by
  induction actions using List.reverseRecOn with
  | nil => rfl
  | append_singleton before a ih =>
    rw [reportsSnoc,List.length_append,List.countP_append,ih]
    rcases stepSweeper (w.after before) a with ⟨here,told,_⟩ | ⟨here,told,_⟩
    · simp [told,here]
    · simp [told,here]

theorem reportSwept {w : Watch} {actions : List Action} {report : SweepReport}
    (told : report ∈ w.reports actions) : ∃ before, before <+: actions ∧
      report = ((w.after before).sweeper.sweep (w.after before).registry (w.after before).now).1 := by
  induction actions using List.reverseRecOn with
  | nil => simp [reports,answers] at told
  | append_singleton before a ih =>
    rw [reportsSnoc] at told
    rcases List.mem_append.mp told with earlier | last
    · obtain ⟨point,part,same⟩ := ih earlier
      exact ⟨point,part.trans (List.prefix_append _ _),same⟩
    · rcases stepSweeper (w.after before) a with ⟨_,made,_⟩ | ⟨_,none,_⟩
      · rw [made] at last
        exact ⟨before,List.prefix_append _ _,by simpa using last⟩
      · simp [none] at last

def writes (clock : Clock) : List Action → List NodeRecord
  | [] => []
  | a :: rest => a.writes clock.now ++ writes (a.clockAfter clock) rest

theorem afterStore (w : Watch) (actions : List Action) :
    (w.after actions).store = (writes w.clock actions).foldl Store.upsert w.store := by
  induction actions generalizing w with
  | nil => rfl
  | cons a rest ih =>
    change ((w.step a).2.after rest).store = _
    rw [ih,stepClock,stepStore,writes,List.foldl_append]
    rfl

end Watch
end Muster
