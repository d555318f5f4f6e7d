import Muster.Proofs.Listing
import Muster.Proofs.Run
import Muster.Proofs.Searching
import Muster.Time.Rfc3339
/-! What time does to the answers while no node announces itself. Nodes go offline and grow older, and
nothing else happens to them: the listing keeps its order, the summary loses entries that are on, and
readiness is not gained. All of it hangs on the time since an instant to grow with the reading. Since a
leap second that does not end its day it falls at midnight: the second is counted up to there, and not
beyond. -/
namespace Muster

namespace Instant
variable {t start earlier later : Instant}

/- In no leap second but one that ends its day. -/
def Steady (t : Instant) : Prop := t.Plain ∨ t.daySecond = 86399

theorem sinceSteady (steady : start.Steady) (plain : t.Plain) :
    t.since start = (t.second - start.second) * 1000000000 + ((t.nano : Int) - start.nano) := by
  have here : t.daySecond = t.second % 86400 := rfl
  unfold Steady Plain at *
  simp only [since]
  split
  · omega
  · split <;> omega

theorem sinceGrows (steady : start.Steady) (first : earlier.Plain) (second : later.Plain)
    (after : earlier ≤ later) : earlier.since start ≤ later.since start := by
  rw [sinceSteady steady first,sinceSteady steady second]
  rw [leIff] at after
  unfold Plain at *
  simp only [rank] at after
  omega

def dayEnd (t : Instant) : Instant := ⟨t.second - t.daySecond + 86399,999999999,by decide⟩

def nextDay (t : Instant) : Instant := ⟨t.second - t.daySecond + 86400,0,Nat.zero_lt_succ _⟩

theorem overMidnight (t : Instant) : t.dayEnd.Plain ∧ t.nextDay.Plain ∧ t.dayEnd ≤ t.nextDay := by
  rw [leIff]
  simp only [Plain,rank,dayEnd,nextDay]
  omega

theorem sinceFalls (unsteady : ¬ start.Steady) :
    0 < start.dayEnd.since start ∧ start.dayEnd.since start ≤ 86400000000000 ∧
      start.nextDay.since start < start.dayEnd.since start := by
  have bound := start.nano_lt
  have day : start.daySecond = start.second % 86400 := rfl
  have late : start.dayEnd.daySecond = 86399 := by simp only [dayEnd,daySecond]; omega
  have early : start.nextDay.daySecond = 0 := by simp only [nextDay,daySecond]; omega
  have leap : 1000000000 ≤ start.nano ∧ start.daySecond < 86399 := by
    unfold Steady Plain at unsteady
    omega
  have counted : start.dayEnd.since start =
      (86400 - start.daySecond) * 1000000000 + (999999999 - start.nano) := by
    simp only [since,late]
    rw [if_pos ⟨leap.2,leap.1⟩]
    simp only [dayEnd]
    omega
  have dropped : start.nextDay.since start =
      (86400 - start.daySecond) * 1000000000 - start.nano := by
    simp only [since,early]
    rw [if_neg (by omega),if_neg (by simp [nextDay])]
    simp only [nextDay]
    omega
  omega

end Instant

def Store.Steady (s : Store) : Prop := ∀ r ∈ s.records, r.lastSeen.Steady

structure NodeView.Fades (earlier later : NodeView) : Prop where
  record : later.record = earlier.record
  online : later.status = .online → earlier.status = .online
  age : earlier.ageSeconds ≤ later.ageSeconds

namespace Registry
variable {reg : Registry} {required : List Requirement} {earlier later : Instant}

/- Nothing is gained from one reading to the other. -/
structure Decays (reg : Registry) (required : List Requirement) (earlier later : Instant) :
    Prop where
  listed : List.Forall₂ NodeView.Fades (reg.list earlier) (reg.list later)
  discovered : ∀ query,
    List.Forall₂ NodeView.Fades (reg.discover earlier query) (reg.discover later query)
  fetched : ∀ keys, List.Forall₂ NodeView.Fades (reg.lookup earlier keys) (reg.lookup later keys)
  counted : (reg.statistics later).online ≤ (reg.statistics earlier).online
  entries : ∀ text, (text,Presence.on) ∈ (reg.readinessFor later required).summary →
    (text,Presence.on) ∈ (reg.readinessFor earlier required).summary
  ready : (reg.readinessFor later required).ready = true →
    (reg.readinessFor earlier required).ready = true

def reread (reg : Registry) (now : Instant) (v : NodeView) : NodeView :=
  reg.window.view now v.record

theorem viewsReread (reg : Registry) (earlier later : Instant) (records : List NodeRecord) :
    reg.views later records = (reg.views earlier records).map (reg.reread later) := by
  rw [views,views,List.map_map]
  rfl

theorem listReread (reg : Registry) (earlier later : Instant) :
    reg.list later = (reg.list earlier).map (reg.reread later) := by
  rw [list,reg.viewsReread earlier later]
  refine (List.map_mergeSort ?_).symm
  intro a _ b _
  rfl

theorem discoverReread (reg : Registry) (earlier later : Instant) (query : String) :
    reg.discover later query = (reg.discover earlier query).map (reg.reread later) := by
  rw [discover,reg.listReread earlier later,List.filter_map]
  rfl

theorem lookupReread (reg : Registry) (earlier later : Instant) (keys : List String) :
    reg.lookup later keys = (reg.lookup earlier keys).map (reg.reread later) :=
  reg.viewsReread earlier later (reg.store.lookup keys)

theorem listUnmoved (reg : Registry) (earlier later : Instant) :
    (reg.list later).map (·.record) = (reg.list earlier).map (·.record) := by
  rw [reg.listReread earlier later,List.map_map]
  rfl

section
variable (steady : reg.store.Steady) (first : earlier.Plain) (second : later.Plain)
  (after : earlier ≤ later)
include steady first second after

theorem onlineBefore {r : NodeRecord} (stored : r ∈ reg.store.records)
    (online : reg.window.statusAt r.lastSeen later = .online) :
    reg.window.statusAt r.lastSeen earlier = .online := by
  have grows := Instant.sinceGrows (steady r stored) first second after
  exact LivenessWindow.onlineIff.mpr (Int.lt_of_le_of_lt grows (LivenessWindow.onlineIff.mp online))

theorem rereadFades {views : List NodeView}
    (shown : ∀ v ∈ views, ∃ r ∈ reg.store.records, reg.window.view earlier r = v) :
    List.Forall₂ NodeView.Fades views (views.map (reg.reread later)) := by
  rw [List.forall₂_map_right_iff,List.forall₂_same]
  intro v mem
  obtain ⟨r,stored,same⟩ := shown v mem
  subst same
  have grows := Instant.sinceGrows (steady r stored) first second after
  exact {
    record := rfl
    online := onlineBefore steady first second after stored
    age := by
      simp only [reread,LivenessWindow.view,Instant.elapsedSeconds]
      omega }

theorem entryBefore {text : String}
    (on : Entries.find? text (reg.readinessFor later required).summary = some .on) :
    Entries.find? text (reg.readinessFor earlier required).summary = some .on := by
  rw [Readiness.entryOn] at on ⊢
  obtain ⟨last,shown,record,stored,online,names⟩ := on
  exact ⟨last,shown,record,stored,onlineBefore steady first second after stored online,names⟩

theorem decaysSteady : Decays reg required earlier later where
  listed := by
    rw [reg.listReread earlier later]
    exact rereadFades steady first second after fun v mem => memList.mp mem
  discovered query := by
    rw [reg.discoverReread earlier later]
    exact rereadFades steady first second after fun v mem => discoverSource mem
  fetched keys := by
    rw [reg.lookupReread earlier later]
    refine rereadFades steady first second after fun v mem => ?_
    obtain ⟨r,fetched,shown⟩ := List.mem_map.mp mem
    exact ⟨r,(Store.memLookup.mp fetched).2,shown⟩
  counted := by
    refine List.countP_mono_left fun r stored online => ?_
    simp only [decide_eq_true_eq] at online ⊢
    exact onlineBefore steady first second after stored online
  entries text on := by
    have unique (now : Instant) :
        ((reg.readinessFor now required).summary.map Prod.fst).Nodup :=
      Readiness.summarizeNodup _ _
    rw [Entries.memIff (unique _)] at on ⊢
    exact entryBefore steady first second after on
  ready all := by
    rw [Readiness.readyEntries] at all ⊢
    exact fun r mem => entryBefore steady first second after (all r mem)

end

theorem unsteadyReturns {store : Store} {r : NodeRecord} (stored : r ∈ store.records)
    (unsteady : ¬ r.lastSeen.Steady) : ∃ window,
      ¬ Decays ⟨store,window,[]⟩ [] r.lastSeen.dayEnd r.lastSeen.nextDay := by
  obtain ⟨positive,short,falls⟩ := Instant.sinceFalls unsteady
  -- The window is over at the end of the day, and not yet when the next one begins.
  let window : LivenessWindow := ⟨r.lastSeen.dayEnd.since r.lastSeen,positive,by omega⟩
  refine ⟨window,fun decays => ?_⟩
  have fades := decays.fetched [r.key]
  rw [lookupAlone,lookupAlone,Store.memRecords.mp stored] at fades
  obtain ⟨view,_⟩ := List.forall₂_cons.mp fades
  have before := view.online (LivenessWindow.onlineIff.mpr falls)
  exact absurd (LivenessWindow.onlineIff.mp before) (Int.lt_irrefl _)

/-- The answers on a store decay with any window and requirements, between any readings outside leap
seconds, where all clocks read, if all its nodes were seen outside leap seconds or in one that ended its
day, and not otherwise. The nodes are listed in one order at any readings. -/
theorem decaysExactly (store : Store) :
    ((∀ window own required earlier later, Instant.Plain earlier → Instant.Plain later →
      earlier ≤ later → Decays ⟨store,window,own⟩ required earlier later) ↔ store.Steady) ∧
    ∀ window own earlier later,
      ((Registry.mk store window own).list later).map (·.record) =
        ((Registry.mk store window own).list earlier).map (·.record) := by
  refine ⟨⟨?_,?_⟩,fun window own earlier later => listUnmoved _ earlier later⟩
  · intro decays r stored
    by_contra unsteady
    obtain ⟨window,revived⟩ := unsteadyReturns stored unsteady
    obtain ⟨first,second,after⟩ := r.lastSeen.overMidnight
    exact revived (decays window [] [] _ _ first second after)
  · intro steady window own required earlier later first second after
    exact decaysSteady steady first second after

/- A node that is seen in a leap second at noon is offline at the end of the day, and back at midnight. -/
theorem midnightRevives :
    let seen : Instant := ⟨43259,1500000000,by decide⟩
    let hub : NodeRecord := ⟨"hub","web","k1",none,none,none,seen,seen,1⟩
    let reg : Registry := ⟨Store.empty.upsert hub,⟨43140000000000,by decide,by decide⟩,[.name "hub"]⟩
    let night := Clock.startingAt (.ofMillis 86399999)
    let late := night.now
    let next := (night.advance 1).now
    Rfc3339.read? "1970-01-01T12:00:60.5Z" = some seen ∧ late ≤ next ∧
      reg.list late = [⟨hub,.offline,43140⟩] ∧ reg.list next = [⟨hub,.online,43139⟩] ∧
      (reg.readiness late).ready = false ∧ (reg.readiness next).ready = true ∧
      ¬ Decays reg reg.requirements late next := by
  intro seen hub reg night late next
  have before : (reg.readiness late).ready = false := by decide +kernel
  have again : (reg.readiness next).ready = true := by decide +kernel
  have listed {now : Instant} {status : Status} {age : Int}
      (same : reg.window.statusAt seen now = status ∧ seen.elapsedSeconds now = age) :
      reg.list now = [⟨hub,status,age⟩] := by
    rw [← same.1,← same.2]
    exact List.mergeSort_singleton _
  refine ⟨by decide +kernel,by decide +kernel,listed (by decide +kernel),listed (by decide +kernel),
    before,again,fun decays => ?_⟩
  have kept := decays.ready again
  exact absurd (kept.symm.trans before) (by decide)

end Registry

namespace Store

theorem upsertSteady {s : Store} {r : NodeRecord} (steady : s.Steady) (own : r.lastSeen.Steady) :
    (s.upsert r).Steady := by
  intro x mem
  have found := memRecords.mp mem
  rw [getMerged] at found
  split at found
  · cases found
    unfold merged
    split
    · next stored here =>
      rcases max_choice stored.lastSeen r.lastSeen with same | same
      · simpa [NodeRecord.merge,same] using steady stored (memOfGet here)
      · simpa [NodeRecord.merge,same] using own
    · exact own
  · exact steady x (memOfGet found)

end Store

namespace Watch

theorem stepSteady {w : Watch} {a : Action} (steady : w.store.Steady)
    (written : ∀ r, a.direct? = some r → r.lastSeen.Steady) : (w.step a).2.store.Steady := by
  rw [stepStore]
  refine List.foldlRecOn _ _ steady fun s kept r mem => Store.upsertSteady kept ?_
  rcases List.mem_append.mp mem with heard | direct
  · obtain ⟨taken,_,same⟩ := Option.map_eq_some_iff.mp (Option.mem_toList.mp heard)
    subst same
    exact .inl w.clock.readsPlain
  · exact written r (Option.mem_toList.mp direct)

theorem afterSteady {w : Watch} {actions : List Action} (steady : w.store.Steady)
    (written : ∀ a ∈ actions, ∀ r, a.direct? = some r → r.lastSeen.Steady) :
    (w.after actions).store.Steady := by
  induction actions generalizing w with
  | nil => exact steady
  | cons a rest ih =>
    exact ih (stepSteady steady (written a List.mem_cons_self)) fun b mem =>
      written b (List.mem_cons_of_mem a mem)

theorem quietRegistry {w : Watch} {quiet : List Action}
    (silent : ∀ a ∈ quiet, a.accepted? = none ∧ a.direct? = none) :
    (w.after quiet).registry = w.registry := by
  induction quiet generalizing w with
  | nil => rfl
  | cons a rest ih =>
    obtain ⟨unheard,unwritten⟩ := silent a List.mem_cons_self
    have kept : (w.step a).2.registry = w.registry := by
      rw [stepRegistry,Action.writes,unheard,unwritten]
      rfl
    exact (ih fun b mem => silent b (List.mem_cons_of_mem a mem)).trans kept

/- While nobody announces itself nothing is gained, if the clock is not behind at the end and no unsteady
record came in from elsewhere. -/
theorem quietDecays {w : Watch} {actions quiet : List Action} (steady : w.store.Steady)
    (written : ∀ a ∈ actions, ∀ r, a.direct? = some r → r.lastSeen.Steady)
    (silent : ∀ a ∈ quiet, a.accepted? = none ∧ a.direct? = none) :
    let before := w.after actions
    let after := before.after quiet
    before.now ≤ after.now → after.registry = before.registry ∧
      ∀ required, before.registry.Decays required before.now after.now := by
  intro before after later
  refine ⟨quietRegistry silent,fun required => ?_⟩
  exact Registry.decaysSteady (afterSteady steady written) before.clock.readsPlain
    after.clock.readsPlain later

end Watch
end Muster
