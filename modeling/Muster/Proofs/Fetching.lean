import Muster.Proofs.Enumeration
import Muster.Proofs.Readiness
/-! Readiness from part of the records. Where nothing but keys is required only the records under these
keys are fetched, and each of them once; a verdict over all that the store holds, in whatever order, is
the same one. Of a record, searches and requirements look only at its name and type in lower case, its
key, and when it was last seen, so that registries whose records have the same outlines are told apart
by neither. -/
namespace Muster

def Requirement.key? : Requirement → Option String
  | .key value => some value
  | _ => none

theorem Registry.keysOnlyCounted (requirements : List Requirement) :
    keysOnly? requirements =
      if (requirements.filterMap Requirement.key?).length = requirements.length
      then some (requirements.filterMap Requirement.key?) else none := by
  induction requirements with
  | nil => rfl
  | cons r rest ih =>
    have fewer := List.length_filterMap_le Requirement.key? rest
    simp only [keysOnly?] at ih
    cases r with
    | key value =>
      simp only [keysOnly?,List.mapM_cons,ih,Requirement.key?,List.filterMap_cons,List.length_cons,
        Nat.add_right_cancel_iff]
      split <;> rfl
    | name value | type value =>
      rw [List.filterMap_cons_none rfl,List.length_cons,if_neg (by omega)]
      rfl

namespace Readiness
variable {requirements : List Requirement}

def onlineAmong (window : LivenessWindow) (now : Instant) (records : List NodeRecord) :
    List NodeRecord := records.filter fun r => window.statusAt r.lastSeen now = .online

theorem presenceSame {first second : List NodeRecord} {r : Requirement}
    (same : presence first r = .on ↔ presence second r = .on) :
    presence first r = presence second r := by
  cases here : presence first r <;> cases there : presence second r <;> simp_all

theorem evaluateSame {window : LivenessWindow} {now : Instant} {first second : List NodeRecord}
    (same : ∀ r ∈ requirements, presence (onlineAmong window now first) r =
      presence (onlineAmong window now second) r) :
    evaluate window now first requirements = evaluate window now second requirements := by
  have summary : summarize (onlineAmong window now first) requirements =
      summarize (onlineAmong window now second) requirements := by
    refine List.foldl_ext _ _ _ fun summary r mem => ?_
    rw [same r mem]
  simp only [onlineAmong] at summary
  simp only [evaluate,summary]

theorem presenceStored {reg : Registry} {now : Instant} {r : Requirement} :
    presence (onlineAmong reg.window now reg.store.records) r = .on ↔ r.MetAt reg now := by
  rw [presenceOn]
  simp only [onlineAmong,List.mem_filter,decide_eq_true_eq,and_assoc]
  rfl

theorem fetchedStored (reg : Registry) (now : Instant) (requirements : List Requirement) :
    reg.readinessFor now requirements =
      evaluate reg.window now reg.store.records requirements := by
  change evaluate reg.window now (reg.considered requirements) requirements = _
  refine evaluateSame fun r mem => presenceSame ?_
  exact (presenceMet mem).trans presenceStored.symm

/-- The verdict that is made from the records under the required keys, where only keys are required,
is the one over all the records of the store in any order in which they may be handed out. -/
theorem keysSuffice (reg : Registry) (now : Instant) (requirements : List Requirement)
    (shot : Snapshot reg.store) :
    let keys := requirements.filterMap Requirement.key?
    let fetched :=
      if keys.length = requirements.length then reg.store.lookup keys else reg.store.records
    reg.readinessFor now requirements = evaluate reg.window now fetched requirements ∧
      reg.readinessFor now requirements = evaluate reg.window now shot.records requirements := by
  intro keys fetched
  constructor
  · have switch := Registry.keysOnlyCounted requirements
    by_cases count : keys.length = requirements.length
    · simp only [Registry.readinessFor,switch,fetched,keys,if_pos count]
    · simp only [Registry.readinessFor,switch,fetched,keys,if_neg count]
  · rw [fetchedStored]
    exact evaluatePerm shot.perm.symm reg.window now requirements

end Readiness

structure Outline where
  name : String
  type : String
  key : String
  lastSeen : Instant

def NodeRecord.outline (r : NodeRecord) : Outline :=
  ⟨Text.lower r.name,Text.lower r.type,r.key,r.lastSeen⟩

namespace Outline

def has (needle : String) (o : Outline) : Bool :=
  Text.contains o.name needle || Text.contains o.type needle

def newerFirst (a b : Outline) : Bool :=
  b.lastSeen < a.lastSeen || (a.lastSeen = b.lastSeen && a.key ≤ b.key)

end Outline

theorem Requirement.namesOutline {a b : NodeRecord} (same : a.outline = b.outline)
    (r : Requirement) : r.Names a ↔ r.Names b := by
  cases r with
  | name value => exact Eq.congr_left (congrArg Outline.name same)
  | type value => exact Eq.congr_left (congrArg Outline.type same)
  | key value => exact Eq.congr_left (congrArg Outline.key same)

namespace Registry
variable {reg other : Registry} {now : Instant} {r : Requirement}

theorem orderOutlines (views : List NodeView) :
    (order views).map (·.record.outline) =
      (views.map (·.record.outline)).mergeSort Outline.newerFirst := by
  have same (a b : NodeView) :
      newerFirst a b = Outline.newerFirst a.record.outline b.record.outline := rfl
  exact List.map_mergeSort fun a _ b _ => same a b

theorem discoverOutlines (reg : Registry) (now : Instant) (query : String) :
    (reg.discover now query).map (·.record.outline) =
      ((reg.store.records.map NodeRecord.outline).mergeSort Outline.newerFirst).filter
        (Outline.has (Text.lower (Text.trim query))) := by
  have viewed : (reg.views now reg.store.records).map (·.record.outline) =
      reg.store.records.map NodeRecord.outline := List.map_map
  rw [← viewed,← orderOutlines,List.filter_map]
  simp only [discover,list,matchesQuery,Outline.has,NodeRecord.outline,Function.comp_def]

structure Alike (reg other : Registry) : Prop where
  window : other.window = reg.window
  outlines : other.store.records.map NodeRecord.outline =
    reg.store.records.map NodeRecord.outline

namespace Alike

theorem symm (alike : Alike reg other) : Alike other reg :=
  ⟨alike.window.symm,alike.outlines.symm⟩

theorem found (alike : Alike reg other) (now : Instant) (query : String) :
    (other.discover now query).map (·.record.key) =
      (reg.discover now query).map (·.record.key) := by
  have outlines : (other.discover now query).map (·.record.outline) =
      (reg.discover now query).map (·.record.outline) := by
    rw [discoverOutlines,discoverOutlines,alike.outlines]
  have keys := congrArg (List.map Outline.key) outlines
  rwa [List.map_map,List.map_map] at keys

theorem met (alike : Alike reg other) (here : r.MetAt reg now) : r.MetAt other now := by
  obtain ⟨record,stored,online,names⟩ := here
  have outline : record.outline ∈ other.store.records.map NodeRecord.outline :=
    alike.outlines ▸ List.mem_map_of_mem stored
  obtain ⟨twin,there,same⟩ := List.mem_map.mp outline
  have seen : twin.lastSeen = record.lastSeen := congrArg Outline.lastSeen same
  exact ⟨twin,there,by rw [alike.window,seen,online],(r.namesOutline same).mpr names⟩

theorem readiness (alike : Alike reg other) (now : Instant) (requirements : List Requirement) :
    other.readinessFor now requirements = reg.readinessFor now requirements := by
  rw [Readiness.fetchedStored,Readiness.fetchedStored,alike.window]
  refine Readiness.evaluateSame fun r _ => Readiness.presenceSame ?_
  rw [← alike.window,Readiness.presenceStored,alike.window,Readiness.presenceStored]
  exact ⟨alike.symm.met,alike.met⟩

end Alike

end Registry
end Muster
