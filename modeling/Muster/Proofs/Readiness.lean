import Mathlib.Data.List.Induction
import Muster.Proofs.Contents
import Muster.Proofs.Instants
import Muster.Registry.Queries
/-! What a readiness verdict says about the required nodes. The summary has one entry per text, so
it speaks for a requirement only as far as no later one is shown by the same text. -/
namespace Muster

namespace Text

theorem lowerCharNotNil (c : Char) : lowerChar c ≠ [] := by
  unfold lowerChar
  split
  · simp
  · split
    · simp
    · split <;> simp

theorem lowerNotEmpty {s : String} (some : s ≠ "") : lower s ≠ lower "" := by
  intro same
  have none : lowerChars s.toList = [] := by
    have chars := congrArg String.toList same
    simpa [lower,lowerChars,lowerAfter] using chars
  cases text : s.toList with
  | nil => exact some (String.toList_eq_nil_iff.mp text)
  | cons c rest =>
    rw [text,lowerChars,lowerAfter] at none
    obtain ⟨head,_⟩ := List.append_eq_nil_iff.mp none
    split at head
    · simp at head
    · exact lowerCharNotNil c head

end Text

namespace Summary
variable {summary : Summary} {text other : String} {p : Presence}

theorem findPut (text other : String) (p : Presence) (summary : Summary) :
    Entries.find? other (summary.put text p) =
      if text = other then some p else Entries.find? other summary := by
  induction summary with
  | nil => simp [put,Entries.find?]
  | cons e rest ih =>
    obtain ⟨t,old⟩ := e
    simp only [put]
    split
    · next same =>
      subst same
      simp only [Entries.find?]
      split <;> rfl
    · next differ =>
      simp only [Entries.find?,ih]
      by_cases here : t = other
      · have apart : text ≠ other := fun same => differ (here.trans same.symm)
        simp [here,apart]
      · simp [here]

theorem textsPut : other ∈ (summary.put text p).map Prod.fst ↔
    other = text ∨ other ∈ summary.map Prod.fst := by
  induction summary with
  | nil => simp [put]
  | cons e rest ih =>
    obtain ⟨t,old⟩ := e
    simp only [put]
    split
    · next same => subst same; simp
    · rw [List.map_cons,List.mem_cons,ih,List.map_cons,List.mem_cons]
      exact or_left_comm

theorem putNodup (unique : (summary.map Prod.fst).Nodup) :
    ((summary.put text p).map Prod.fst).Nodup := by
  induction summary with
  | nil => simp [put]
  | cons e rest ih =>
    obtain ⟨t,old⟩ := e
    obtain ⟨fresh,tail⟩ := List.nodup_cons.mp unique
    simp only [put]
    split
    · next same => subst same; exact unique
    · next differ =>
      refine List.nodup_cons.mpr ⟨?_,ih tail⟩
      intro again
      rcases textsPut.mp again with same | inside
      · exact differ same
      · exact fresh inside

end Summary

namespace Requirement

def Names (record : NodeRecord) : Requirement → Prop
  | name value => Text.lower record.name = Text.lower value
  | type value => Text.lower record.type = Text.lower value
  | key value => record.key = value

theorem matchedIff {record : NodeRecord} {r : Requirement} :
    r.matchedBy record = true ↔ r.Names record := by
  cases r <;> simp [matchedBy,Names]

/- A stored record that is online at the time of reading is what is required. -/
def MetAt (reg : Registry) (now : Instant) (r : Requirement) : Prop :=
  ∃ record ∈ reg.store.records,
    reg.window.statusAt record.lastSeen now = .online ∧ r.Names record

def lastShownAs (text : String) (requirements : List Requirement) : Option Requirement :=
  requirements.reverse.find? fun r => r.display = text

theorem lastShownAsSound {text : String} {requirements : List Requirement} {r : Requirement}
    (h : lastShownAs text requirements = some r) : r ∈ requirements ∧ r.display = text := by
  refine ⟨List.mem_reverse.mp (List.mem_of_find?_eq_some h),?_⟩
  simpa using List.find?_some h

theorem lastShownAsExists {requirements : List Requirement} {r : Requirement}
    (mem : r ∈ requirements) :
    ∃ last ∈ requirements, lastShownAs r.display requirements = some last ∧
      last.display = r.display := by
  cases found : lastShownAs r.display requirements with
  | none =>
    have absent := List.find?_eq_none.mp found r (List.mem_reverse.mpr mem)
    simp at absent
  | some last =>
    obtain ⟨inside,shown⟩ := lastShownAsSound found
    exact ⟨last,inside,rfl,shown⟩

/- Two selectors give one text only where a name spells the other selector out. -/
inductive SpeltOut : Requirement → Requirement → Prop where
  | type (value : String) : SpeltOut (.name ("type:" ++ value)) (.type value)
  | key (value : String) : SpeltOut (.name ("key:" ++ value)) (.key value)

theorem SpeltOut.sameDisplay {a b : Requirement} (h : SpeltOut a b) : a.display = b.display := by
  cases h <;> rfl

theorem selectorsApart (a b : String) : "type:" ++ a ≠ "key:" ++ b := by
  intro same
  have heads := congrArg (fun s => s.toList.head?) same
  simp at heads

theorem sharedDisplay {a b : Requirement} (same : a.display = b.display) :
    a = b ∨ SpeltOut a b ∨ SpeltOut b a := by
  cases a with
  | name v =>
    cases b with
    | name w => exact .inl (congrArg _ same)
    | type w => cases (show v = "type:" ++ w from same); exact .inr (.inl (.type w))
    | key w => cases (show v = "key:" ++ w from same); exact .inr (.inl (.key w))
  | type v =>
    cases b with
    | name w => cases (show "type:" ++ v = w from same); exact .inr (.inr (.type v))
    | type w => exact .inl (congrArg _ ((String.append_right_inj _).mp same))
    | key w => exact absurd same (selectorsApart v w)
  | key v =>
    cases b with
    | name w => cases (show "key:" ++ v = w from same); exact .inr (.inr (.key v))
    | type w => exact absurd same.symm (selectorsApart w v)
    | key w => exact .inl (congrArg _ ((String.append_right_inj _).mp same))

end Requirement

namespace Readiness
open Requirement (MetAt lastShownAs lastShownAsSound lastShownAsExists SpeltOut)
variable {online : List NodeRecord} {requirements : List Requirement}

theorem presenceOn {r : Requirement} :
    presence online r = .on ↔ ∃ record ∈ online, r.Names record := by
  simp only [presence]
  split
  · next some => simpa [Requirement.matchedIff] using some
  · next none => simpa [Requirement.matchedIff] using none

theorem summarizeSnoc (online : List NodeRecord) (requirements : List Requirement)
    (r : Requirement) : summarize online (requirements ++ [r]) =
      (summarize online requirements).put r.display (presence online r) := by
  simp [summarize]

theorem summarizeNodup (online : List NodeRecord) (requirements : List Requirement) :
    ((summarize online requirements).map Prod.fst).Nodup := by
  induction requirements using List.reverseRecOn with
  | nil => simp [summarize]
  | append_singleton before r ih =>
    rw [summarizeSnoc]
    exact Summary.putNodup ih

/- The entry of a text is the presence of the last requirement shown by it. -/
theorem findSummarize (online : List NodeRecord) (requirements : List Requirement)
    (text : String) : Entries.find? text (summarize online requirements) =
      (lastShownAs text requirements).map (presence online) := by
  induction requirements using List.reverseRecOn with
  | nil => rfl
  | append_singleton before r ih =>
    rw [summarizeSnoc,Summary.findPut,ih]
    simp only [lastShownAs,List.reverse_append,List.reverse_singleton,List.singleton_append,
      List.find?_cons]
    split
    · next same => simp [same]
    · next differ => simp [differ]

theorem allOn (online : List NodeRecord) (requirements : List Requirement) :
    ((summarize online requirements).all fun (_,p) => p = .on) = true ↔ ∀ r ∈ requirements,
      Entries.find? r.display (summarize online requirements) = some .on := by
  have unique := summarizeNodup online requirements
  rw [List.all_eq_true]
  constructor
  · intro all r mem
    obtain ⟨last,_,found,_⟩ := lastShownAsExists mem
    have entry := findSummarize online requirements r.display
    rw [found,Option.map_some] at entry
    have on := all _ (Entries.memOfFind entry)
    rw [entry]
    simpa using on
  · rintro all ⟨text,p⟩ mem
    have entry := (Entries.memIff unique).mp mem
    rw [findSummarize] at entry
    obtain ⟨last,found,_⟩ := Option.map_eq_some_iff.mp entry
    obtain ⟨inside,shown⟩ := lastShownAsSound found
    have on := all last inside
    rw [shown,(Entries.memIff unique).mp mem] at on
    simpa using on

end Readiness
namespace Registry
open Requirement (MetAt)
variable {reg : Registry} {now : Instant} {requirements : List Requirement}

theorem keysOnlySource {keys : List String} (h : keysOnly? requirements = some keys) :
    requirements = keys.map .key := by
  induction requirements generalizing keys with
  | nil => simp [keysOnly?] at h; subst keys; rfl
  | cons r rest ih =>
    simp only [keysOnly?,List.mapM_cons,bind,Option.bind_eq_some_iff] at h
    obtain ⟨key,here,tail,there,last⟩ := h
    cases Option.some.inj last
    cases r <;> cases here
    rw [List.map_cons,← ih there]

def considered (reg : Registry) (requirements : List Requirement) : List NodeRecord :=
  match keysOnly? requirements with
  | some keys => reg.store.lookup keys
  | none => reg.store.records

theorem consideredMeets {r : Requirement} (mem : r ∈ requirements) :
    (∃ record ∈ reg.considered requirements,
      reg.window.statusAt record.lastSeen now = .online ∧ r.Names record) ↔ r.MetAt reg now := by
  unfold considered
  cases only : keysOnly? requirements with
  | none => exact Iff.rfl
  | some keys =>
    rw [keysOnlySource only] at mem
    obtain ⟨key,asked,same⟩ := List.mem_map.mp mem
    subst same
    constructor
    · rintro ⟨record,fetched,seen,names⟩
      exact ⟨record,(Store.memLookup.mp fetched).2,seen,names⟩
    · rintro ⟨record,stored,seen,names⟩
      have own : record.key = key := names
      exact ⟨record,Store.memLookup.mpr ⟨own.symm ▸ asked,stored⟩,seen,names⟩

end Registry

namespace Readiness
open Requirement (MetAt lastShownAs lastShownAsSound lastShownAsExists SpeltOut)
variable {reg : Registry} {now : Instant} {requirements : List Requirement}

def seenOnline (reg : Registry) (now : Instant) (requirements : List Requirement) :
    List NodeRecord :=
  (reg.considered requirements).filter fun r => reg.window.statusAt r.lastSeen now = .online

theorem readinessSource (reg : Registry) (now : Instant) (requirements : List Requirement) :
    (reg.readinessFor now requirements).summary =
      summarize (seenOnline reg now requirements) requirements := rfl

theorem presenceMet {r : Requirement} (mem : r ∈ requirements) :
    presence (seenOnline reg now requirements) r = .on ↔ r.MetAt reg now := by
  rw [presenceOn,← Registry.consideredMeets mem]
  simp only [seenOnline,List.mem_filter,decide_eq_true_eq,and_assoc]

theorem entryOn (reg : Registry) (now : Instant) (requirements : List Requirement)
    (text : String) :
    Entries.find? text (reg.readinessFor now requirements).summary = some .on ↔
      ∃ last, lastShownAs text requirements = some last ∧ last.MetAt reg now := by
  rw [readinessSource,findSummarize,Option.map_eq_some_iff]
  refine exists_congr fun last => and_congr_right fun found => ?_
  exact presenceMet (lastShownAsSound found).1

structure Exact (reg : Registry) (now : Instant) (requirements : List Requirement) : Prop where
  ready : (reg.readinessFor now requirements).ready = true ↔ ∀ r ∈ requirements, r.MetAt reg now
  each : ∀ r ∈ requirements,
    Entries.find? r.display (reg.readinessFor now requirements).summary = some .on ↔
      r.MetAt reg now

/- Requirements shown by one text have to agree, for the text has one entry. -/
def Agreeing (reg : Registry) (now : Instant) (requirements : List Requirement) : Prop :=
  ∀ a ∈ requirements, ∀ b ∈ requirements, a.display = b.display →
    (a.MetAt reg now ↔ b.MetAt reg now)

theorem readyEntries (reg : Registry) (now : Instant) (requirements : List Requirement) :
    (reg.readinessFor now requirements).ready = true ↔ ∀ r ∈ requirements,
      Entries.find? r.display (reg.readinessFor now requirements).summary = some .on :=
  allOn (seenOnline reg now requirements) requirements

theorem exactOfAgreeing (agree : Agreeing reg now requirements) :
    Exact reg now requirements := by
  have each : ∀ r ∈ requirements,
      Entries.find? r.display (reg.readinessFor now requirements).summary = some .on ↔
        r.MetAt reg now := by
    intro r mem
    obtain ⟨last,inside,found,shown⟩ := lastShownAsExists mem
    rw [entryOn,← agree last inside r mem shown]
    simp [found]
  refine ⟨?_,each⟩
  rw [readyEntries]
  exact forall₂_congr each

theorem readyOfMet (met : ∀ r ∈ requirements, r.MetAt reg now) :
    (reg.readinessFor now requirements).ready = true := by
  have agree : Agreeing reg now requirements :=
    fun a ha b hb _ => iff_of_true (met a ha) (met b hb)
  exact (exactOfAgreeing agree).ready.mpr met

theorem exactAlone (reg : Registry) (now : Instant) (r : Requirement) : Exact reg now [r] := by
  refine exactOfAgreeing fun a ha b hb _ => ?_
  rw [List.mem_singleton.mp ha,List.mem_singleton.mp hb]

theorem agreeingOfExact (exact : Exact reg now requirements) :
    Agreeing reg now requirements := by
  intro a ha b hb same
  rw [← exact.each a ha,← exact.each b hb,same]

/- A record without a name is what a type or a key asks for, and never what a name asks for that
spells one of them out. -/
def unnamed (value : String) : NodeRecord where
  name := ""
  type := value
  key := value
  host := none
  port := none
  additional := none
  firstSeen := .epoch
  lastSeen := .epoch
  heartbeats := 1

def alone (window : LivenessWindow) (record : NodeRecord) : Registry :=
  ⟨Store.empty.upsert record,window,[]⟩

theorem metAlone {window : LivenessWindow} {record : NodeRecord} {r : Requirement} :
    r.MetAt (alone window record) record.lastSeen ↔ r.Names record := by
  have only : (alone window record).store.records = [record] := rfl
  have online : (alone window record).window.statusAt record.lastSeen record.lastSeen = .online :=
    window.onlineWhenSeen record.lastSeen
  simp only [MetAt,only,List.mem_singleton,exists_eq_left,online,true_and]

theorem speltOutDisagree {a b : Requirement} (spelt : SpeltOut a b) (window : LivenessWindow) :
    ∃ value, b.MetAt (alone window (unnamed value)) .epoch ∧
      ¬ a.MetAt (alone window (unnamed value)) .epoch := by
  cases spelt with
  | type value =>
    refine ⟨value,metAlone.mpr rfl,?_⟩
    intro met
    have same : Text.lower "" = Text.lower ("type:" ++ value) := metAlone.mp met
    exact Text.lowerNotEmpty (by simp) same.symm
  | key value =>
    refine ⟨value,metAlone.mpr rfl,?_⟩
    intro met
    have same : Text.lower "" = Text.lower ("key:" ++ value) := metAlone.mp met
    exact Text.lowerNotEmpty (by simp) same.symm

/-- The verdict asks for the last requirement of each text. It tells of all of them exactly where
those shown by one text agree, and it does so in every registry unless a required name spells out
another required selector. -/
theorem readinessExactly (requirements : List Requirement) :
    (∀ reg now, (reg.readinessFor now requirements).ready = true ↔
      ∀ r ∈ requirements, lastShownAs r.display requirements = some r → r.MetAt reg now) ∧
    (∀ reg now, Exact reg now requirements ↔ Agreeing reg now requirements) ∧
    ((∀ reg now, Exact reg now requirements) ↔
      ∀ a ∈ requirements, ∀ b ∈ requirements, ¬ SpeltOut a b) := by
  refine ⟨?_,fun reg now => ⟨agreeingOfExact,exactOfAgreeing⟩,?_,?_⟩
  · intro reg now
    rw [readyEntries]
    constructor
    · intro all r mem last
      obtain ⟨found,same,met⟩ := (entryOn reg now requirements r.display).mp (all r mem)
      cases Option.some.inj (last.symm.trans same)
      exact met
    · intro all r mem
      obtain ⟨last,inside,found,shown⟩ := lastShownAsExists mem
      exact (entryOn reg now requirements r.display).mpr
        ⟨last,found,all last inside (shown ▸ found)⟩
  · intro exact a ha b hb spelt
    have window : LivenessWindow := ⟨1,by decide,by decide⟩
    obtain ⟨value,met,unmet⟩ := speltOutDisagree spelt window
    have agree := agreeingOfExact (exact (alone window (unnamed value)) .epoch)
    exact unmet ((agree a ha b hb spelt.sameDisplay).mpr met)
  · intro apart reg now
    refine exactOfAgreeing ?_
    intro a ha b hb same
    rcases Requirement.sharedDisplay same with equal | spelt | spelt
    · rw [equal]
    · exact absurd spelt (apart a ha b hb)
    · exact absurd spelt (apart b hb a ha)

/- A portal of the type web is there; the node that is named like the type is not. -/
theorem missingNameHidden :
    let required : List Requirement := [.name "type:web",.type "web"]
    let reg := ((Registry.mk .empty ⟨10,by decide,by decide⟩ required).announce .epoch
      ⟨"portal","web","portal-1",none,none,none⟩).registry
    (Requirement.parseAll ["name:type:web","type:web"]).1 = .ok required ∧
      (reg.readinessFor .epoch required).ready = true ∧
      ¬ (Requirement.name "type:web").MetAt reg .epoch ∧ ¬ Exact reg .epoch required := by
  intro required reg
  have ready : (reg.readinessFor .epoch required).ready = true := by decide +kernel
  have unmet : ¬ (Requirement.name "type:web").MetAt reg .epoch := by
    rintro ⟨record,stored,_,names⟩
    have other : ∀ record ∈ reg.store.records,
        Text.lower record.name ≠ Text.lower "type:web" := by decide +kernel
    exact other record stored names
  refine ⟨by decide +kernel,ready,unmet,?_⟩
  intro exact
  exact unmet (exact.ready.mp ready _ (by simp [required]))

end Readiness
end Muster
