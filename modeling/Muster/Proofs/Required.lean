import Mathlib.Data.List.Sort
import Muster.Proofs.Selectors
/-! The required nodes that a list of entries stands for. Each is kept once, at the place of the first
entry that stands for it, however that and the others are spelt. An entry that cannot be read is the end
of the reading: its fault is what is reported, whatever stands behind it. -/
namespace Muster

theorem Text.trimSolid {c : Char} (solid : isBlank c = false) (s : String) :
    c ∈ (trim s).toList ↔ c ∈ s.toList := by
  obtain ⟨before,after,span,front,back⟩ := (trimsTrim s).around
  rw [span,List.mem_append,List.mem_append]
  constructor
  · exact fun inside => .inl (.inr inside)
  · rintro ((blank | inside) | blank)
    · exact absurd (front c blank) (by simp [solid])
    · exact inside
    · exact absurd (back c blank) (by simp [solid])

namespace Requirement
variable {entries more : List String} {entry : String} {r : Requirement}
  {requirements : List Requirement} {fault : ConfigurationFault}

/- What stands for a required node: its selector and its value, or only the value of a name that has
no colon in it, each with any white space around it. -/
inductive Spelling (r : Requirement) : String → Prop where
  | selected {before after : String} (selector : Text.trim before = r.kind)
      (value : Text.trim after = r.value) : Spelling r (before ++ ":" ++ after)
  | bare {entry : String} (name : r.kind = "name") (plain : ':' ∉ entry.toList)
      (value : Text.trim entry = r.value) : Spelling r entry

theorem spellingIff : parse entry = .ok r ↔ r.value ≠ "" ∧ Spelling r entry := by
  rw [parseIff]
  refine and_congr_right fun some => ?_
  constructor
  · rintro ⟨text,own⟩
    rcases cutCases entry with ⟨plain,cut⟩ | ⟨before,after,rfl,cut⟩
    · rw [cut] at text own
      rcases own with selected | ⟨_,name⟩
      · cases selected
      · exact .bare name plain text
    · rw [cut] at text own
      rcases own with selected | ⟨bare,_⟩
      · exact .selected (Option.some.inj selected) text
      · cases bare
  · intro spelling
    cases spelling with
    | @selected before after selector value =>
      have plain : ':' ∉ (Text.trim before).toList := selector ▸ r.kindPlain.1
      rw [cutSelected (mt (Text.trimSolid rfl before).mpr plain)]
      exact ⟨value,.inl (congrArg _ selector)⟩
    | bare name plain value =>
      rw [cutBare plain]
      exact ⟨value,.inr ⟨rfl,name⟩⟩

def Reads (entry : String) : Prop := ∃ r, parse entry = .ok r

/- The fault of an entry that cannot be read, all entries before it being read. -/
def FirstUnread (entries : List String) (fault : ConfigurationFault) : Prop :=
  ∃ before entry rest, entries = before ++ entry :: rest ∧ (∀ e ∈ before, Reads e) ∧
    parse entry = .error fault

theorem parseAfterNext (read : parse entry = .ok r)
    (seen : List Requirement) (rest : List String) :
    ∃ more, (parseAfter seen (entry :: rest)).1 = (parseAfter more rest).1 := by
  by_cases again : r ∈ seen
  · exact ⟨seen,by simp only [parseAfter,read,if_pos again]⟩
  · exact ⟨seen ++ [r],by simp only [parseAfter,read,if_neg again]⟩

theorem parseAfterTaken (seen : List Requirement) :
    (∃ requirements, (parseAfter seen entries).1 = .ok requirements) ↔ ∀ e ∈ entries, Reads e := by
  induction entries generalizing seen with
  | nil => simp [parseAfter]
  | cons entry rest ih =>
    rw [List.forall_mem_cons]
    cases read : parse entry with
    | error fault => simp [parseAfter,read,Reads]
    | ok r =>
      obtain ⟨more,next⟩ := parseAfterNext read seen rest
      rw [next,ih]
      exact (and_iff_right ⟨r,read⟩).symm

theorem parseAfterAppend (seen : List Requirement) (entries more : List String) :
    (parseAfter seen (entries ++ more)).1 =
      (parseAfter seen entries).1.bind fun kept => (parseAfter kept more).1 := by
  induction entries generalizing seen with
  | nil => rfl
  | cons entry rest ih =>
    simp only [List.cons_append,parseAfter]
    cases parse entry with
    | error fault => rfl
    | ok r =>
      by_cases again : r ∈ seen
      · simp only [if_pos again,ih]
      · simp only [if_neg again,ih]

theorem parseAfterRefused (seen : List Requirement) :
    (parseAfter seen entries).1 = .error fault ↔ FirstUnread entries fault := by
  constructor
  · intro failed
    induction entries generalizing seen with
    | nil => cases failed
    | cons entry rest ih =>
      cases read : parse entry with
      | error here =>
        simp only [parseAfter,read,Except.error.injEq] at failed
        exact ⟨[],entry,rest,rfl,by simp,failed ▸ read⟩
      | ok r =>
        obtain ⟨more,next⟩ := parseAfterNext read seen rest
        obtain ⟨before,other,after,split,reads,refused⟩ := ih more (next ▸ failed)
        exact ⟨entry :: before,other,after,congrArg _ split,
          List.forall_mem_cons.mpr ⟨⟨r,read⟩,reads⟩,refused⟩
  · intro first
    obtain ⟨before,entry,rest,split,reads,refused⟩ := first
    obtain ⟨kept,taken⟩ := (parseAfterTaken seen).mpr reads
    rw [split,parseAfterAppend,taken]
    simp only [Except.bind,parseAfter,refused]

def place (entries : List String) (r : Requirement) : Nat := (entries.map parse).idxOf (.ok r)

structure Kept (entries : List String) (requirements : List Requirement) : Prop where
  read : ∀ entry ∈ entries, ∃ r ∈ requirements, parse entry = .ok r
  named : ∀ r ∈ requirements, ∃ entry ∈ entries, parse entry = .ok r
  once : requirements.Nodup
  order : requirements.Pairwise fun a b => place entries a < place entries b

theorem Kept.parsed (kept : Kept entries requirements) (mem : r ∈ requirements) :
    .ok r ∈ entries.map parse := List.mem_map.mpr (kept.named r mem)

theorem placeAppend (named : .ok r ∈ entries.map parse) (more : List String) :
    place (entries ++ more) r = place entries r := by
  rw [place,place,List.map_append,List.idxOf_append_of_mem named]

theorem Kept.orderAppend (kept : Kept entries requirements) (more : List String) :
    requirements.Pairwise fun a b => place (entries ++ more) a < place (entries ++ more) b := by
  refine kept.order.imp_of_mem fun here there less => ?_
  rwa [placeAppend (kept.parsed here),placeAppend (kept.parsed there)]

theorem Kept.appendAgain (kept : Kept entries requirements)
    (again : ∀ entry ∈ more, ∃ r ∈ requirements, parse entry = .ok r) :
    Kept (entries ++ more) requirements where
  read entry mem := (List.mem_append.mp mem).elim (kept.read entry) (again entry)
  named r mem := by
    obtain ⟨entry,inside,read⟩ := kept.named r mem
    exact ⟨entry,List.mem_append_left _ inside,read⟩
  once := kept.once
  order := kept.orderAppend more

theorem Kept.appendNew (kept : Kept entries requirements) (read : parse entry = .ok r)
    (new : r ∉ requirements) : Kept (entries ++ [entry]) (requirements ++ [r]) where
  read other mem := by
    rcases List.mem_append.mp mem with inside | last
    · obtain ⟨x,known,reads⟩ := kept.read other inside
      exact ⟨x,List.mem_append_left _ known,reads⟩
    · exact ⟨r,List.mem_append_right _ List.mem_cons_self,List.mem_singleton.mp last ▸ read⟩
  named x mem := by
    rcases List.mem_append.mp mem with known | last
    · obtain ⟨other,inside,reads⟩ := kept.named x known
      exact ⟨other,List.mem_append_left _ inside,reads⟩
    · exact ⟨entry,List.mem_append_right _ List.mem_cons_self,List.mem_singleton.mp last ▸ read⟩
  once := by
    refine List.nodup_append.mpr ⟨kept.once,List.nodup_singleton r,fun x known y last same => ?_⟩
    exact new (List.mem_singleton.mp last ▸ same ▸ known)
  order := by
    have unseen : .ok r ∉ entries.map parse := by
      intro seen
      obtain ⟨other,inside,same⟩ := List.mem_map.mp seen
      obtain ⟨x,known,reads⟩ := kept.read other inside
      exact new (Except.ok.inj (reads.symm.trans same) ▸ known)
    have last : place (entries ++ [entry]) r = (entries.map parse).length := by
      rw [place,List.map_append,List.idxOf_append_of_notMem unseen]
      simp [read]
    refine List.pairwise_append.mpr ⟨kept.orderAppend _,List.pairwise_singleton ..,?_⟩
    intro x known y same
    rw [List.mem_singleton.mp same,last,placeAppend (kept.parsed known)]
    exact List.idxOf_lt_length_iff.mpr (kept.parsed known)

theorem Kept.sub {others : List Requirement} (kept : Kept entries requirements)
    (other : Kept entries others) (mem : r ∈ requirements) : r ∈ others := by
  obtain ⟨entry,inside,read⟩ := kept.named r mem
  obtain ⟨x,known,reads⟩ := other.read entry inside
  exact Except.ok.inj (reads.symm.trans read) ▸ known

theorem Kept.unique {others : List Requirement} (kept : Kept entries requirements)
    (other : Kept entries others) : requirements = others := by
  have members (r : Requirement) : r ∈ requirements ↔ r ∈ others := ⟨kept.sub other,other.sub kept⟩
  have strict : Std.Asymm fun a b => place entries a < place entries b := ⟨fun _ _ => Nat.lt_asymm⟩
  exact kept.order.eq_of_mem_iff other.order members

theorem parseAllKept (reads : ∀ entry ∈ entries, Reads entry) :
    ∃ requirements, (parseAll entries).1 = .ok requirements ∧ Kept entries requirements := by
  induction entries using List.reverseRecOn with
  | nil => exact ⟨[],rfl,by simp,by simp,.nil,.nil⟩
  | append_singleton before entry ih =>
    obtain ⟨r,read⟩ := reads entry (by simp)
    obtain ⟨requirements,parsed,kept⟩ := ih fun e mem => reads e (List.mem_append_left _ mem)
    have next : (parseAll (before ++ [entry])).1 = (parseAfter requirements [entry]).1 := by
      rw [parseAll,parseAfterAppend,show (parseAfter [] before).1 = _ from parsed]
      rfl
    by_cases again : r ∈ requirements
    · refine ⟨requirements,?_,kept.appendAgain (by simpa using ⟨r,again,read⟩)⟩
      simp only [next,parseAfter,read,if_pos again]
    · refine ⟨requirements ++ [r],?_,kept.appendNew read again⟩
      simp only [next,parseAfter,read,if_neg again]

theorem parseAllIff : (parseAll entries).1 = .ok requirements ↔ Kept entries requirements := by
  constructor
  · intro parsed
    obtain ⟨others,same,kept⟩ := parseAllKept ((parseAfterTaken []).mp ⟨_,parsed⟩)
    exact Except.ok.inj (same.symm.trans parsed) ▸ kept
  · intro kept
    have reads : ∀ entry ∈ entries, Reads entry := by
      intro entry mem
      obtain ⟨r,_,read⟩ := kept.read entry mem
      exact ⟨r,read⟩
    obtain ⟨others,parsed,other⟩ := parseAllKept reads
    exact other.unique kept ▸ parsed

/-- Entries are read exactly if every one of them is. What is kept then is each required node once, in
the order of first entries, so that further entries for nodes that are there already change nothing, in
whatever spelling. Else the fault is the one of the first entry that cannot be read. -/
theorem entriesKeptOnce (entries : List String) :
    ((∃ requirements, (parseAll entries).1 = .ok requirements) ↔
      ∀ entry ∈ entries, ∃ r, parse entry = .ok r) ∧
    (∀ requirements, (parseAll entries).1 = .ok requirements ↔ Kept entries requirements) ∧
    (∀ requirements, (parseAll entries).1 = .ok requirements →
      (∀ r ∈ requirements, ∀ entry, parse entry = .ok r ↔ Spelling r entry) ∧
      ∀ more, (∀ entry ∈ more, ∃ r ∈ requirements, parse entry = .ok r) →
        (parseAll (entries ++ more)).1 = .ok requirements) ∧
    ∀ fault, (parseAll entries).1 = .error fault ↔ FirstUnread entries fault := by
  refine ⟨parseAfterTaken [],fun _ => parseAllIff,fun requirements parsed => ?_,
    fun _ => parseAfterRefused []⟩
  have kept := parseAllIff.mp parsed
  refine ⟨fun r mem entry => ?_,fun more again => parseAllIff.mpr (kept.appendAgain again)⟩
  obtain ⟨first,_,read⟩ := kept.named r mem
  rw [spellingIff]
  exact and_iff_right (readTrimmed read).1

example : (parseAll ["orb","type:web","name:orb","orb ","key:orb-1"]).1 =
    .ok [.name "orb",.type "web",.key "orb-1"] := by decide +kernel

end Requirement
end Muster
