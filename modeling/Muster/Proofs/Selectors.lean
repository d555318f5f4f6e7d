import Muster.Proofs.Intake
import Muster.Requirement
/-! Required nodes as they are written. An entry is cut at its first colon, and only there, so that a
required node is shown by a text that reads back unless it is a name with a colon in it: such a name
needs its selector, and is shown without. -/
namespace Muster

namespace Text
variable {sep : Char} {cs before after : List Char}

theorem cutFirstNone : cutFirst sep cs = none ↔ sep ∉ cs := by
  induction cs with
  | nil => simp [cutFirst]
  | cons c rest ih =>
    simp only [cutFirst]
    split
    · next here => simp [here]
    · next other => simp [ih,Ne.symm other]

theorem cutFirstSome :
    cutFirst sep cs = some (before,after) ↔ cs = before ++ sep :: after ∧ sep ∉ before := by
  induction cs generalizing before with
  | nil => simp [cutFirst]
  | cons c rest ih =>
    simp only [cutFirst]
    split
    · next here =>
      subst here
      constructor
      · intro cut
        cases Option.some.inj cut
        simp
      · rintro ⟨span,first⟩
        cases before with
        | nil => cases span; rfl
        | cons b before => cases span; simp at first
    · next other =>
      rw [Option.map_eq_some_iff]
      constructor
      · rintro ⟨⟨front,back⟩,cut,same⟩
        cases same
        obtain ⟨span,first⟩ := ih.mp cut
        exact ⟨congrArg _ span,by simp [first,Ne.symm other]⟩
      · rintro ⟨span,first⟩
        cases before with
        | nil => cases span; exact absurd rfl other
        | cons b before =>
          cases span
          exact ⟨(before,after),ih.mpr ⟨rfl,fun mem => first (List.mem_cons_of_mem _ mem)⟩,rfl⟩

theorem trimTrimmed (s : String) : trim (trim s) = trim s := by
  obtain ⟨_,first,last⟩ := trimsTrim s
  exact (trimsIff.mp ⟨⟨[],[],by simp,by simp [Blank],by simp [Blank]⟩,first,last⟩).symm

theorem trimLength (s : String) : (trim s).toList.length ≤ s.toList.length := by
  obtain ⟨⟨before,after,span,_⟩,_⟩ := trimsTrim s
  rw [span]
  simp only [List.length_append]
  omega

end Text

namespace Requirement
variable {entry : String} {r : Requirement}

theorem cutBare (plain : ':' ∉ entry.toList) : cut entry = (none,Text.trim entry) := by
  rw [cut,Text.cutFirstNone.mpr plain]

theorem cutSelected {selector : String} (plain : ':' ∉ selector.toList) (value : String) :
    cut (selector ++ ":" ++ value) = (some (Text.trim selector),Text.trim value) := by
  have span : (selector ++ ":" ++ value).toList = selector.toList ++ ':' :: value.toList := by simp
  rw [cut,Text.cutFirstSome.mpr ⟨span,plain⟩]
  simp only [String.ofList_toList]

theorem cutCases (entry : String) : (':' ∉ entry.toList ∧ cut entry = (none,Text.trim entry)) ∨
    ∃ selector value, entry = selector ++ ":" ++ value ∧
      cut entry = (some (Text.trim selector),Text.trim value) := by
  cases found : Text.cutFirst ':' entry.toList with
  | none => exact .inl ⟨Text.cutFirstNone.mp found,cutBare (Text.cutFirstNone.mp found)⟩
  | some parts =>
    obtain ⟨before,after⟩ := parts
    obtain ⟨span,_⟩ := Text.cutFirstSome.mp found
    refine .inr ⟨.ofList before,.ofList after,?_,by rw [cut,found]⟩
    rw [← String.toList_inj,span]
    simp

theorem cutTrimmed (entry : String) : Text.trim (cut entry).2 = (cut entry).2 := by
  rcases cutCases entry with ⟨_,bare⟩ | ⟨selector,value,_,selected⟩
  · rw [bare,Text.trimTrimmed]
  · rw [selected,Text.trimTrimmed]

theorem cutShorter (colon : ':' ∈ entry.toList) : (cut entry).2 ≠ entry := by
  rcases cutCases entry with ⟨plain,_⟩ | ⟨selector,value,span,selected⟩
  · exact absurd colon plain
  · intro same
    have short := Text.trimLength value
    rw [selected] at same
    have length := congrArg (fun s => s.toList.length) (same.trans span)
    simp only [String.toList_append,List.length_append] at length
    have one : ":".toList.length = 1 := rfl
    omega

theorem parseIff : parse entry = .ok r ↔ r.value ≠ "" ∧ (cut entry).2 = r.value ∧
    ((cut entry).1 = some r.kind ∨ ((cut entry).1 = none ∧ r.kind = "name")) := by
  rcases parts : cut entry with ⟨selector,text⟩
  simp only [parse,parts]
  constructor
  · intro read
    split at read
    · contradiction
    · next some =>
      split at read
      · cases read
        exact ⟨some,rfl,.inr ⟨rfl,rfl⟩⟩
      · next selector =>
        split at read
        · next same => cases read; exact ⟨some,rfl,.inl (congrArg _ same)⟩
        · split at read
          · next same => cases read; exact ⟨some,rfl,.inl (congrArg _ same)⟩
          · split at read
            · next same => cases read; exact ⟨some,rfl,.inl (congrArg _ same)⟩
            · contradiction
  · rintro ⟨some,rfl,own⟩
    rw [if_neg some]
    rcases own with rfl | ⟨rfl,name⟩
    · cases r <;> rfl
    · cases r with
      | name value => rfl
      | type value => simp [kind] at name
      | key value => simp [kind] at name

theorem kindPlain (r : Requirement) : ':' ∉ r.kind.toList ∧ Text.trim r.kind = r.kind := by
  cases r <;> exact ⟨by simp [kind],by simp only [kind]; decide⟩

theorem readTrimmed (read : parse entry = .ok r) : r.value ≠ "" ∧ Text.trim r.value = r.value := by
  obtain ⟨some,text,_⟩ := parseIff.mp read
  exact ⟨some,text ▸ cutTrimmed entry⟩

theorem parseSelected {value : String} (some : r.value ≠ "") (kept : Text.trim value = r.value) :
    parse (r.kind ++ ":" ++ value) = .ok r := by
  obtain ⟨plain,tight⟩ := r.kindPlain
  have parts := cutSelected plain value
  rw [tight,kept] at parts
  exact parseIff.mpr ⟨some,congrArg Prod.snd parts,.inl (congrArg Prod.fst parts)⟩

theorem parseSpelt (some : r.value ≠ "") (trimmed : Text.trim r.value = r.value) :
    parse (r.kind ++ ":" ++ r.value) = .ok r := parseSelected some trimmed

theorem parseName {name : String} (some : name ≠ "") (trimmed : Text.trim name = name) :
    parse name = .ok (.name name) ↔ ':' ∉ name.toList := by
  constructor
  · intro read colon
    exact cutShorter colon (parseIff.mp read).2.1
  · intro plain
    have parts := cutBare plain
    rw [trimmed] at parts
    exact parseIff.mpr ⟨some,congrArg Prod.snd parts,.inr ⟨congrArg Prod.fst parts,rfl⟩⟩

/-- What an entry is read as can be written with its selector spelt out, and what it is shown by
reads back as the same unless it is a name with a colon in it. -/
theorem displayReadsBack (read : parse entry = .ok r) :
    parse (r.kind ++ ":" ++ r.value) = .ok r ∧
    (parse r.display = .ok r ↔ ∀ name, r = .name name → ':' ∉ name.toList) := by
  obtain ⟨some,trimmed⟩ := readTrimmed read
  have spelt := parseSpelt some trimmed
  refine ⟨spelt,?_⟩
  cases r with
  | name value =>
    refine (parseName some trimmed).trans ⟨?_,fun plain => plain value rfl⟩
    rintro plain _ ⟨⟩
    exact plain
  | type value => exact iff_of_true spelt (by simp)
  | key value => exact iff_of_true spelt (by simp)

theorem displayReadsBackType :
    parse " type :\tdata:base " = .ok (.type "data:base") ∧
      parse (Requirement.type "data:base").display = .ok (.type "data:base") := by
  have read : parse " type :\tdata:base " = .ok (.type "data:base") := by decide +kernel
  exact ⟨read,(displayReadsBack read).2.mpr (by simp)⟩

/- A name that spells a type out is read as the type when it is read again, and one with another
colon not at all. -/
theorem colonLost :
    parse "name:type:web" = .ok (.name "type:web") ∧
      parse (Requirement.name "type:web").display = .ok (.type "web") ∧
      parse "name:eu:web" = .ok (.name "eu:web") ∧
      parse (Requirement.name "eu:web").display = .error (.unknownSelector "eu" "eu:web") := by
  decide +kernel

end Requirement
end Muster
