import Mathlib.Data.List.Basic
import Muster.Proofs.Layering
import Muster.Proofs.Numbers
/-! Lists in variables. A list is written with commas, and taken apart at each of them; but a text that is a
number or a truth value as a whole is taken for that before it is taken for a list, so that a list of
one element is refused if the element reads as either. -/
namespace Muster

namespace Text
variable {sep : Char} {cs p rest : List Char} {pieces : List (List Char)}

structure Pieces (sep : Char) (s : String) (pieces : List String) : Prop where
  some : pieces ≠ []
  plain : ∀ p ∈ pieces, sep ∉ p.toList
  joined : (String.singleton sep).intercalate pieces = s

theorem splitPlain (plain : sep ∉ p) : splitChars sep p = [p] := by
  induction p with
  | nil => rfl
  | cons c rest ih =>
    obtain ⟨here,behind⟩ := not_or.mp (mt List.mem_cons.mpr plain)
    simp only [splitChars,if_neg (Ne.symm here),ih behind]

theorem splitFirst (plain : sep ∉ p) (rest : List Char) :
    splitChars sep (p ++ sep :: rest) = p :: splitChars sep rest := by
  induction p with
  | nil => simp only [List.nil_append,splitChars,if_pos]
  | cons c p ih =>
    obtain ⟨here,behind⟩ := not_or.mp (mt List.mem_cons.mpr plain)
    simp only [List.cons_append,splitChars,if_neg (Ne.symm here),ih behind]

theorem splitJoined (some : pieces ≠ []) (plain : ∀ p ∈ pieces, sep ∉ p) :
    splitChars sep ([sep].intercalate pieces) = pieces := by
  induction pieces with
  | nil => exact absurd rfl some
  | cons p rest ih =>
    obtain ⟨here,behind⟩ := List.forall_mem_cons.mp plain
    cases rest with
    | nil => rw [List.intercalate_singleton,splitPlain here]
    | cons q rest =>
      rw [List.intercalate_cons_cons,List.append_assoc,List.singleton_append,splitFirst here,
        ih (List.cons_ne_nil q rest) behind]

theorem joinSplit (sep : Char) (cs : List Char) :
    (∀ p ∈ splitChars sep cs, sep ∉ p) ∧ [sep].intercalate (splitChars sep cs) = cs := by
  induction cs with
  | nil => simp [splitChars]
  | cons c rest ih =>
    obtain ⟨plain,joined⟩ := ih
    have some := splitCharsNotNil sep rest
    simp only [splitChars]
    split
    · next here =>
      refine ⟨List.forall_mem_cons.mpr ⟨by simp,plain⟩,?_⟩
      rw [List.intercalate_cons_of_ne_nil some,joined,here]
      rfl
    · next other =>
      cases pieces : splitChars sep rest with
      | nil => exact absurd pieces some
      | cons p others =>
        rw [pieces] at plain joined
        obtain ⟨first,tail⟩ := List.forall_mem_cons.mp plain
        refine ⟨List.forall_mem_cons.mpr ⟨by simp [first,Ne.symm other],tail⟩,?_⟩
        rw [← joined]
        cases others with
        | nil => simp
        | cons q others => simp [List.intercalate_cons_cons]

theorem piecesIff {s : String} {pieces : List String} :
    Pieces sep s pieces ↔ splitAt sep s = pieces := by
  constructor
  · intro cut
    have plain : ∀ p ∈ pieces.map String.toList, sep ∉ p := List.forall_mem_map.mpr cut.plain
    have chars := splitJoined (mt List.map_eq_nil_iff.mp cut.some) plain
    rw [splitAt,← cut.joined,String.toList_intercalate,String.toList_singleton,chars,List.map_map]
    simp [Function.comp_def]
  · intro same
    subst same
    obtain ⟨plain,joined⟩ := joinSplit sep s.toList
    refine ⟨mt List.map_eq_nil_iff.mp (splitCharsNotNil sep s.toList),?_,?_⟩
    · refine List.forall_mem_map.mpr fun p inside => ?_
      rw [String.toList_ofList]
      exact plain p inside
    · rw [← String.toList_inj,String.toList_intercalate,String.toList_singleton,splitAt,List.map_map]
      simpa [Function.comp_def] using joined

theorem commaKept {before : List Char} (inside : ',' ∈ cs) : ',' ∈ lowerAfter before cs := by
  induction cs generalizing before with
  | nil => cases inside
  | cons c rest ih =>
    rw [lowerAfter]
    rcases List.mem_cons.mp inside with here | behind
    · subst here
      rw [if_neg (by decide)]
      exact List.mem_append_left _ (by decide)
    · exact List.mem_append_right _ (ih behind)

end Text

namespace Settings
open Setting

variable {key v : String}

def TruthText (v : String) : Prop := Text.lower v = "true" ∨ Text.lower v = "false"

def ScalarText (v : String) : Prop := TruthText v ∨ Decimal.NumberText v

theorem scalarPlain (scalar : ScalarText v) : ',' ∉ v.toList := by
  rcases scalar with truth | number
  · intro inside
    have lowered : ',' ∈ (Text.lower v).toList := by
      rw [Text.lower,String.toList_ofList]
      exact Text.commaKept inside
    rcases truth with word | word <;> simp [word] at lowered
  · exact Decimal.numberPlain number

theorem scalarValue (scalar : ScalarText v) (key : String) :
    (∃ b, variableValue key v = .bool b) ∨ ∃ n, variableValue key v = .num n := by
  unfold variableValue
  split
  · exact .inl ⟨_,rfl⟩
  · next notTrue =>
    split
    · exact .inl ⟨_,rfl⟩
    · next notFalse =>
      have number := scalar.resolve_left (not_or.mpr ⟨notTrue,notFalse⟩)
      split
      · exact .inr ⟨_,rfl⟩
      · obtain ⟨x,real⟩ := Decimal.realIff.mpr number
        rw [real]
        exact .inr ⟨_,rfl⟩

theorem listValue (listed : key ∈ listKeys) (other : ¬ ScalarText v) :
    variableValue key v = .strings (Text.splitAt ',' v) := by
  obtain ⟨truth,number⟩ := not_or.mp other
  obtain ⟨notTrue,notFalse⟩ := not_or.mp truth
  have whole : Decimal.whole? Int64.minValue.toInt Int64.maxValue.toInt v = none :=
    Option.eq_none_iff_forall_ne_some.mpr fun n read =>
      number (Decimal.wholeNumber (by decide) read)
  have real : Decimal.real? v = none :=
    Option.eq_none_iff_forall_ne_some.mpr fun x read => number (Decimal.realIff.mp ⟨x,read⟩)
  simp only [variableValue,if_neg notTrue,if_neg notFalse,whole,real,if_pos listed]

theorem textsStrings (key : String) (values : List String) :
    texts key (.strings values) = .ok values := by
  have read (index : Nat) : textsFrom key index (values.map .str) = .ok values := by
    induction values generalizing index with
    | nil => rfl
    | cons first rest ih =>
      simp only [List.map_cons,textsFrom,ih]
      rfl
  exact read 0

inductive ListSetting where
  | requiredNodes
  | requiredVars
  | optionalVars

namespace ListSetting

def setting : ListSetting → Setting
  | requiredNodes => .requiredNodes
  | requiredVars => .requiredVars
  | optionalVars => .optionalVars

def settings (values : List String) : ListSetting → ServerSettings
  | requiredNodes => { ServerSettings.standard with requiredNodes := values }
  | requiredVars => { ServerSettings.standard with environment.requiredVars := values }
  | optionalVars => { ServerSettings.standard with environment.optionalVars := values }

def alone (value : Json) : ListSetting → Json
  | requiredNodes => .obj [("required_nodes",value)]
  | requiredVars => .obj [("environment",.obj [("required_vars",value)])]
  | optionalVars => .obj [("environment",.obj [("optional_vars",value)])]

theorem placedAlone {value : Json} (flat : Flat value) (x : ListSetting) :
    x.setting.place.set value (.obj []) = x.alone value := by
  cases x <;> simp only [setting,Setting.place,member?,Path.set,setAt,overlayFlat flat] <;> rfl

theorem decodedAlone (value : Json) (x : ListSetting) :
    decode (x.alone value) = (texts x.setting.key value).map x.settings := by
  cases read : texts x.setting.key value <;> cases x <;> simp only [setting,key] at read <;>
    simp [alone,decode,environment,Json.field?,Entries.find?,orElse,bind,Except.bind,read,
      Except.map,settings,ServerSettings.standard,EnvironmentSettings.standard]

theorem loadedAlone (x : ListSetting) (v : String) :
    load .nothing none [(x.setting.variableName,v)] =
      (texts x.setting.key (variableValue x.setting.key v)).map x.settings := by
  have flat := variableFlat x.setting.key v
  have assigned : variableLayer [(x.setting.variableName,v)] =
      [(x.setting.key,variableValue x.setting.key v)] := by
    simp only [variableLayer,List.filterMap_cons,List.filterMap_nil,variableRead]
    rfl
  change decode (layer (.obj []) (variableLayer _)) = _
  rw [assigned,layerHead rfl,placedAlone flat]
  exact decodedAlone _ x

/-- A variable for a list is read as what stands between its commas, unless the whole text is a number or a
truth value: then it is refused, as no list. A text with a comma in it is never refused. -/
theorem listsSplit (x : ListSetting) (v : String) :
    let loaded := load .nothing none [(x.setting.variableName,v)]
    (¬ ScalarText v → ∃ pieces, Text.Pieces ',' v pieces ∧ loaded = .ok (x.settings pieces)) ∧
    (ScalarText v → loaded = .error (.wrongShape x.setting.key)) ∧
    (',' ∈ v.toList → ¬ ScalarText v) := by
  intro loaded
  have listed : x.setting.key ∈ listKeys := by cases x <;> decide
  refine ⟨fun other => ?_,fun scalar => ?_,fun comma scalar => scalarPlain scalar comma⟩
  · refine ⟨_,Text.piecesIff.mpr rfl,?_⟩
    rw [show loaded = _ from loadedAlone x v,listValue listed other,textsStrings]
    rfl
  · rw [show loaded = _ from loadedAlone x v]
    rcases scalarValue scalar x.setting.key with ⟨b,value⟩ | ⟨n,value⟩ <;> rw [value] <;> rfl

/- A node may be called by a number. -/
theorem numberRefused :
    load .nothing none [("LEADER__REQUIRED_NODES","5")] = .error (.wrongShape "required_nodes") ∧
    Text.splitAt ',' "5" = ["5"] := by
  decide +kernel

end ListSetting
end Settings
end Muster
