import Mathlib.Data.List.TakeWhile
import Muster.Proofs.Documents
import Muster.Proofs.Layering
import Muster.Proofs.Surroundings
/-! The wiring file in the report. Its own keys are read as paths where they can be, so that an address or the
name of a host with points in it is taken apart; the keys below them stay as they are. -/
namespace Muster
namespace Settings
open Decimal (isDigit digitsValue AllDigits)
variable {cs word rest digits : List Char} {key : String}

def WordText (cs : List Char) : Prop := cs ≠ [] ∧ ∀ c ∈ cs, isWordChar c = true

def Gap (cs : List Char) : Prop := ∀ c ∈ cs, c = ' ' ∨ c = '\t'

def PlaceText (cs rest : List Char) : Prop :=
  ∃ before sign digits after, Gap before ∧ (sign = [] ∨ sign = ['-']) ∧ digits ≠ [] ∧
    AllDigits digits ∧ digitsValue digits ≤ Int64.maxValue.toInt ∧ Gap after ∧
      cs = before ++ (sign ++ (digits ++ (after ++ ']' :: rest)))

/- What follows the first word of a path: keys behind points and places in brackets. -/
inductive StepsText : List Char → Prop where
  | done : StepsText []
  | key {cs rest : List Char} (word : WordText cs) (others : StepsText rest) :
      StepsText ('.' :: (cs ++ rest))
  | place {cs rest : List Char} (place : PlaceText cs rest) (others : StepsText rest) :
      StepsText ('[' :: cs)

def PathText (key : String) : Prop :=
  ∃ word steps, key.toList = word ++ steps ∧ WordText word ∧ steps ≠ [] ∧ StepsText steps

theorem stepsStop (steps : StepsText rest) : ∀ c ∈ rest.head?, isWordChar c = false := by
  cases steps <;> simp <;> decide

theorem skipGap (gap : Gap cs) (rest : List Char) : skipSpace (cs ++ rest) = skipSpace rest :=
  List.dropWhile_append_of_pos fun c inside => by simpa using gap c inside

theorem gapSpan (cs : List Char) : ∃ before, Gap before ∧ cs = before ++ skipSpace cs := by
  refine ⟨cs.takeWhile fun c => c = ' ' || c = '\t',fun c inside => ?_,
    List.takeWhile_append_dropWhile.symm⟩
  simpa using List.mem_takeWhile_imp inside

theorem skipSolid {c : Char} (solid : c ≠ ' ' ∧ c ≠ '\t') (rest : List Char) :
    skipSpace (c :: rest) = c :: rest :=
  List.dropWhile_cons_of_neg (by simp [solid])

theorem placeRead {place : Int} (read : index? cs = some (place,rest)) : PlaceText cs rest := by
  obtain ⟨before,left,span⟩ := gapSpan cs
  unfold index? at read
  extract_lets start at read
  have opened : skipSpace cs = start := rfl
  clear_value start
  split at read
  next negative tail parts =>
  extract_lets figures size at read
  have signed : ∃ sign, (sign = [] ∨ sign = ['-']) ∧ start = sign ++ tail := by
    split at parts
    · exact ⟨_,.inr rfl,congrArg _ (Prod.mk.inj parts).2⟩
    · exact ⟨_,.inl rfl,(Prod.mk.inj parts).2⟩
  obtain ⟨sign,either,whole⟩ := signed
  obtain ⟨after,right,behind⟩ := gapSpan (tail.dropWhile isDigit)
  have digits := List.takeWhile_append_dropWhile (p := isDigit) (l := tail)
  split at read
  · next closed =>
    split at read
    · cases read
    · next taken =>
      cases read
      simp only [Bool.or_eq_true,List.isEmpty_iff,decide_eq_true_eq,not_or,Int.not_lt] at taken
      refine ⟨before,sign,_,after,left,either,taken.1,fun _ => List.mem_takeWhile_imp,taken.2,
        right,?_⟩
      rw [← closed,← behind,digits,← whole,← opened]
      exact span
  · cases read

theorem placeTaken (place : PlaceText cs rest) : ∃ n, index? cs = some (n,rest) := by
  obtain ⟨before,sign,digits,after,left,signed,some,all,small,right,same⟩ := place
  have stops : ∀ c ∈ (after ++ ']' :: rest).head?, isDigit c = false := by
    intro c first
    cases after with
    | nil => cases first; decide
    | cons d after =>
      cases first
      rcases right c List.mem_cons_self with space | tab
      · subst space; decide
      · subst tab; decide
  obtain ⟨within,past⟩ := Text.spanExact all stops
  have closed : skipSpace (']' :: rest) = ']' :: rest := skipSolid (by decide) rest
  rcases signed with plus | minus
  · subst plus
    cases digits with
    | nil => exact absurd rfl some
    | cons d digits =>
      have digit := all d List.mem_cons_self
      have solid : d ≠ ' ' ∧ d ≠ '\t' ∧ d ≠ '-' := by
        refine ⟨?_,?_,?_⟩ <;> intro same <;> simp [same,isDigit] at digit
      have start : skipSpace cs = d :: (digits ++ (after ++ ']' :: rest)) := by
        rw [same,skipGap left,List.nil_append]
        exact skipSolid ⟨solid.1,solid.2.1⟩ _
      rw [List.cons_append] at within past
      simp [index?,start,solid.2.2,within,past,skipGap right,closed,small]
  · subst minus
    have start : skipSpace cs = '-' :: (digits ++ (after ++ ']' :: rest)) := by
      rw [same,skipGap left]
      exact skipSolid (by decide) _
    simp [index?,start,within,past,skipGap right,closed,some,small]

theorem placeShorter (place : PlaceText cs rest) : rest.length < cs.length := by
  obtain ⟨before,sign,digits,after,_,_,_,_,_,_,same⟩ := place
  simp only [same,List.length_append,List.length_cons]
  omega

theorem stepsRead {fuel : Nat} {steps : List Step} (read : steps? fuel cs = some steps) :
    StepsText cs := by
  induction fuel generalizing cs steps with
  | zero =>
    cases cs with
    | nil => exact .done
    | cons c rest => cases read
  | succ fuel ih =>
    unfold steps? at read
    split at read
    · exact .done
    · next zero _ => cases zero
    · next fuel rest same =>
      cases same
      simp only [List.isEmpty_iff] at read
      split at read
      · cases read
      · next some =>
        obtain ⟨others,behind,_⟩ := Option.map_eq_some_iff.mp read
        rw [← List.takeWhile_append_dropWhile (p := isWordChar) (l := rest)]
        exact .key ⟨some,fun _ => List.mem_takeWhile_imp⟩ (ih behind)
    · next fuel rest same =>
      cases same
      split at read
      · next place tail found =>
        obtain ⟨others,behind,_⟩ := Option.map_eq_some_iff.mp read
        exact .place (placeRead found) (ih behind)
      · cases read
    · cases read

theorem stepsTaken {fuel : Nat} (text : StepsText cs) (enough : cs.length ≤ fuel) :
    ∃ steps, steps? fuel cs = some steps ∧ (steps = [] ↔ cs = []) := by
  induction text generalizing fuel with
  | done => exact ⟨[],by cases fuel <;> rfl,by simp⟩
  | @key cs rest word others ih =>
    obtain ⟨here,behind⟩ := Text.spanExact word.2 (stepsStop others)
    simp only [List.length_cons,List.length_append] at enough
    cases fuel with
    | zero => omega
    | succ fuel =>
      obtain ⟨steps,read,_⟩ := ih (show rest.length ≤ fuel by omega)
      simp [steps?,here,behind,word.1,read]
  | @place cs rest place others ih =>
    have shorter := placeShorter place
    obtain ⟨n,found⟩ := placeTaken place
    simp only [List.length_cons] at enough
    cases fuel with
    | zero => omega
    | succ fuel =>
      obtain ⟨steps,read,_⟩ := ih (show rest.length ≤ fuel by omega)
      simp [steps?,found,read]

theorem plainKey (plain : ¬ PathText key) : Path.read key = ⟨key,[]⟩ := by
  have span := List.takeWhile_append_dropWhile (p := isWordChar) (l := key.toList)
  unfold Path.read
  extract_lets cs word
  split
  · next steps read =>
    split
    · rfl
    · next some =>
      have none : key.toList.dropWhile isWordChar = [] := by
        by_contra behind
        have named : WordText word :=
          ⟨mt List.isEmpty_iff.mpr some,fun _ => List.mem_takeWhile_imp⟩
        exact plain ⟨word,_,span.symm,named,behind,stepsRead read⟩
      have whole : word = key.toList := by rwa [none,List.append_nil] at span
      rw [none] at read
      cases fuel : cs.length <;> rw [fuel] at read <;> cases read <;>
        rw [whole,String.ofList_toList]
  · rfl

theorem pathKey (path : PathText key) :
    (∃ root, WordText root ∧ (Path.read key).root = String.ofList root) ∧
      (Path.read key).steps ≠ [] := by
  obtain ⟨word,steps,same,named,some,text⟩ := path
  obtain ⟨here,behind⟩ := Text.spanExact named.2 (stepsStop text)
  have enough : steps.length ≤ (word ++ steps).length := by simp
  obtain ⟨listed,read,none⟩ := stepsTaken text enough
  have leads : Path.read key = ⟨String.ofList word,listed⟩ := by
    simp only [Path.read,same,here,behind,read,List.isEmpty_iff,if_neg named.1]
  rw [leads]
  exact ⟨⟨word,named,rfl⟩,mt none.mp some⟩

theorem pathIff : (Path.read key).steps ≠ [] ↔ PathText key := by
  constructor
  · intro leads
    by_contra plain
    rw [plainKey plain] at leads
    exact leads rfl
  · exact fun path => (pathKey path).2

instance (key : String) : Decidable (PathText key) := decidable_of_iff _ pathIff

example : PathText "10.0.0.1" ∧ PathText "orb[ -1 ].local" ∧ ¬ PathText "10.0.0.1:8000" ∧
    ¬ PathText ".orb" := by
  decide +kernel

theorem wordPlain (path : PathText key) (word : WordText cs) : String.ofList cs ≠ key := by
  intro whole
  obtain ⟨first,steps,same,_,some,text⟩ := path
  have chars : cs = first ++ steps := by rw [← same,← whole,String.toList_ofList]
  cases steps with
  | nil => exact some rfl
  | cons c rest =>
    have here := word.2 c (by simp [chars])
    rw [stepsStop text c rfl] at here
    cases here

theorem rootPlain (path : PathText key) (other : String) : (Path.read other).root ≠ key := by
  by_cases leads : PathText other
  · obtain ⟨⟨root,word,same⟩,_⟩ := pathKey leads
    rw [same]
    exact wordPlain path word
  · rw [plainKey leads]
    intro same
    obtain rfl : other = key := same
    exact leads path

variable {below fields : List (String × Json)} {name : String}

def Fresh (value : Json) : Prop := overlay .null value = value

theorem overlayAbove (ascending : Entries.Ascending (below ++ fields))
    (fresh : ∀ e ∈ fields, Fresh e.2) : overlayFields below fields = below ++ fields := by
  induction fields generalizing below with
  | nil => rw [overlayFields,List.append_nil]
  | cons e rest ih =>
    obtain ⟨here,behind⟩ := List.forall_mem_cons.mp fresh
    have above : ∀ old ∈ below, old.1 < e.1 := fun old inside =>
      (List.pairwise_append.mp ascending).2.2 old inside e List.mem_cons_self
    rw [overlayFields,Entries.findAbove above,Option.getD_none,here,Entries.putAbove above]
    have assoc : below ++ [e] ++ rest = below ++ e :: rest := by simp
    rw [ih (assoc.symm ▸ ascending) behind,assoc]

theorem freshObject (ascending : Entries.Ascending fields) (fresh : ∀ e ∈ fields, Fresh e.2) :
    Fresh (.obj fields) := by
  rw [Fresh,overlay]
  exact congrArg Json.obj (overlayAbove ascending fresh)

theorem layerPlain (plain : ∀ e ∈ fields, ¬ PathText e.1) (below : List (String × Json)) :
    layer (.obj below) fields = .obj (overlayFields below fields) := by
  induction fields generalizing below with
  | nil => rw [overlayFields]; rfl
  | cons e rest ih =>
    obtain ⟨here,behind⟩ := List.forall_mem_cons.mp plain
    rw [overlayFields,← ih behind]
    simp only [layer,List.foldl_cons,plainKey here]
    rfl

theorem layerPath (path : PathText name) (fields : List (String × Json)) :
    (layer (.obj []) fields).field? name = none := by
  induction fields using List.reverseRecOn with
  | nil => rfl
  | append_singleton fields e ih =>
    rw [layer,List.foldl_append]
    change ((Path.read e.1).set e.2 (layer (.obj []) fields)).field? name = none
    simp only [Path.set,setAt,Json.field?,Entries.findPut,if_neg (rootPlain path e.1)]
    rw [← Setting.fieldTable,ih]

theorem layerWhole (ascending : Entries.Ascending fields) (fresh : ∀ e ∈ fields, Fresh e.2) :
    layer (.obj []) fields = .obj fields ↔ ∀ key ∈ fields.map Prod.fst, ¬ PathText key := by
  constructor
  · intro kept key inside path
    have lost := layerPath path fields
    obtain ⟨value,found⟩ := Entries.findSome.mpr inside
    rw [kept,Json.field?,found] at lost
    cases lost
  · intro plain
    have same : overlayFields [] fields = fields := overlayAbove ascending fresh
    rw [layerPlain fun e inside => plain e.1 (List.mem_map_of_mem inside),same]

/- No table in a document has anything to merge, and its keys stand in ascending order. -/
def FreshPart : Json.Part → Prop
  | .value v | .element v => Fresh v
  | .items _ => True
  | .fields pairs => ∀ e ∈ pairs, Fresh e.2

theorem freshPairs {pairs : List (String × Json)} (fresh : ∀ e ∈ pairs, Fresh e.2) :
    Entries.Ascending (Entries.ofPairs pairs) ∧ ∀ e ∈ Entries.ofPairs pairs, Fresh e.2 :=
  ⟨Entries.ofPairsAscending pairs,fun e inside => fresh e (Entries.memOfPairs inside)⟩

theorem spelledFresh {n : Nat} {part : Json.Part} {cs : List Char} (spelled : Json.Spells n part cs) :
    FreshPart part := by
  induction spelled with
  | null | yes | no | int | str | emptyArr | arr => simp only [FreshPart,Fresh,Json.int,overlay]
  | emptyObj => exact freshObject .nil (by simp)
  | obj fields fresh =>
    obtain ⟨ascending,values⟩ := freshPairs fresh
    exact freshObject ascending values
  | element left right value fresh => exact fresh
  | item | items => trivial
  | field named value fresh => exact List.forall_mem_singleton.mpr fresh
  | fields named value others fresh more => exact List.forall_mem_cons.mpr ⟨fresh,more⟩

theorem documentFresh {n : Nat} {text : String} (document : Json.Document n (.obj fields) text) :
    Entries.Ascending fields ∧ ∀ e ∈ fields, Fresh e.2 := by
  unfold Json.Document at document
  generalize text.toList = cs at document
  cases document with
  | element left right value =>
    cases value with
    | emptyObj => exact ⟨.nil,by simp⟩
    | obj fields => exact freshPairs (spelledFresh fields)

theorem documentStart {n : Nat} {v : Json} {text : String} (document : Json.Document n v text)
    (rest : List Char) : text.toList ≠ '\uFEFF' :: rest := by
  intro marked
  obtain ⟨_,after,_,read⟩ := Json.spelledTaken document
  have first := read (2 * text.toList.length + 1) n [] (by omega) (by simp [Json.Stops])
  rw [if_pos (Nat.le_refl n),List.append_nil,marked] at first
  simp [Json.value?,Json.skip,Json.isSpace,Json.number?,Decimal.isDigit] at first

theorem tableRead {n : Nat} {text : String} (document : Json.Document n (.obj fields) text) :
    Format.json.table? text = if n < Json.depthLimit then some fields else none := by
  have read : Format.json.read? text = if n < Json.depthLimit then some (.obj fields) else none :=
    Json.documentRead document
  unfold Format.table?
  split
  · next rest marked => exact absurd marked (documentStart document rest)
  · dsimp only
    rw [read]
    by_cases shallow : n < Json.depthLimit
    · simp only [if_pos shallow]
    · simp only [if_neg shallow]

end Settings

namespace Environment
open Settings (PathText)
variable {n : Nat} {fields : List (String × Json)} {path text : String} {files : Settings.Files}
  {settings : EnvironmentSettings} {lookup : String → Option String}

theorem wiringRead (document : Json.Document n (.obj fields) text)
    (found : Settings.find files path = .ok (.json,text)) : wiringFile files (some path) =
      if n < Json.depthLimit then .ok (Settings.layer (.obj []) fields)
      else .error (.clusterFile path (files.words (.unreadable path))) := by
  have table := Settings.tableRead document
  by_cases shallow : n < Json.depthLimit
  · rw [if_pos shallow] at table ⊢
    simp only [wiringFile,Settings.fileLayer,found,bind,Except.bind,table]
  · rw [if_neg shallow] at table ⊢
    simp only [wiringFile,Settings.fileLayer,found,bind,Except.bind,table]

/-- A wiring file that is an object is loaded unless lists and objects are nested too deep in it. It is
reported as it is exactly if none of its own keys is a path, whatever the keys below them are; there is
nothing in the report under a key that is one. -/
theorem wiringReported (document : Json.Document n (.obj fields) text)
    (found : Settings.find files path = .ok (.json,text)) (given : settings.clusterFile = some path)
    (set : ∀ name ∈ settings.requiredVars, ∃ value, lookup name = some value) :
    let loaded := (load settings files lookup).1
    (n < Json.depthLimit → ∃ e, loaded = .ok e ∧ ∀ now, ∃ cfg,
      (e.report now).field? "cfg" = some cfg ∧
      (cfg = .obj fields ↔ ∀ key ∈ fields.map Prod.fst, ¬ PathText key) ∧
      ∀ key, PathText key → cfg.field? key = none) ∧
    (Json.depthLimit ≤ n →
      loaded = .error (.clusterFile path (files.words (.unreadable path)))) := by
  intro loaded
  obtain ⟨ascending,fresh⟩ := Settings.documentFresh document
  have wired := wiringRead document found
  rw [← given] at wired
  constructor
  · intro shallow
    rw [if_pos shallow] at wired
    have taken : loaded = .ok ⟨Settings.layer (.obj []) fields,_⟩ :=
      congrArg (·.1) (loadTaken wired (missingNone.mpr set))
    refine ⟨_,taken,fun now => ⟨_,rfl,?_,fun key path => Settings.layerPath path fields⟩⟩
    exact Settings.layerWhole ascending fresh
  · intro deep
    rw [if_neg (Nat.not_lt.mpr deep)] at wired
    simp only [loaded,load,wired]

def onlyFile (text : String) : Settings.Files :=
  ⟨fun name => if name = "wiring.json" then some text else none,fun _ => none⟩

def onlySettings : EnvironmentSettings := ⟨some "wiring.json",["PORTAL_URL"],[]⟩

def onlyVariable (name : String) : Option String :=
  if name = "PORTAL_URL" then some "http://portal" else none

theorem nestedDocument : Json.Document 3 (.obj [("orb",.obj [("a.b",.arr [.int (-1)])])])
    "\x7b\"orb\":\x7b\"a.b\":[-1]\x7d\x7d" := by
  have blank : Json.Blank [] := by simp [Json.Blank]
  have number : Json.Spells 0 (.value (.int (-1))) "-1".toList := .int (by decide) (by decide)
  have list := Json.Spells.arr (.item (.element blank blank number))
  have inner := Json.Spells.obj
    (.field (@Json.keyPlain "a.b" (by simp [Json.Plain])) (.element blank blank list))
  have outer := Json.Spells.obj
    (.field (@Json.keyPlain "orb" (by simp [Json.Plain])) (.element blank blank inner))
  exact .element blank blank outer

theorem wiringReportedNested :
    let text := "\x7b\"orb\":\x7b\"a.b\":[-1]\x7d\x7d"
    let object : Json := .obj [("orb",.obj [("a.b",.arr [.int (-1)])])]
    Json.Document 3 object text ∧
      Settings.find (onlyFile text) "wiring.json" = .ok (.json,text) ∧
      ∃ e, (load onlySettings (onlyFile text) onlyVariable).1 = .ok e ∧
        ∀ now, (e.report now).field? "cfg" = some object := by
  intro text object
  have found : Settings.find (onlyFile text) "wiring.json" = .ok (.json,text) := rfl
  have set : ∀ name ∈ onlySettings.requiredVars, ∃ value, onlyVariable name = some value := by
    simp [onlySettings,onlyVariable]
  obtain ⟨loads,_⟩ := wiringReported nestedDocument found rfl set
  obtain ⟨e,loaded,reported⟩ := loads (by decide)
  refine ⟨nestedDocument,found,e,loaded,fun now => ?_⟩
  obtain ⟨cfg,same,exactly,_⟩ := reported now
  have plain : ∀ key ∈ ["orb"], ¬ PathText key := by decide +kernel
  rw [same,exactly.mpr plain]

theorem dottedDocument : Json.Document 1 (.obj [("orb.local",.int 1)])
    "\x7b\"orb.local\":1\x7d" := by
  have blank : Json.Blank [] := by simp [Json.Blank]
  have number : Json.Spells 0 (.value (.int 1)) "1".toList := .int (by decide) (by decide)
  have object := Json.Spells.obj
    (.field (@Json.keyPlain "orb.local" (by simp [Json.Plain])) (.element blank blank number))
  exact .element blank blank object

/- A host with a dot in its name is taken for a path. -/
theorem dottedKeySplit :
    let text := "\x7b\"orb.local\":1\x7d"
    Json.Document 1 (.obj [("orb.local",.int 1)]) text ∧
      ∃ e, (load onlySettings (onlyFile text) onlyVariable).1 = .ok e ∧
        ∀ now, (e.report now).field? "cfg" = some (.obj [("orb",.obj [("local",.int 1)])]) := by
  intro text
  have found : Settings.find (onlyFile text) "wiring.json" = .ok (.json,text) := rfl
  have read := wiringRead dottedDocument found
  have split : Settings.Path.read "orb.local" = ⟨"orb",[.key "local"]⟩ := by decide +kernel
  have laid : Settings.layer (.obj []) [("orb.local",.int 1)] =
      .obj [("orb",.obj [("local",.int 1)])] := by
    simp only [Settings.layer,List.foldl_cons,List.foldl_nil,split]
    rfl
  rw [if_pos (by decide),laid] at read
  have loaded := congrArg (·.1) (@loadTaken onlyVariable onlySettings _ _ read rfl)
  exact ⟨dottedDocument,_,loaded,fun now => rfl⟩

end Environment
end Muster
