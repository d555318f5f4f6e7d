import Muster.Proofs.Contents
import Muster.Proofs.Decoding
/-! Variables over a settings file. A variable changes the setting it is named for and leaves all others as
the file has them, with one exception: an environment that is written as a list makes room for a table
once a setting in it is assigned, and what the list said of the others is gone. -/
namespace Muster
open Settings

namespace Setting
variable {tree value : Json} {x y : Setting} {name : String} {fields : List (String × Json)}

def Flat (value : Json) : Prop := ∀ fields, value ≠ .obj fields

theorem overlayFlat (flat : Flat value) (below : Json) : overlay below value = value := by
  cases value with
  | obj fields => exact absurd rfl (flat fields)
  | _ => simp only [overlay]

theorem fieldTable (tree : Json) (name : String) :
    tree.field? name = Entries.find? name (tableOf tree) := by
  cases tree <;> rfl

def place (x : Setting) : Path :=
  match x.member? with
  | none => ⟨x.key,[]⟩
  | some (name,_) => ⟨"environment",[.key name]⟩

theorem readKey (x : Setting) : Path.read x.key = x.place := by
  cases x <;> decide +kernel

def ofKey? : String → Option Setting
  | "host" => some host
  | "port" => some port
  | "liveness_window_secs" => some livenessSeconds
  | "sweep_interval_secs" => some sweepSeconds
  | "required_nodes" => some requiredNodes
  | "environment.cluster_config_path" => some clusterFile
  | "environment.required_vars" => some requiredVars
  | "environment.optional_vars" => some optionalVars
  | _ => none

theorem ofKey (x : Setting) : ofKey? x.key = some x := by
  cases x <;> rfl

theorem keyInj (same : x.key = y.key) : x = y :=
  Option.some.inj (by rw [← ofKey x,same,ofKey])

theorem memberInj {place other : Nat} (here : x.member? = some (name,place))
    (there : y.member? = some (name,other)) : x = y := by
  have same (z : Setting) {n : String} {p : Nat} (inside : z.member? = some (n,p)) :
      z.key = "environment." ++ n := by
    cases z <;> simp only [member?,Option.some.injEq,Prod.mk.injEq,reduceCtorEq] at inside <;>
      rw [← inside.1] <;> rfl
  exact keyInj ((same x here).trans (same y there).symm)

theorem keyWithin (x : Setting) : x.key ≠ "environment" := by
  cases x <;> decide

def Listed (tree : Json) : Prop := ∃ items, tree.field? "environment" = some (.arr items)

def Inside (x : Setting) : Prop := ∃ name place, x.member? = some (name,place)

theorem outsideIff : x.member? = none ↔ ¬ x.Inside := by
  cases x <;> simp [member?,Inside]

theorem setOutside (outside : x.member? = none) (flat : Flat value) (tree : Json) (name : String) :
    (x.place.set value tree).field? name =
      if x.key = name then some value else tree.field? name := by
  simp only [place,outside,Path.set,setAt,fieldTable,tableOf,Entries.findPut,overlayFlat flat]

theorem setInside {place : Nat} (inside : x.member? = some (name,place)) (flat : Flat value)
    (tree : Json) (other : String) :
    (x.place.set value tree).field? other =
      if "environment" = other then
        some (.obj (Entries.put name value (tableOf ((tree.field? "environment").getD .null))))
      else tree.field? other := by
  simp only [Setting.place,inside,Path.set,setAt,fieldTable,tableOf,Entries.findPut,
    overlayFlat flat]

theorem setListed (flat : Flat value) (tree : Json) (x : Setting) :
    Listed (x.place.set value tree) ↔ Listed tree ∧ ¬ x.Inside := by
  cases inside : x.member? with
  | none =>
    simp only [Listed,setOutside inside flat,if_neg x.keyWithin,outsideIff.mp inside,
      not_false_eq_true,and_true]
  | some member =>
    have here : x.Inside := ⟨member.1,member.2,inside⟩
    simp [Listed,setInside inside flat,here]

theorem setShaped (flat : Flat value) (shaped : Shaped tree) (x : Setting) :
    Shaped (x.place.set value tree) := by
  intro given
  cases inside : x.member? with
  | none =>
    rw [setOutside inside flat,if_neg x.keyWithin]
    exact shaped given
  | some member =>
    rw [setInside inside flat,if_pos rfl]
    intro same
    exact .inl ⟨_,(Option.some.inj same).symm⟩

theorem foundOwn (flat : Flat value) (tree : Json) (x : Setting) :
    found (x.place.set value tree) x = some value := by
  cases inside : x.member? with
  | none => simp only [found,inside,setOutside inside flat,if_pos]
  | some member =>
    simp only [found,inside,setInside inside flat,if_pos,Option.bind_some,entry,Entries.findPut]

theorem entryTable (outside : ¬ Listed tree) (name : String) (place : Nat) :
    (tree.field? "environment").bind (entry name place) =
      Entries.find? name (tableOf ((tree.field? "environment").getD .null)) := by
  cases given : tree.field? "environment" with
  | none => rfl
  | some environment =>
    cases environment with
    | arr items => exact absurd ⟨items,given⟩ outside
    | _ => rfl

theorem foundOther (flat : Flat value) (other : x ≠ y)
    (kept : ¬ (x.Inside ∧ y.Inside ∧ Listed tree)) :
    found (x.place.set value tree) y = found tree y := by
  have apart : x.key ≠ y.key := fun same => other (keyInj same)
  cases inside : x.member? with
  | none =>
    unfold found
    split
    · rw [setOutside inside flat,if_neg apart]
    · rw [setOutside inside flat,if_neg x.keyWithin]
  | some member =>
    obtain ⟨name,place⟩ := member
    unfold found
    split
    · rw [setInside inside flat,if_neg y.keyWithin.symm]
    · next own position also =>
      have table : ¬ Listed tree := fun listed => kept ⟨⟨_,_,inside⟩,⟨_,_,also⟩,listed⟩
      have differ : name ≠ own := by
        intro same
        subst same
        exact other (memberInj inside also)
      rw [entryTable table,setInside inside flat,if_pos rfl]
      simp only [Option.bind_some,entry,Entries.findPut,if_neg differ]

theorem foundLost (flat : Flat value) (other : x ≠ y) (inside : x.Inside) (also : y.Inside)
    (listed : Listed tree) : found (x.place.set value tree) y = none := by
  obtain ⟨name,place,here⟩ := inside
  obtain ⟨own,position,there⟩ := also
  obtain ⟨items,given⟩ := listed
  have differ : name ≠ own := by
    intro same
    subst same
    exact other (memberInj here there)
  simp only [found,there,setInside here flat,given,if_pos,Option.bind_some,entry,Entries.findPut,
    if_neg differ,Option.getD_some,tableOf,Entries.find?]

/- Fields that each assign one setting, and none of them twice. -/
structure Assigns (fields : List (String × Json)) : Prop where
  known : ∀ e ∈ fields, ∃ x : Setting, e.1 = x.key ∧ Flat e.2
  once : (fields.map Prod.fst).Nodup

def Assigned (fields : List (String × Json)) (x : Setting) : Prop := x.key ∈ fields.map Prod.fst

/- What the list said of a setting that is not assigned itself, while another of the environment is. -/
structure Lost (tree : Json) (fields : List (String × Json)) (x : Setting) : Prop where
  listed : Listed tree
  inside : x.Inside
  kept : ¬ Assigned fields x
  touched : ∃ y : Setting, y.Inside ∧ Assigned fields y

theorem assignedHead {e : String × Json} (here : e.1 = y.key) (rest : List (String × Json)) :
    Assigned (e :: rest) x ↔ y = x ∨ Assigned rest x := by
  have same : x.key = e.1 ↔ y = x := ⟨fun same => keyInj (same.trans here).symm,fun same => same ▸ here.symm⟩
  simp only [Assigned,List.map_cons,List.mem_cons,same]

theorem assignsTail {e : String × Json} (assigns : Assigns (e :: fields)) : Assigns fields :=
  ⟨fun other inside => assigns.known other (List.mem_cons_of_mem _ inside),
    (List.nodup_cons.mp assigns.once).2⟩

theorem layerHead {e : String × Json} (here : e.1 = y.key) (tree : Json)
    (rest : List (String × Json)) :
    layer tree (e :: rest) = layer (y.place.set e.2 tree) rest := by
  rw [← readKey,← here]
  rfl

theorem layerShaped (assigns : Assigns fields) (shaped : Shaped tree) :
    Shaped (layer tree fields) := by
  induction fields generalizing tree with
  | nil => exact shaped
  | cons e rest ih =>
    obtain ⟨y,here,flat⟩ := assigns.known e List.mem_cons_self
    rw [layerHead here]
    exact ih (assignsTail assigns) (setShaped flat shaped y)

theorem layerKept (assigns : Assigns fields) (unassigned : ¬ Assigned fields x)
    (safe : ¬ Lost tree fields x) : found (layer tree fields) x = found tree x := by
  induction fields generalizing tree with
  | nil => rfl
  | cons e rest ih =>
    obtain ⟨y,here,flat⟩ := assigns.known e List.mem_cons_self
    have other : ¬ (y = x ∨ Assigned rest x) := mt (assignedHead here rest).mpr unassigned
    have still : ¬ Lost (y.place.set e.2 tree) rest x := by
      intro lost
      obtain ⟨z,inside,assigned⟩ := lost.touched
      exact safe ⟨((setListed flat tree y).mp lost.listed).1,lost.inside,unassigned,
        z,inside,(assignedHead here rest).mpr (.inr assigned)⟩
    have apart : ¬ (y.Inside ∧ x.Inside ∧ Listed tree) := by
      intro both
      obtain ⟨inside,also,listed⟩ := both
      exact safe ⟨listed,also,unassigned,y,inside,(assignedHead here rest).mpr (.inl rfl)⟩
    rw [layerHead here,ih (assignsTail assigns) (fun tail => other (.inr tail)) still,
      foundOther flat (fun same => other (.inl same)) apart]

theorem layerOwn (assigns : Assigns fields) (given : Entries.find? x.key fields = some value) :
    found (layer tree fields) x = some value := by
  induction fields generalizing tree with
  | nil => cases given
  | cons e rest ih =>
    obtain ⟨k,v⟩ := e
    obtain ⟨y,here,flat⟩ := assigns.known (k,v) List.mem_cons_self
    rw [layerHead here]
    simp only [Entries.find?] at given
    split at given
    · next same =>
      cases given
      cases keyInj (here.symm.trans same)
      have fresh : k ∉ rest.map Prod.fst := (List.nodup_cons.mp assigns.once).1
      rw [same] at fresh
      have safe : ¬ Lost (x.place.set value tree) rest x :=
        fun lost => ((setListed flat tree x).mp lost.listed).2 lost.inside
      rw [layerKept (assignsTail assigns) fresh safe,foundOwn flat]
    · exact ih (assignsTail assigns) given

theorem layerLost (assigns : Assigns fields) (lost : Lost tree fields x) :
    found (layer tree fields) x = none := by
  induction fields generalizing tree with
  | nil =>
    obtain ⟨y,_,assigned⟩ := lost.touched
    cases assigned
  | cons e rest ih =>
    obtain ⟨y,here,flat⟩ := assigns.known e List.mem_cons_self
    have other : ¬ (y = x ∨ Assigned rest x) := mt (assignedHead here rest).mpr lost.kept
    rw [layerHead here]
    by_cases inside : y.Inside
    · have safe : ¬ Lost (y.place.set e.2 tree) rest x :=
        fun still => ((setListed flat tree y).mp still.listed).2 inside
      rw [layerKept (assignsTail assigns) (fun tail => other (.inr tail)) safe,
        foundLost flat (fun same => other (.inl same)) inside lost.inside lost.listed]
    · obtain ⟨z,within,assigned⟩ := lost.touched
      have later : Assigned rest z := by
        rcases (assignedHead here rest).mp assigned with same | later
        · exact absurd (same ▸ within) inside
        · exact later
      exact ih (assignsTail assigns) ⟨(setListed flat tree y).mpr ⟨lost.listed,inside⟩,lost.inside,
        fun tail => other (.inr tail),z,within,later⟩

def variableName : Setting → String
  | host => "LEADER__HOST"
  | port => "LEADER__PORT"
  | livenessSeconds => "LEADER__LIVENESS_WINDOW_SECS"
  | sweepSeconds => "LEADER__SWEEP_INTERVAL_SECS"
  | requiredNodes => "LEADER__REQUIRED_NODES"
  | clusterFile => "LEADER__ENVIRONMENT__CLUSTER_CONFIG_PATH"
  | requiredVars => "LEADER__ENVIRONMENT__REQUIRED_VARS"
  | optionalVars => "LEADER__ENVIRONMENT__OPTIONAL_VARS"

theorem variableRead (x : Setting) (value : String) :
    variableField? x.variableName value = some (x.key,variableValue x.key value) := by
  have key : variableKey? x.variableName = some x.key := by cases x <;> decide +kernel
  rw [variableField?,key]
  rfl

theorem variableFlat (key value : String) : Flat (variableValue key value) := by
  intro fields
  unfold variableValue
  grind [Json.int,Json.strings]

def Canonical (vars : List (String × String)) : Prop :=
  ∀ v ∈ vars, ∃ x : Setting, v.1 = x.variableName

variable {vars : List (String × String)}

theorem canonicalFields (canonical : Canonical vars) {e : String × Json} :
    e ∈ vars.filterMap (fun (name,value) => variableField? name value) ↔
      ∃ x : Setting, ∃ value, (x.variableName,value) ∈ vars ∧ e = (x.key,variableValue x.key value) := by
  rw [List.mem_filterMap]
  constructor
  · intro given
    obtain ⟨⟨name,value⟩,set,field⟩ := given
    obtain ⟨x,rfl⟩ := canonical _ set
    exact ⟨x,value,set,(Option.some.inj ((variableRead x value).symm.trans field)).symm⟩
  · intro given
    obtain ⟨x,value,set,same⟩ := given
    exact ⟨_,set,same ▸ variableRead x value⟩

theorem canonicalAssigns (canonical : Canonical vars) : Assigns (variableLayer vars) := by
  refine ⟨fun e stands => ?_,Entries.keysNodup (Entries.ofPairsAscending _)⟩
  obtain ⟨x,value,_,rfl⟩ := (canonicalFields canonical).mp (Entries.memOfPairs stands)
  exact ⟨x,rfl,variableFlat _ _⟩

theorem assignedBy (canonical : Canonical vars) :
    Assigned (variableLayer vars) x ↔ x.variableName ∈ vars.map Prod.fst := by
  rw [Assigned,variableLayer,Entries.keysOfPairs,List.mem_map,List.mem_map]
  constructor
  · intro given
    obtain ⟨e,field,same⟩ := given
    obtain ⟨y,value,set,rfl⟩ := (canonicalFields canonical).mp field
    exact ⟨_,set,congrArg variableName (keyInj same)⟩
  · intro given
    obtain ⟨⟨name,value⟩,set,rfl⟩ := given
    exact ⟨_,(canonicalFields canonical).mpr ⟨x,value,set,rfl⟩,rfl⟩

end Setting

namespace Settings
open Setting
variable {files : Files} {path : Option String} {vars : List (String × String)}
  {s f e g : ServerSettings}

theorem loadIff : load files path vars = .ok s ↔ ∃ file, fileFields files path = .ok file ∧
    decode (layer (layer (.obj []) file) (variableLayer vars)) = .ok s := bindOk

theorem nothingFound : fileFields .nothing none = .ok [] := by
  rfl

theorem loadedAlone (assigns : Assigns (variableLayer vars))
    (own : load .nothing none vars = .ok e) {x : Setting}
    (assigned : Assigned (variableLayer vars) x) :
    ∃ value, Entries.find? x.key (variableLayer vars) = some value ∧
      x.Reads (some value) (x.of e) := by
  obtain ⟨value,given⟩ := Entries.findSome.mpr assigned
  obtain ⟨file,none,read⟩ := loadIff.mp own
  cases nothingFound.symm.trans none
  have reads := (decodeIff.mp read).2 x
  rw [layerOwn assigns given] at reads
  exact ⟨value,given,reads⟩

/- Settings put together: the assigned ones from `e`, the lost ones standard, the others from `f`. -/
structure Composes (fields : List (String × Json)) (below : Json) (f e g : ServerSettings) : Prop where
  set : ∀ x, Assigned fields x → x.of g = x.of e
  kept : ∀ x, ¬ Assigned fields x → ¬ Lost below fields x → x.of g = x.of f
  lost : ∀ x, Lost below fields x → x.of g = x.of .standard

theorem composed (fields : List (String × Json)) (below : Json) (f e : ServerSettings) :
    ∃ g, Composes fields below f e g := by
  classical
  let value (x : Setting) : x.Value :=
    if Assigned fields x then x.of e else if Lost below fields x then x.of .standard else x.of f
  refine ⟨settings value,fun x set => ?_,fun x unset safe => ?_,fun x gone => ?_⟩
  · simp only [ofSettings,value,if_pos set]
  · simp only [ofSettings,value,if_neg unset,if_neg safe]
  · simp only [ofSettings,value,if_neg gone.kept,if_pos gone]

theorem Composes.reads {below : Json} (composes : Composes (variableLayer vars) below f e g)
    (assigns : Assigns (variableLayer vars)) (own : load .nothing none vars = .ok e)
    (told : ∀ x : Setting, x.Reads (found below x) (x.of f)) (x : Setting) :
    x.Reads (found (layer below (variableLayer vars)) x) (x.of g) := by
  by_cases set : Assigned (variableLayer vars) x
  · obtain ⟨value,given,read⟩ := loadedAlone assigns own set
    rw [layerOwn assigns given,composes.set x set]
    exact read
  · by_cases gone : Lost below (variableLayer vars) x
    · rw [layerLost assigns gone,composes.lost x gone]
      exact ⟨"",rfl⟩
    · rw [layerKept assigns set gone,composes.kept x set gone]
      exact told x

/-- Where a settings file and canonical variables can each be read by themselves they can be read together.
Every setting that is assigned is then as the variables have it, and every other as the file has it, unless
the file writes the environment as a list and a variable assigns something in it: what the list said of
the rest of the environment is lost, and standard again. -/
theorem layersCompose (canonical : ∀ v ∈ vars, ∃ x : Setting, v.1 = x.variableName)
    (alone : load files path [] = .ok f) (own : load .nothing none vars = .ok e) :
    let assigned (x : Setting) := x.variableName ∈ vars.map Prod.fst
    let lost (x : Setting) := (∃ file, fileFields files path = .ok file ∧
      Listed (layer (.obj []) file)) ∧ x.Inside ∧ ¬ assigned x ∧ ∃ y, Inside y ∧ assigned y
    ∃ g, load files path vars = .ok g ∧
      (∀ x, assigned x → x.of g = x.of e) ∧
      (∀ x, ¬ assigned x → ¬ lost x → x.of g = x.of f) ∧
      (∀ x, lost x → x.of g = x.of .standard) ∧
      ((∀ x, ¬ assigned x → x.of g = x.of f) ↔ ∀ x, lost x → x.of f = x.of .standard) := by
  intro assigned lost
  have assigns := canonicalAssigns canonical
  obtain ⟨file,given,read⟩ := loadIff.mp alone
  obtain ⟨shaped,told⟩ := decodeIff.mp read
  let below := layer (.obj []) file
  obtain ⟨g,composes⟩ := composed (variableLayer vars) below f e
  have together : load files path vars = .ok g := loadIff.mpr
    ⟨file,given,decodeIff.mpr ⟨layerShaped assigns shaped,composes.reads assigns own told⟩⟩
  have lostIff (x : Setting) : lost x ↔ Lost below (variableLayer vars) x := by
    simp only [lost,assigned,← assignedBy canonical,given,Except.ok.injEq,exists_eq_left']
    exact ⟨fun l => ⟨l.1,l.2.1,l.2.2.1,l.2.2.2⟩,fun l => ⟨l.listed,l.inside,l.kept,l.touched⟩⟩
  have kept (x : Setting) (unset : ¬ assigned x) (safe : ¬ lost x) : x.of g = x.of f :=
    composes.kept x (mt (assignedBy canonical).mp unset) (mt (lostIff x).mpr safe)
  have standard (x : Setting) (gone : lost x) : x.of g = x.of .standard :=
    composes.lost x ((lostIff x).mp gone)
  refine ⟨g,together,fun x set => composes.set x ((assignedBy canonical).mpr set),kept,standard,?_⟩
  constructor
  · intro whole x gone
    rw [← whole x gone.2.2.1,standard x gone]
  · intro already x unset
    by_cases gone : lost x
    · rw [standard x gone,already x gone]
    · exact kept x unset gone

theorem layersComposeMixed :
    let said := "\x7b\"host\":\"db-1\",\"environment\":[\"wiring.json\",[\"HOME\"]]\x7d"
    let files : Files := ⟨fun name => if name = "leader.json" then some said else none,fun _ => none⟩
    let vars := [("LEADER__PORT","9200"),("LEADER__ENVIRONMENT__REQUIRED_VARS","SHELL")]
    let f : ServerSettings := { ServerSettings.standard with
      host := "db-1",environment := ⟨some "wiring.json",["HOME"],[]⟩ }
    let e : ServerSettings := { ServerSettings.standard with
      port := 9200,environment := ⟨none,["SHELL"],[]⟩ }
    (∀ v ∈ vars, ∃ x : Setting, v.1 = x.variableName) ∧
      load files (some "leader.json") [] = .ok f ∧ load .nothing none vars = .ok e ∧
      ∃ g, load files (some "leader.json") vars = .ok g ∧ g.port = 9200 ∧ g.host = "db-1" ∧
        g.environment = ⟨none,["SHELL"],[]⟩ := by
  intro said files vars f e
  have canonical : ∀ v ∈ vars, ∃ x : Setting, v.1 = x.variableName := by
    intro v set
    rcases List.mem_pair.mp set with rfl | rfl
    · exact ⟨.port,rfl⟩
    · exact ⟨.requiredVars,rfl⟩
  have alone : load files (some "leader.json") [] = .ok f := by decide +kernel
  have own : load .nothing none vars = .ok e := by decide +kernel
  have file : fileFields files (some "leader.json") = .ok
      [("environment",.arr [.str "wiring.json",.arr [.str "HOME"]]),("host",.str "db-1")] := by
    simp only [files,said]
    cbv
  obtain ⟨g,loaded,set,kept,lost,_⟩ := layersCompose canonical alone own
  have gone : g.environment.clusterFile = none := lost .clusterFile
    ⟨⟨_,file,_,rfl⟩,⟨_,_,rfl⟩,by decide,.requiredVars,⟨_,_,rfl⟩,by decide⟩
  have forgotten : g.environment.optionalVars = [] := lost .optionalVars
    ⟨⟨_,file,_,rfl⟩,⟨_,_,rfl⟩,by decide,.requiredVars,⟨_,_,rfl⟩,by decide⟩
  have given : g.environment.requiredVars = ["SHELL"] := set .requiredVars (by decide)
  have outside : ¬ Inside .host := fun inside => by
    obtain ⟨_,_,none⟩ := inside
    cases none
  refine ⟨canonical,alone,own,g,loaded,set .port (by decide),
    kept .host (by decide) fun lost => outside lost.2.1,?_⟩
  obtain ⟨_,_,_,_,_,_,_,_⟩ := g
  cases gone
  cases given
  cases forgotten
  rfl

/- The wiring file that the settings file names is not reported once a variable is listed. -/
theorem listForgotten :
    let said := "\x7b\"environment\":[\"wiring.json\"]\x7d"
    let files : Files := ⟨fun name => if name = "leader.json" then some said else none,fun _ => none⟩
    let vars := [("LEADER__ENVIRONMENT__OPTIONAL_VARS","A,B")]
    load files (some "leader.json") [] =
        .ok { ServerSettings.standard with environment := ⟨some "wiring.json",[],[]⟩ } ∧
      load .nothing none vars =
        .ok { ServerSettings.standard with environment := ⟨none,[],["A","B"]⟩ } ∧
      load files (some "leader.json") vars =
        .ok { ServerSettings.standard with environment := ⟨none,[],["A","B"]⟩ } := by
  intro said files vars
  exact ⟨by decide +kernel,by decide +kernel,by decide +kernel⟩

end Settings
end Muster
