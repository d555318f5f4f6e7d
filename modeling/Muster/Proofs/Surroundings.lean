import Muster.Environment
import Muster.Proofs.Contents
import Muster.Proofs.Searching
/-! What the service takes from the variables of its process, and what it shows of them. That a listed
variable is set counts whatever its name; its value goes no further if the name looks secret. -/
namespace Muster.Environment

/- A name with one of the marks in it, small letters of ASCII taken for capital ones. -/
def Secret (name : String) : Prop :=
  ∃ mark ∈ ["PASSWORD","SECRET","TOKEN","CREDENTIAL","PRIVATE"],
    mark.toList <:+: name.toList.map Char.toUpper

theorem looksSecretIff {name : String} : looksSecret name = true ↔ Secret name := by
  simp only [looksSecret,List.any_eq_true,Text.contains,String.toList_ofList,Text.occursInIff]
  rfl

instance (name : String) : Decidable (Secret name) := decidable_of_iff _ looksSecretIff

variable {lookup one two : String → Option String} {names : List String}

theorem missingNone : missing lookup names = [] ↔
    ∀ name ∈ names, ∃ value, lookup name = some value := by
  simp only [missing,List.filter_eq_nil_iff,Bool.not_eq_true,Option.isNone_eq_false_iff,
    Option.isSome_iff_exists]

theorem getCollectSnoc (lookup : String → Option String) (names : List String)
    (last name : String) : (collect lookup (names ++ [last])).get? name =
      if last = name ∧ ¬ Secret name then (lookup name).or ((collect lookup names).get? name)
      else (collect lookup names).get? name := by
  have next : collect lookup (names ++ [last]) =
      if Secret last then collect lookup names
      else (lookup last).elim (collect lookup names) ((collect lookup names).insert last) := by
    simp only [collect,List.foldl_append,List.foldl_cons,List.foldl_nil,looksSecretIff]
    cases lookup last <;> rfl
  rw [next]
  by_cases secret : Secret last
  · rw [if_pos secret,if_neg fun shown => shown.2 (shown.1 ▸ secret)]
  · rw [if_neg secret]
    by_cases same : last = name
    · subst same
      rw [if_pos ⟨rfl,secret⟩]
      cases lookup last <;> simp
    · rw [if_neg fun shown => same shown.1]
      cases lookup last <;> simp [same]

theorem getCollect (lookup : String → Option String) (names : List String) (name : String) :
    (collect lookup names).get? name =
      if name ∈ names ∧ ¬ Secret name then lookup name else none := by
  induction names using List.reverseRecOn with
  | nil => simp [collect]
  | append_singleton names last ih =>
    rw [getCollectSnoc,ih]
    by_cases secret : Secret name
    · simp [secret]
    · by_cases same : last = name
      · subst same
        by_cases before : last ∈ names <;> simp [secret,before]
      · simp [secret,same,Ne.symm same]

theorem collectExactly {name value : String} : (name,value) ∈ (collect lookup names).entries ↔
    name ∈ names ∧ lookup name = some value ∧ ¬ Secret name := by
  rw [Entries.memIff (Entries.keysNodup (collect lookup names).ascending)]
  change (collect lookup names).get? name = some value ↔ _
  rw [getCollect]
  split
  · next shown => simp [shown]
  · next hidden =>
    simp only [reduceCtorEq,false_iff]
    exact fun listed => hidden ⟨listed.1,listed.2.2⟩

theorem collectSame (names : List String) : collect one names = collect two names ↔
    ∀ name ∈ names, ¬ Secret name → one name = two name := by
  constructor
  · intro same name listed plain
    have found := congrArg (·.get? name) same
    simpa only [getCollect,if_pos (And.intro listed plain)] using found
  · intro agree
    refine Table.getExt fun name => ?_
    rw [getCollect,getCollect]
    split
    · next shown => exact agree name shown.1 shown.2
    · rfl

theorem missingSame (names : List String) : missing one names = missing two names ↔
    ∀ name ∈ names, (one name).isSome = (two name).isSome := by
  constructor
  · intro same name listed
    have absent : name ∈ missing one names ↔ name ∈ missing two names := by rw [same]
    simp only [missing,List.mem_filter,listed,true_and] at absent
    cases set : one name <;> cases other : two name <;> simp_all
  · intro agree
    refine List.filter_congr fun name listed => ?_
    have both := agree name listed
    cases set : one name <;> cases other : two name <;> simp_all

variable {settings : EnvironmentSettings} {files : Settings.Files} {wiring : Json}

theorem loadTaken (wired : wiringFile files settings.clusterFile = .ok wiring)
    (complete : missing lookup settings.requiredVars = []) : load settings files lookup =
      let reported := collect lookup (settings.requiredVars ++ settings.optionalVars)
      (.ok ⟨wiring,reported⟩,withheld (settings.requiredVars ++ settings.optionalVars) ++
        [.environmentLoaded reported.size settings.clusterFile]) := by
  simp only [load,wired,complete]

theorem loadRefused (wired : wiringFile files settings.clusterFile = .ok wiring)
    (absent : missing lookup settings.requiredVars ≠ []) : load settings files lookup =
      (.error (.missingVariables (missing lookup settings.requiredVars)),[]) := by
  simp only [load,wired]

/-- Where the wiring file can be read, if there is one, loading succeeds exactly if all required
variables are set. Else the fault names those that are not, as often and in the order in which they
are listed; what is reported are the values of the listed variables that are set and have no
secret name. -/
theorem loadsExactly (wired : wiringFile files settings.clusterFile = .ok wiring)
    (lookup : String → Option String) :
    let outcome := (load settings files lookup).1
    let absent := settings.requiredVars.filter fun name => lookup name = none
    ((∃ e, outcome = .ok e) ↔
      ∀ name ∈ settings.requiredVars, ∃ value, lookup name = some value) ∧
    (∀ fault, outcome = .error fault → fault = .missingVariables absent ∧
      fault.text = "missing required environment variable(s): " ++ ", ".intercalate absent) ∧
    ∀ e, outcome = .ok e → e.wiring = wiring ∧ ∀ name value,
      (name,value) ∈ e.reported.entries ↔
        (name ∈ settings.requiredVars ∨ name ∈ settings.optionalVars) ∧
          lookup name = some value ∧ ¬ Secret name := by
  intro outcome absent
  have listed : missing lookup settings.requiredVars = absent := by
    refine List.filter_congr fun name _ => ?_
    rw [Bool.eq_iff_iff,Option.isNone_iff_eq_none,decide_eq_true_iff]
  by_cases complete : missing lookup settings.requiredVars = []
  · have taken : outcome = .ok ⟨wiring,collect lookup _⟩ := congrArg (·.1) (loadTaken wired complete)
    refine ⟨iff_of_true ⟨_,taken⟩ (missingNone.mp complete),?_,?_⟩
    · intro fault failed
      cases taken.symm.trans failed
    · intro e loaded
      cases taken.symm.trans loaded
      refine ⟨rfl,fun name value => ?_⟩
      rw [collectExactly,List.mem_append]
  · have refused : outcome = .error (.missingVariables absent) :=
      listed ▸ congrArg (·.1) (loadRefused wired complete)
    refine ⟨iff_of_false ?_ (mt missingNone.mpr complete),?_,?_⟩
    · intro loads
      obtain ⟨e,loaded⟩ := loads
      cases refused.symm.trans loaded
    · intro fault failed
      cases refused.symm.trans failed
      exact ⟨rfl,rfl⟩
    · intro e loaded
      cases refused.symm.trans loaded

theorem loadsExactlyOverlap :
    let settings : EnvironmentSettings :=
      ⟨none,["STORAGE_URL","db_password","STORAGE_URL"],["PORTAL_URL","STORAGE_URL"]⟩
    let lookup : String → Option String := fun name =>
      if name = "STORAGE_URL" then some "http://orb" else
        if name = "db_password" then some "hunter2" else none
    wiringFile .nothing settings.clusterFile = .ok (.obj []) ∧
      ∃ e, (load settings .nothing lookup).1 = .ok e ∧
        (("STORAGE_URL","http://orb") ∈ e.reported.entries) ∧
        ("db_password","hunter2") ∉ e.reported.entries := by
  intro settings lookup
  have wired : wiringFile .nothing settings.clusterFile = .ok (.obj []) := rfl
  obtain ⟨complete,_,reported⟩ := loadsExactly wired lookup
  have set : ∀ name ∈ settings.requiredVars, ∃ value, lookup name = some value := by
    simp [settings,lookup]
  obtain ⟨e,loaded⟩ := complete.mpr set
  obtain ⟨_,shown⟩ := reported e loaded
  refine ⟨wired,e,loaded,?_,?_⟩
  · rw [shown]
    exact ⟨.inl (by simp [settings]),by simp [lookup],by decide⟩
  · rw [shown]
    exact fun hidden => hidden.2.2 (by decide)

theorem loadSame (wired : wiringFile files settings.clusterFile = .ok wiring) :
    load settings files one = load settings files two ↔
      missing one settings.requiredVars = missing two settings.requiredVars ∧
      (missing one settings.requiredVars = [] →
        collect one (settings.requiredVars ++ settings.optionalVars) =
          collect two (settings.requiredVars ++ settings.optionalVars)) := by
  by_cases complete : missing one settings.requiredVars = []
  · by_cases also : missing two settings.requiredVars = []
    · rw [loadTaken wired complete,loadTaken wired also]
      constructor
      · intro same
        obtain ⟨loaded,_⟩ := Prod.mk.inj same
        exact ⟨complete.trans also.symm,fun _ => (Environment.mk.inj (Except.ok.inj loaded)).2⟩
      · intro same
        rw [same.2 complete]
    · rw [loadTaken wired complete,loadRefused wired also,complete]
      simp [Ne.symm also]
  · rw [loadRefused wired complete]
    by_cases other : missing two settings.requiredVars = []
    · rw [loadTaken wired other,other]
      simp [complete]
    · rw [loadRefused wired other]
      simp [complete]

theorem toldApart (wired : wiringFile files settings.clusterFile = .ok wiring) :
    load settings files one = load settings files two ↔
      (∀ name ∈ settings.requiredVars, (one name).isSome = (two name).isSome) ∧
      ((∀ name ∈ settings.requiredVars, ∃ value, one name = some value) →
        ∀ name ∈ settings.requiredVars ++ settings.optionalVars, ¬ Secret name →
          one name = two name) := by
  rw [loadSame wired,missingSame,missingNone,collectSame]

/-- The values of variables with secret names are told to nobody. Two processes in which the other
variables are the same, and the same ones with secret names are set of those that are required, load
alike: with the same fault or the same report at every time, and with the same log. -/
theorem secretsKept (plain : ∀ name, ¬ Secret name → one name = two name)
    (required : ∀ name ∈ settings.requiredVars, Secret name →
      ((∃ value, one name = some value) ↔ ∃ value, two name = some value))
    (files : Settings.Files) :
    let first := load settings files one
    let second := load settings files two
    first.1 = second.1 ∧ first.2 = second.2 ∧
      ∀ now, first.1.map (·.report now) = second.1.map (·.report now) := by
  intro first second
  have set : ∀ name ∈ settings.requiredVars, (one name).isSome = (two name).isSome := by
    intro name listed
    by_cases secret : Secret name
    · rw [Bool.eq_iff_iff,Option.isSome_iff_exists,Option.isSome_iff_exists]
      exact required name listed secret
    · rw [plain name secret]
  have same : first = second := by
    cases wired : wiringFile files settings.clusterFile with
    | error fault => simp only [first,second,load,wired]
    | ok wiring => exact (toldApart wired).mpr ⟨set,fun _ name _ => plain name⟩
  rw [same]
  exact ⟨rfl,rfl,fun _ => rfl⟩

theorem secretsKeptChanged :
    let settings : EnvironmentSettings := ⟨none,["db_password"],["API_TOKEN","PORTAL_URL"]⟩
    let one : String → Option String := fun name =>
      if name = "PORTAL_URL" then some "http://portal" else
        if name = "db_password" then some "hunter2" else none
    let two : String → Option String := fun name =>
      if name = "PORTAL_URL" then some "http://portal" else
        if name = "db_password" then some "swordfish" else
          if name = "API_TOKEN" then some "t0k3n" else none
    (∀ name, ¬ Secret name → one name = two name) ∧
      (∀ name ∈ settings.requiredVars, Secret name →
        ((∃ value, one name = some value) ↔ ∃ value, two name = some value)) ∧
      (load settings .nothing one).1 = (load settings .nothing two).1 := by
  intro settings one two
  have plain : ∀ name, ¬ Secret name → one name = two name := by
    intro name plain
    have password : name ≠ "db_password" := fun same => plain (same ▸ by decide)
    have token : name ≠ "API_TOKEN" := fun same => plain (same ▸ by decide)
    simp only [one,two,if_neg password,if_neg token]
  have required : ∀ name ∈ settings.requiredVars, Secret name →
      ((∃ value, one name = some value) ↔ ∃ value, two name = some value) := by
    intro name listed _
    have same : name = "db_password" := by simpa [settings] using listed
    subst same
    exact iff_of_true ⟨"hunter2",rfl⟩ ⟨"swordfish",rfl⟩
  exact ⟨plain,required,(secretsKept plain required .nothing).1⟩

end Muster.Environment
