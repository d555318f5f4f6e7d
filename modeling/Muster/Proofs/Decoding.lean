import Muster.Settings.Load
/-! The settings one by one. Each is found at one place of the tree, and is read from what stands there,
or has its standard value where nothing does; none depends on what is found of another. -/
namespace Muster

theorem Settings.bindOk {α β : Type} {first : Decoded α} {next : α → Decoded β} {b : β} :
    first >>= next = .ok b ↔ ∃ a, first = .ok a ∧ next a = .ok b := by
  cases first <;> simp [bind,Except.bind]

inductive Setting where
  | host
  | port
  | livenessSeconds
  | sweepSeconds
  | requiredNodes
  | clusterFile
  | requiredVars
  | optionalVars
  deriving DecidableEq

namespace Setting

abbrev Value : Setting → Type
  | host => String
  | port => UInt16
  | livenessSeconds | sweepSeconds => UInt64
  | clusterFile => Option String
  | requiredNodes | requiredVars | optionalVars => List String

def of (s : ServerSettings) : (x : Setting) → x.Value
  | host => s.host
  | port => s.port
  | livenessSeconds => s.livenessSeconds
  | sweepSeconds => s.sweepSeconds
  | requiredNodes => s.requiredNodes
  | clusterFile => s.environment.clusterFile
  | requiredVars => s.environment.requiredVars
  | optionalVars => s.environment.optionalVars

def settings (value : (x : Setting) → x.Value) : ServerSettings :=
  ⟨value host,value port,value livenessSeconds,value sweepSeconds,value requiredNodes,
    ⟨value clusterFile,value requiredVars,value optionalVars⟩⟩

theorem ofSettings (value : (x : Setting) → x.Value) (x : Setting) :
    x.of (settings value) = value x := by
  cases x <;> rfl

def decode : (x : Setting) → String → Json → Settings.Decoded x.Value
  | host => Settings.text
  | port => Settings.port
  | livenessSeconds | sweepSeconds => Settings.count
  | clusterFile => Settings.path
  | requiredNodes | requiredVars | optionalVars => Settings.texts

def member? : Setting → Option (String × Nat)
  | clusterFile => some ("cluster_config_path",0)
  | requiredVars => some ("required_vars",1)
  | optionalVars => some ("optional_vars",2)
  | _ => none

def key : Setting → String
  | host => "host"
  | port => "port"
  | livenessSeconds => "liveness_window_secs"
  | sweepSeconds => "sweep_interval_secs"
  | requiredNodes => "required_nodes"
  | clusterFile => "environment.cluster_config_path"
  | requiredVars => "environment.required_vars"
  | optionalVars => "environment.optional_vars"

def entry (name : String) (place : Nat) : Json → Option Json
  | .obj fields => Entries.find? name fields
  | .arr items => items[place]?
  | _ => none

def found (tree : Json) (x : Setting) : Option Json :=
  match x.member? with
  | none => tree.field? x.key
  | some (name,place) => (tree.field? "environment").bind (entry name place)

/- What is found is read as this value, whatever key a fault would be reported under. -/
def Reads (x : Setting) (given : Option Json) (value : x.Value) : Prop :=
  ∃ key, Settings.orElse (x.of .standard) (x.decode key) given = .ok value

variable {key other : String} {given : Json}

theorem textAnywhere {value : String} (read : Settings.text key given = .ok value) :
    Settings.text other given = .ok value := by
  cases given with
  | num n => cases n <;> exact read
  | bool b => exact read
  | str s => exact read
  | _ => cases read

theorem countAnywhere {value : UInt64} (read : Settings.count key given = .ok value) :
    Settings.count other given = .ok value := by
  unfold Settings.count at read ⊢
  split at read <;> grind

theorem portAnywhere {value : UInt16} (read : Settings.port key given = .ok value) :
    Settings.port other given = .ok value := by
  obtain ⟨n,counted,small⟩ := Settings.bindOk.mp read
  refine Settings.bindOk.mpr ⟨n,countAnywhere counted,?_⟩
  split at small
  · next fits => rw [if_pos fits,Except.ok.inj small]
  · cases small

theorem pathAnywhere {value : Option String} (read : Settings.path key given = .ok value) :
    Settings.path other given = .ok value := by
  cases given with
  | null => exact read
  | _ =>
    simp only [Settings.path] at read ⊢
    cases told : Settings.text key _ with
    | error fault => rw [told] at read; cases read
    | ok t =>
      rw [told] at read
      rw [textAnywhere told]
      exact read

theorem textsFromAnywhere {items : List Json} {index : Nat} {values : List String}
    (read : Settings.textsFrom key index items = .ok values) :
    Settings.textsFrom other index items = .ok values := by
  induction items generalizing index values with
  | nil => exact read
  | cons item rest ih =>
    obtain ⟨first,here,tail⟩ := Settings.bindOk.mp read
    obtain ⟨others,behind,both⟩ := Settings.bindOk.mp tail
    exact Settings.bindOk.mpr ⟨first,textAnywhere here,Settings.bindOk.mpr ⟨others,ih behind,both⟩⟩

theorem textsAnywhere {values : List String} (read : Settings.texts key given = .ok values) :
    Settings.texts other given = .ok values := by
  cases given with
  | arr items => exact textsFromAnywhere read
  | _ => cases read

theorem decodedAnywhere {x : Setting} {value : x.Value} (read : x.decode key given = .ok value) :
    x.decode other given = .ok value := by
  cases x with
  | host => exact textAnywhere read
  | port => exact portAnywhere read
  | livenessSeconds | sweepSeconds => exact countAnywhere read
  | clusterFile => exact pathAnywhere read
  | requiredNodes | requiredVars | optionalVars => exact textsAnywhere read

theorem readsUnder {x : Setting} {given : Option Json} {value : x.Value} (key : String) :
    Settings.orElse (x.of .standard) (x.decode key) given = .ok value ↔ x.Reads given value := by
  refine ⟨fun read => ⟨key,read⟩,fun reads => ?_⟩
  obtain ⟨other,read⟩ := reads
  cases given with
  | none => exact read
  | some given => exact decodedAnywhere read

variable {tree : Json} {s : ServerSettings}

/- What may stand for the environment: nothing, its table, or a list of what is in the table. -/
def Shaped (tree : Json) : Prop :=
  ∀ given, tree.field? "environment" = some given →
    (∃ fields, given = .obj fields) ∨ ∃ items, given = .arr items

theorem partsRead {file required optional : String} (given : Setting → Option Json)
    {e : EnvironmentSettings} :
    (do let c ← Settings.orElse none (Settings.path file) (given clusterFile)
        let r ← Settings.orElse [] (Settings.texts required) (given requiredVars)
        let o ← Settings.orElse [] (Settings.texts optional) (given optionalVars)
        .ok ⟨c,r,o⟩ : Settings.Decoded EnvironmentSettings) = .ok e ↔
      clusterFile.Reads (given clusterFile) e.clusterFile ∧
      requiredVars.Reads (given requiredVars) e.requiredVars ∧
      optionalVars.Reads (given optionalVars) e.optionalVars := by
  simp only [Settings.bindOk]
  constructor
  · intro read
    obtain ⟨c,hasFile,r,hasRequired,o,hasOptional,all⟩ := read
    cases all
    exact ⟨⟨_,hasFile⟩,⟨_,hasRequired⟩,⟨_,hasOptional⟩⟩
  · intro reads
    obtain ⟨hasFile,hasRequired,hasOptional⟩ := reads
    exact ⟨_,(readsUnder (x := clusterFile) file).mpr hasFile,
      _,(readsUnder (x := requiredVars) required).mpr hasRequired,
      _,(readsUnder (x := optionalVars) optional).mpr hasOptional,rfl⟩

theorem environmentIff {given : Json} {e : EnvironmentSettings} :
    Settings.environment "environment" given = .ok e ↔
      ((∃ fields, given = .obj fields) ∨ ∃ items, given = .arr items) ∧
      clusterFile.Reads (entry "cluster_config_path" 0 given) e.clusterFile ∧
      requiredVars.Reads (entry "required_vars" 1 given) e.requiredVars ∧
      optionalVars.Reads (entry "optional_vars" 2 given) e.optionalVars := by
  cases given with
  | obj fields =>
    rw [and_iff_right (.inl ⟨fields,rfl⟩)]
    exact partsRead fun x => x.member?.bind fun m => entry m.1 m.2 (.obj fields)
  | arr items =>
    rw [and_iff_right (.inr ⟨items,rfl⟩)]
    exact partsRead fun x => x.member?.bind fun m => entry m.1 m.2 (.arr items)
  | _ => simp [Settings.environment]

theorem environmentRead {e : EnvironmentSettings} :
    Settings.orElse ServerSettings.standard.environment (Settings.environment "environment")
        (tree.field? "environment") = .ok e ↔
      Shaped tree ∧ clusterFile.Reads (found tree clusterFile) e.clusterFile ∧
      requiredVars.Reads (found tree requiredVars) e.requiredVars ∧
      optionalVars.Reads (found tree optionalVars) e.optionalVars := by
  cases here : tree.field? "environment" with
  | some given =>
    simp only [Settings.orElse,environmentIff,Shaped,found,member?,here,Option.bind_some,
      Option.some.injEq,forall_eq']
  | none =>
    have nowhere (x : Setting) (inside : x.member? ≠ none) : found tree x = none := by
      unfold found
      split
      · next outside => exact absurd outside inside
      · rw [here,Option.bind_none]
    rw [nowhere clusterFile (by simp [member?]),nowhere requiredVars (by simp [member?]),
      nowhere optionalVars (by simp [member?])]
    simp only [Settings.orElse,Shaped,here]
    constructor
    · intro same
      cases same
      exact ⟨by simp,⟨"",rfl⟩,⟨"",rfl⟩,⟨"",rfl⟩⟩
    · intro reads
      obtain ⟨c,r,o⟩ := e
      obtain ⟨_,⟨_,file⟩,⟨_,required⟩,⟨_,optional⟩⟩ := reads
      cases file
      cases required
      cases optional
      rfl

theorem decodeIff : Settings.decode tree = .ok s ↔
    Shaped tree ∧ ∀ x : Setting, x.Reads (found tree x) (x.of s) := by
  simp only [Settings.decode,Settings.bindOk]
  constructor
  · intro read
    obtain ⟨h,hasHost,p,hasPort,l,hasLiveness,w,hasSweep,n,hasNodes,e,hasEnvironment,all⟩ := read
    obtain ⟨shaped,file,required,optional⟩ := environmentRead.mp hasEnvironment
    cases all
    refine ⟨shaped,fun x => ?_⟩
    cases x with
    | host => exact ⟨_,hasHost⟩
    | port => exact ⟨_,hasPort⟩
    | livenessSeconds => exact ⟨_,hasLiveness⟩
    | sweepSeconds => exact ⟨_,hasSweep⟩
    | requiredNodes => exact ⟨_,hasNodes⟩
    | clusterFile => exact file
    | requiredVars => exact required
    | optionalVars => exact optional
  · intro reads
    obtain ⟨shaped,reads⟩ := reads
    exact ⟨_,(readsUnder (x := host) _).mpr (reads host),
      _,(readsUnder (x := port) _).mpr (reads port),
      _,(readsUnder (x := livenessSeconds) _).mpr (reads livenessSeconds),
      _,(readsUnder (x := sweepSeconds) _).mpr (reads sweepSeconds),
      _,(readsUnder (x := requiredNodes) _).mpr (reads requiredNodes),s.environment,
      environmentRead.mpr
        ⟨shaped,reads clusterFile,reads requiredVars,reads optionalVars⟩,rfl⟩

end Setting
end Muster
