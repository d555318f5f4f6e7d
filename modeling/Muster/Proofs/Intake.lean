import Mathlib.Data.List.DropRight
import Mathlib.Data.List.Nodup
import Muster.Registry.Basic
/-! What a heartbeat has to say to be taken, what is kept of it, and what is said of one that is
refused. The rules are given by field, apart from the checks that apply them. -/
namespace Muster

namespace Text

def Blank (cs : List Char) : Prop := ∀ c ∈ cs, isBlank c = true

structure Trims (s t : String) : Prop where
  around : ∃ before after, s.toList = before ++ t.toList ++ after ∧ Blank before ∧ Blank after
  first : ∀ c ∈ t.toList.head?, isBlank c = false
  last : ∀ c ∈ t.toList.getLast?, isBlank c = false

theorem trimStartSpan (cs : List Char) : ∃ before, cs = before ++ trimStart cs ∧ Blank before :=
  ⟨cs.takeWhile isBlank,List.takeWhile_append_dropWhile.symm,fun _ => List.mem_takeWhile_imp⟩

theorem trimEndSpan (cs : List Char) : ∃ after, cs = trimEnd cs ++ after ∧ Blank after := by
  obtain ⟨before,span,blank⟩ := trimStartSpan cs.reverse
  refine ⟨before.reverse,?_,fun c mem => blank c (List.mem_reverse.mp mem)⟩
  simpa [trimEnd] using congrArg List.reverse span

theorem trimStartFirst {cs : List Char} {c : Char} (first : c ∈ (trimStart cs).head?) :
    isBlank c = false := by
  have stop := List.head?_dropWhile_not isBlank cs
  change (trimStart cs).head? = some c at first
  rw [trimStart] at first
  simpa [first] using stop

theorem trimStartBlank {before cs : List Char} (blank : Blank before)
    (first : ∀ c ∈ cs.head?, isBlank c = false) : trimStart (before ++ cs) = cs := by
  rw [trimStart,List.dropWhile_append_of_pos blank]
  cases cs with
  | nil => rfl
  | cons c rest => simp [first c rfl]

theorem trimEndBlank {cs after : List Char} (blank : Blank after)
    (last : ∀ c ∈ cs.getLast?, isBlank c = false) : trimEnd (cs ++ after) = cs := by
  have back : Blank after.reverse := fun c mem => blank c (List.mem_reverse.mp mem)
  rw [trimEnd,List.reverse_append,trimStartBlank back,List.reverse_reverse]
  simpa using last

theorem trimsTrim (s : String) : Trims s (trim s) where
  around := by
    obtain ⟨before,start,front⟩ := trimStartSpan s.toList
    obtain ⟨after,stop,back⟩ := trimEndSpan (trimStart s.toList)
    refine ⟨before,after,?_,front,back⟩
    rw [trim,String.toList_ofList,List.append_assoc,← stop]
    exact start
  first := by
    intro c first
    obtain ⟨after,stop,_⟩ := trimEndSpan (trimStart s.toList)
    rw [trim,String.toList_ofList] at first
    have found : c ∈ (trimStart s.toList).head? := by
      rw [stop,List.head?_append,Option.mem_def.mp first]
      rfl
    exact trimStartFirst found
  last := by
    intro c last
    rw [trim,String.toList_ofList,trimEnd,List.getLast?_reverse] at last
    exact trimStartFirst last

theorem trimsIff {s t : String} : Trims s t ↔ t = trim s := by
  constructor
  · rintro ⟨⟨before,after,span,front,back⟩,first,last⟩
    have text : t.toList = trimEnd (trimStart s.toList) := by
      rw [span,List.append_assoc]
      cases chars : t.toList with
      | nil =>
        have blank : Blank (before ++ after) := by
          intro c mem
          exact (List.mem_append.mp mem).elim (front c) (back c)
        have none : trimStart (before ++ ([] ++ after)) = [] := List.dropWhile_eq_nil_iff.mpr blank
        rw [none]
        rfl
      | cons c rest =>
        rw [chars] at first last
        rw [trimStartBlank front (by simpa using first),trimEndBlank back last]
    rw [trim,← text,String.ofList_toList]
  · rintro rfl
    exact trimsTrim s

theorem trimEmpty {s : String} : trim s = "" ↔ Blank s.toList := by
  constructor
  · intro none
    obtain ⟨before,after,span,front,back⟩ := (trimsTrim s).around
    rw [none] at span
    rw [span]
    intro c mem
    simp only [String.toList_empty,List.append_nil,List.mem_append] at mem
    exact mem.elim (front c) (back c)
  · intro blank
    refine (trimsIff.mp ⟨⟨s.toList,[],by simp,blank,?_⟩,by simp,by simp⟩).symm
    simp [Blank]

end Text

namespace Announcement

def requiredFields : List String := ["node_name","node_type","instance_key"]

def fieldOrder : List String := requiredFields ++ ["host","port","additional"]

def Absent (value : Option Json) : Prop := value = none ∨ value = some .null

/- Nothing is said where a field is absent or null, or a text of white space only. -/
def Unsaid (value : Option Json) : Prop :=
  Absent value ∨ ∃ s, value = some (.str s) ∧ Text.Blank s.toList

def SaysText (value : Option Json) (t : String) : Prop :=
  ∃ s, value = some (.str s) ∧ Text.Trims s t ∧ t ≠ ""

def IsText (value : Json) : Prop := ∃ s, value = .str s

def IsPort (value : Json) : Prop := ∃ n : Nat, n ≤ 65535 ∧ value = .nat n

def IsObject (value : Json) : Prop := ∃ fields, value = .obj fields

/- Something is said that is not of the kind that is asked for. -/
def SaysOther (kind : Json → Prop) (value : Option Json) : Prop :=
  ∃ said, value = some said ∧ said ≠ .null ∧ ¬ kind said

structure Reads (body : Json) (a : Announcement) : Prop where
  object : IsObject body
  name : SaysText (body.field? "node_name") a.name
  type : SaysText (body.field? "node_type") a.type
  key : SaysText (body.field? "instance_key") a.key
  host : (Unsaid (body.field? "host") ∧ a.host = none) ∨
    ∃ t, SaysText (body.field? "host") t ∧ a.host = some t
  port : (Absent (body.field? "port") ∧ a.port = none) ∨
    ∃ port : UInt16, body.field? "port" = some (.nat port.toNat) ∧ a.port = some port
  additional : (Absent (body.field? "additional") ∧ a.additional = none) ∨
    ∃ fields, body.field? "additional" = some (.obj fields) ∧ a.additional = some fields

inductive Offends (body : Json) : FieldProblem → Prop where
  | missing {field} (required : field ∈ requiredFields) (unsaid : Unsaid (body.field? field)) :
      Offends body ⟨field,.missing⟩
  | notText {field} (text : field ∈ requiredFields ∨ field = "host")
      (other : SaysOther IsText (body.field? field)) : Offends body ⟨field,.notText⟩
  | notPort (other : SaysOther IsPort (body.field? "port")) : Offends body ⟨"port",.notPort⟩
  | notObject (other : SaysOther IsObject (body.field? "additional")) :
      Offends body ⟨"additional",.notObject⟩

/- All that is wrong with an object is said, and nothing else, field by field in one order. -/
structure Lists (body : Json) (e : ValidationError) : Prop where
  order : e.fieldNames.Sublist fieldOrder
  once : e.fieldNames.Nodup
  each : ∀ p, p ∈ e.fields ↔ Offends body p
  missing : ∀ field ∈ requiredFields, ⟨field,.missing⟩ ∈ e.fields ↔ Unsaid (body.field? field)

variable {value : Option Json} {problem : Problem}

theorem nonBlankIff {s t : String} :
    Text.nonBlank? s = some t ↔ Text.Trims s t ∧ t ≠ "" := by
  simp only [Text.nonBlank?,Text.trimsIff]
  split
  · next none => simp [none]
  · next said =>
    rw [Option.some.injEq,eq_comm]
    exact ⟨fun same => ⟨same,same ▸ said⟩,And.left⟩

theorem nonBlankNone {s : String} : Text.nonBlank? s = none ↔ Text.Blank s.toList := by
  simp [Text.nonBlank?,Text.trimEmpty]

theorem requiredTextOk {t : String} : requiredText value = .ok t ↔ SaysText value t := by
  unfold requiredText SaysText
  split
  · simp
  · simp
  · next s =>
    cases said : Text.nonBlank? s with
    | none =>
      have silent : ¬ (Text.Trims s t ∧ t ≠ "") := by simp [← nonBlankIff,said]
      simpa using fun trims => not_not.mp fun some => silent ⟨trims,some⟩
    | some u => simp [← nonBlankIff,said]
  · next other => simp_all

theorem requiredTextError : requiredText value = .error problem ↔
    (problem = .missing ∧ Unsaid value) ∨ (problem = .notText ∧ SaysOther IsText value) := by
  unfold requiredText Unsaid Absent SaysOther IsText
  split
  · simp [eq_comm]
  · simp [eq_comm]
  · next s => cases said : Text.nonBlank? s <;> simp [← nonBlankNone,said,eq_comm]
  · next silent text => simp_all [eq_comm]

theorem optionalTextOk {host : Option String} : optionalText value = .ok host ↔
    (Unsaid value ∧ host = none) ∨ ∃ t, SaysText value t ∧ host = some t := by
  unfold optionalText Unsaid Absent SaysText
  split
  · simp [eq_comm]
  · simp [eq_comm]
  · next s => cases said : Text.nonBlank? s <;> simp [← nonBlankNone,← nonBlankIff,said,eq_comm]
  · simp_all

theorem optionalTextError : optionalText value = .error problem ↔
    problem = .notText ∧ SaysOther IsText value := by
  unfold optionalText SaysOther IsText
  split
  · simp
  · simp
  · simp
  · next silent text => simp_all [eq_comm]

theorem portSome {said : Json} {port : UInt16} :
    said.port? = some port ↔ said = .nat port.toNat := by
  simp only [Json.port?,Option.map_eq_some_iff]
  constructor
  · rintro ⟨n,within,same⟩
    unfold Json.within? at within
    split at within
    · next whole =>
      split at within
      · next fits =>
        cases within
        simp only [Bool.and_eq_true,decide_eq_true_eq] at fits
        have exact : (port.toNat : Int) = n := by
          rw [← same,UInt16.toNat_ofNat_of_lt' (by rw [UInt16.size]; omega)]
          omega
        rw [Json.nat,Json.int,exact]
      · simp at within
    · simp at within
  · rintro rfl
    have small := port.toNat_lt
    refine ⟨port.toNat,?_,by simp⟩
    simp only [Json.nat,Json.int,Json.within?]
    rw [if_pos (by simp; omega)]

theorem portNone {said : Json} : said.port? = none ↔ ¬ IsPort said := by
  rw [Option.eq_none_iff_forall_ne_some,IsPort]
  constructor
  · rintro none ⟨n,fits,rfl⟩
    refine none (.ofNat n) (portSome.mpr ?_)
    rw [UInt16.toNat_ofNat_of_lt' (by rw [UInt16.size]; omega)]
  · intro none port some
    have small := port.toNat_lt
    exact none ⟨port.toNat,by omega,portSome.mp some⟩

theorem optionalPortOk {port : Option UInt16} : optionalPort value = .ok port ↔
    (Absent value ∧ port = none) ∨
      ∃ p : UInt16, value = some (.nat p.toNat) ∧ port = some p := by
  unfold optionalPort Absent
  split
  · simp [eq_comm]
  · simp [eq_comm,Json.nat,Json.int]
  · next said silent =>
    have apart : said ≠ .null := silent
    cases read : said.port? with
    | none => simp [apart,← portSome,read]
    | some p => simp [apart,← portSome,read,eq_comm]

theorem optionalPortError : optionalPort value = .error problem ↔
    problem = .notPort ∧ SaysOther IsPort value := by
  unfold optionalPort SaysOther
  split
  · simp
  · simp
  · next said silent =>
    have apart : said ≠ .null := silent
    cases read : said.port? <;> simp [apart,← portNone,read,eq_comm]

theorem optionalObjectOk {additional : Option Additional} :
    optionalObject value = .ok additional ↔ (Absent value ∧ additional = none) ∨
      ∃ fields, value = some (.obj fields) ∧ additional = some fields := by
  unfold optionalObject Absent
  split <;> simp_all [eq_comm]

theorem optionalObjectError : optionalObject value = .error problem ↔
    problem = .notObject ∧ SaysOther IsObject value := by
  unfold optionalObject SaysOther IsObject
  split
  · simp
  · simp
  · simp
  · next silent object => simp_all [eq_comm]

theorem memProblemOf {α : Type} {field : String} {check : Except Problem α} {p : FieldProblem} :
    p ∈ problemOf field check ↔ p.field = field ∧ check = .error p.problem := by
  obtain ⟨other,problem⟩ := p
  cases check <;> simp [problemOf,eq_comm]

theorem problemOfNone {α : Type} {field : String} {check : Except Problem α} :
    problemOf field check = [] ↔ ∃ a, check = .ok a := by
  cases check <;> simp [problemOf]

theorem problemOfField {α : Type} (field : String) (check : Except Problem α) :
    ((problemOf field check).map (·.field)).Sublist [field] := by
  cases check <;> simp [problemOf]

def problems (fields : List (String × Json)) : List FieldProblem :=
  problemOf "node_name" (requiredText (Entries.find? "node_name" fields)) ++
    problemOf "node_type" (requiredText (Entries.find? "node_type" fields)) ++
    problemOf "instance_key" (requiredText (Entries.find? "instance_key" fields)) ++
    problemOf "host" (optionalText (Entries.find? "host" fields)) ++
    problemOf "port" (optionalPort (Entries.find? "port" fields)) ++
    problemOf "additional" (optionalObject (Entries.find? "additional" fields))

variable {fields : List (String × Json)}

theorem objectOk {a : Announcement} : ofJson (.obj fields) = .ok a ↔
    requiredText (Entries.find? "node_name" fields) = .ok a.name ∧
    requiredText (Entries.find? "node_type" fields) = .ok a.type ∧
    requiredText (Entries.find? "instance_key" fields) = .ok a.key ∧
    optionalText (Entries.find? "host" fields) = .ok a.host ∧
    optionalPort (Entries.find? "port" fields) = .ok a.port ∧
    optionalObject (Entries.find? "additional" fields) = .ok a.additional := by
  simp only [ofJson]
  constructor
  · intro taken
    split at taken
    · next name type key host port additional =>
      cases taken
      exact ⟨name,type,key,host,port,additional⟩
    · cases taken
  · rintro ⟨name,type,key,host,port,additional⟩
    simp only [name,type,key,host,port,additional]

theorem objectError {e : ValidationError} (refused : ofJson (.obj fields) = .error e) :
    e.fields = problems fields := by
  simp only [ofJson] at refused
  split at refused
  · cases refused
  · cases refused
    rfl

theorem problemsNone : problems fields = [] ↔ ∃ a, ofJson (.obj fields) = .ok a := by
  simp only [problems,List.append_eq_nil_iff,problemOfNone,objectOk]
  constructor
  · rintro ⟨⟨⟨⟨⟨⟨name,hn⟩,type,ht⟩,key,hk⟩,host,hh⟩,port,hp⟩,additional,ha⟩
    exact ⟨⟨name,type,key,host,port,additional⟩,hn,ht,hk,hh,hp,ha⟩
  · rintro ⟨a,name,type,key,host,port,additional⟩
    exact ⟨⟨⟨⟨⟨⟨_,name⟩,_,type⟩,_,key⟩,_,host⟩,_,port⟩,_,additional⟩

theorem problemsOrder (fields : List (String × Json)) :
    ((problems fields).map (·.field)).Sublist fieldOrder := by
  simp only [problems,List.map_append]
  exact ((((problemOfField ..).append (problemOfField ..)).append (problemOfField ..)).append
    (problemOfField ..)).append (problemOfField ..) |>.append (problemOfField ..)

theorem offendsRequired {body : Json} {field : String} (required : field ∈ requiredFields) :
    Offends body ⟨field,problem⟩ ↔ (problem = .missing ∧ Unsaid (body.field? field)) ∨
      (problem = .notText ∧ SaysOther IsText (body.field? field)) := by
  constructor
  · intro offends
    cases offends with
    | missing _ unsaid => exact .inl ⟨rfl,unsaid⟩
    | notText _ other => exact .inr ⟨rfl,other⟩
    | notPort => simp [requiredFields] at required
    | notObject => simp [requiredFields] at required
  · rintro (⟨rfl,unsaid⟩ | ⟨rfl,other⟩)
    · exact .missing required unsaid
    · exact .notText (.inl required) other

theorem memProblems {p : FieldProblem} : p ∈ problems fields ↔ Offends (.obj fields) p := by
  obtain ⟨field,problem⟩ := p
  simp only [problems,List.mem_append,memProblemOf,requiredTextError,optionalTextError,
    optionalPortError,optionalObjectError]
  constructor
  · rintro (((((⟨rfl,found⟩ | ⟨rfl,found⟩) | ⟨rfl,found⟩) | ⟨rfl,rfl,other⟩) | ⟨rfl,rfl,other⟩) |
      ⟨rfl,rfl,other⟩)
    · exact (offendsRequired (by simp [requiredFields])).mpr found
    · exact (offendsRequired (by simp [requiredFields])).mpr found
    · exact (offendsRequired (by simp [requiredFields])).mpr found
    · exact .notText (.inr rfl) other
    · exact .notPort other
    · exact .notObject other
  · intro offends
    by_cases required : field ∈ requiredFields
    · have found := (offendsRequired required).mp offends
      simp only [requiredFields,List.mem_cons,List.not_mem_nil,or_false] at required
      rcases required with rfl | rfl | rfl
      · exact .inl (.inl (.inl (.inl (.inl ⟨rfl,found⟩))))
      · exact .inl (.inl (.inl (.inl (.inr ⟨rfl,found⟩))))
      · exact .inl (.inl (.inl (.inr ⟨rfl,found⟩)))
    · cases offends with
      | missing here => exact absurd here required
      | notText text other =>
        cases text.resolve_left required
        exact .inl (.inl (.inr ⟨rfl,rfl,other⟩))
      | notPort other => exact .inl (.inr ⟨rfl,rfl,other⟩)
      | notObject other => exact .inr ⟨rfl,rfl,other⟩

theorem objectLists {e : ValidationError} (refused : ofJson (.obj fields) = .error e) :
    Lists (.obj fields) e := by
  have found := objectError refused
  have order : e.fieldNames.Sublist fieldOrder := by
    rw [ValidationError.fieldNames,found]
    exact problemsOrder fields
  have each (p : FieldProblem) : p ∈ e.fields ↔ Offends (.obj fields) p := by
    rw [found,memProblems]
  refine ⟨order,order.nodup (by decide),each,?_⟩
  intro field required
  rw [each,offendsRequired required]
  simp

theorem objectReads {a : Announcement} :
    ofJson (.obj fields) = .ok a ↔ Reads (.obj fields) a := by
  simp only [objectOk,requiredTextOk,optionalTextOk,optionalPortOk,optionalObjectOk]
  constructor
  · rintro ⟨name,type,key,host,port,additional⟩
    exact ⟨⟨fields,rfl⟩,name,type,key,host,port,additional⟩
  · rintro ⟨_,name,type,key,host,port,additional⟩
    exact ⟨name,type,key,host,port,additional⟩

theorem otherRefused {body : Json} (other : ¬ IsObject body) :
    ofJson body = .error (.single "body" .notObject) := by
  cases body with
  | obj fields => exact absurd ⟨fields,rfl⟩ other
  | _ => rfl

theorem takenReads {body : Json} {a : Announcement} (read : ofJson body = .ok a) : Reads body a := by
  by_cases object : IsObject body
  · obtain ⟨fields,rfl⟩ := object
    exact objectReads.mp read
  · rw [otherRefused object] at read
    cases read

theorem announceJsonRefused {reg : Registry} {now : Instant} {body : Json} {e : ValidationError}
    (refused : (reg.announceJson now body).1 = .error e) :
    ofJson body = .error e ∧ (reg.announceJson now body).2.1 = reg := by
  unfold Registry.announceJson at refused ⊢
  cases read : ofJson body with
  | error found =>
    rw [read] at refused
    cases refused
    exact ⟨rfl,rfl⟩
  | ok a =>
    rw [read] at refused
    cases refused

/-- A body is taken exactly where it is an object in which no field offends, and then it says what
is kept of it. One that is refused is told all its offending fields, or that it is no object at all,
and leaves the registry as it was. -/
theorem intakeExactly (body : Json) :
    (∀ a, ofJson body = .ok a ↔ Reads body a) ∧
    ((∃ a, ofJson body = .ok a) ↔ IsObject body ∧ ∀ p, ¬ Offends body p) ∧
    (∀ e, ofJson body = .error e →
      (¬ IsObject body → e = .single "body" .notObject) ∧ (IsObject body → Lists body e)) ∧
    ∀ (reg : Registry) now e, (reg.announceJson now body).1 = .error e →
      ofJson body = .error e ∧ (reg.announceJson now body).2.1 = reg := by
  by_cases object : IsObject body
  · obtain ⟨fields,rfl⟩ := object
    refine ⟨fun a => objectReads,?_,?_,fun reg now e => announceJsonRefused⟩
    · rw [← problemsNone,List.eq_nil_iff_forall_not_mem]
      simp only [memProblems]
      exact ⟨fun none => ⟨⟨fields,rfl⟩,none⟩,And.right⟩
    · exact fun e refused => ⟨fun other => absurd ⟨fields,rfl⟩ other,fun _ => objectLists refused⟩
  · have refused := otherRefused object
    refine ⟨fun a => ?_,?_,?_,fun reg now e => announceJsonRefused⟩
    · rw [refused]
      exact iff_of_false (by simp) fun reads => object reads.object
    · rw [refused]
      exact iff_of_false (by simp) fun acceptable => object acceptable.1
    · intro e again
      rw [refused] at again
      cases again
      exact ⟨fun _ => rfl,fun here => absurd here object⟩

example : (ofJson (.obj [("port",.int 70000),("node_name"," orb "),("node_type","\t"),
    ("instance_key",true)])).mapError ValidationError.fieldNames =
      .error ["node_type","instance_key","port"] := by rfl

end Announcement
end Muster
