import Muster.Proofs.Intake
import Muster.Proofs.Readiness
import Muster.Registry.Queries
/-! Which nodes a query finds. Query and name are put into lower case each by itself, and that of a
capital sigma depends on the letters next to it. A part of a name can therefore read otherwise by itself
than in the name; what follows says for which queries it never does, and that required nodes which are
there are found. -/
namespace Muster

namespace Text

/- What a part of a text stands in. What is before it is given from its end backwards. -/
structure Around where
  before : List Char
  after : List Char

namespace Around

def alone : Around := ⟨[],[]⟩

def past (s : Around) (c : Char) : Around := ⟨c :: s.before,s.after⟩

def final (s : Around) (left right : List Char) : Bool :=
  endsWord (left.reverse ++ s.before) (right ++ s.after)

theorem finalPast (s : Around) (c : Char) (left right : List Char) :
    (s.past c).final left right = s.final (c :: left) right := by
  simp [final,past]

end Around

def lowerWithin (s : Around) : List Char → List Char
  | [] => []
  | c :: rest =>
      (if c = 'Σ' then [if s.final [] rest then 'ς' else 'σ'] else lowerChar c) ++
        lowerWithin (s.past c) rest

variable {s t : Around} {c : Char} {part : List Char}

theorem lowerWithinAppend (s : Around) (left right : List Char) :
    lowerWithin s (left ++ right) = lowerWithin ⟨s.before,right ++ s.after⟩ left ++
      lowerWithin ⟨left.reverse ++ s.before,s.after⟩ right := by
  induction left generalizing s with
  | nil => rfl
  | cons c left ih =>
    simp only [List.cons_append,lowerWithin,ih,Around.past,Around.final,List.reverse_nil,
      List.nil_append,List.append_assoc,List.reverse_cons]
    rfl

theorem lowerAlone (part : List Char) : lowerChars part = lowerWithin .alone part := by
  have within (before : List Char) : lowerAfter before part = lowerWithin ⟨before,[]⟩ part := by
    induction part generalizing before with
    | nil => rfl
    | cons c rest ih => simp [lowerAfter,lowerWithin,Around.past,Around.final,ih]
  exact within []

theorem lowerPart (before part after : List Char) :
    lowerWithin ⟨before.reverse,after⟩ part <:+: lowerChars (before ++ part ++ after) := by
  rw [lowerAlone,lowerWithinAppend,lowerWithinAppend]
  refine ⟨lowerWithin ⟨[],part ++ after⟩ before,lowerWithin ⟨(before ++ part).reverse,[]⟩ after,?_⟩
  simp [Around.alone]

def AtSigmas (part : List Char) (P : List Char → List Char → Prop) : Prop :=
  ∀ left right, part = left ++ 'Σ' :: right → P left right

theorem atSigmasCons {P : List Char → List Char → Prop} : AtSigmas (c :: part) P ↔
    (c = 'Σ' → P [] part) ∧ AtSigmas part fun left right => P (c :: left) right := by
  constructor
  · intro all
    refine ⟨?_,fun left right span => all (c :: left) right (congrArg _ span)⟩
    rintro rfl
    exact all [] part rfl
  · rintro ⟨here,later⟩ left right span
    cases left with
    | nil => cases span; exact here rfl
    | cons b left => cases span; exact later left right rfl

def SameForms (s t : Around) (part : List Char) : Prop :=
  AtSigmas part fun left right => s.final left right = t.final left right

theorem sameFormsCons : SameForms s t (c :: part) ↔
    (c = 'Σ' → s.final [] part = t.final [] part) ∧ SameForms (s.past c) (t.past c) part := by
  simp only [SameForms,Around.finalPast]
  exact atSigmasCons

theorem lowerSame (same : SameForms s t part) : lowerWithin s part = lowerWithin t part := by
  induction part generalizing s t with
  | nil => rfl
  | cons c rest ih =>
    obtain ⟨here,later⟩ := sameFormsCons.mp same
    by_cases sigma : c = 'Σ'
    · simp only [lowerWithin,if_pos sigma,here sigma,ih later]
    · simp only [lowerWithin,if_neg sigma,ih later]

theorem countForm (final : Bool) :
    [if final then 'ς' else 'σ'].count 'ς' = final.toNat ∧
      [if final then 'ς' else 'σ'].count 'σ' = (!final).toNat := by
  cases final <;> decide

/- Where forms change in one direction only, the letters of each form tell. -/
theorem formsCounted
    (more : AtSigmas part fun left right => s.final left right = true → t.final left right = true) :
    SameForms s t part ∨
      ((lowerWithin s part).count 'ς' < (lowerWithin t part).count 'ς' ∧
        (lowerWithin t part).count 'σ' < (lowerWithin s part).count 'σ') := by
  induction part generalizing s t with
  | nil => exact .inl fun left right span => by simp at span
  | cons c rest ih =>
    obtain ⟨here,later⟩ := atSigmasCons.mp more
    simp only [← Around.finalPast] at later
    have tail := ih later
    rw [sameFormsCons]
    simp only [lowerWithin,List.count_append]
    by_cases sigma : c = 'Σ'
    · have front : s.final [] rest = t.final [] rest ∨
          (s.final [] rest = false ∧ t.final [] rest = true) := by
        have one := here sigma
        cases final : s.final [] rest <;> simp_all
      simp only [if_pos sigma,countForm]
      rcases front with form | ⟨no,yes⟩
      · rw [form]
        exact tail.imp (fun same => ⟨fun _ => rfl,same⟩) fun ⟨finals,others⟩ =>
          ⟨by omega,by omega⟩
      · rw [no,yes]
        simp only [Bool.toNat_true,Bool.toNat_false,Bool.not_true,Bool.not_false]
        rcases tail with same | ⟨finals,others⟩
        · rw [lowerSame same]
          exact .inr ⟨by omega,by omega⟩
        · exact .inr ⟨by omega,by omega⟩
    · simp only [if_neg sigma]
      exact tail.imp (fun same => ⟨fun here => absurd here sigma,same⟩) fun ⟨finals,others⟩ =>
        ⟨by omega,by omega⟩

def Ignorable (cs : List Char) : Prop := ∀ c ∈ cs, isCaseIgnorable c = true

theorem reachesPast {cs : List Char} (ignorable : Ignorable cs) (rest : List Char) :
    reachesCased (cs ++ rest) = reachesCased rest := by
  rw [reachesCased,List.dropWhile_append_of_pos ignorable,← reachesCased]

theorem reachesNone {cs : List Char} (ignorable : Ignorable cs) : reachesCased cs = false := by
  have past := reachesPast ignorable []
  rwa [List.append_nil] at past

theorem reachesWithin {cs : List Char} (stopped : ¬ Ignorable cs) (rest : List Char) :
    reachesCased (cs ++ rest) = reachesCased cs := by
  have left : cs.dropWhile isCaseIgnorable ≠ [] := fun none =>
    stopped (List.dropWhile_eq_nil_iff.mp none)
  obtain ⟨c,more,start⟩ := List.exists_cons_of_ne_nil left
  unfold reachesCased
  rw [List.dropWhile_append,start]
  rfl

theorem reachesStill {cs : List Char} (reaches : reachesCased cs = true) (rest : List Char) :
    reachesCased (cs ++ rest) = true := by
  have stopped : ¬ Ignorable cs := fun none => by simp [reachesNone none] at reaches
  rw [reachesWithin stopped,reaches]

def blankPoints : List Nat :=
  [0x9,0xA,0xB,0xC,0xD,0x20,0x85,0xA0,0x1680,0x2000,0x2001,0x2002,0x2003,0x2004,0x2005,0x2006,
    0x2007,0x2008,0x2009,0x200A,0x2028,0x2029,0x202F,0x205F,0x3000]

theorem blankListed {c : Char} (blank : isBlank c = true) : c.toNat ∈ blankPoints := by
  simp only [isBlank,Bool.or_eq_true,Bool.and_eq_true,decide_eq_true_eq,beq_iff_eq] at blank
  simp only [blankPoints,List.mem_cons,List.not_mem_nil,or_false]
  omega

theorem blankPlain {c : Char} (blank : isBlank c = true) :
    isCaseIgnorable c = false ∧ isCased c = false ∧ c ≠ 'Σ' ∧ lowerChar c = [c] := by
  have each : ∀ n ∈ blankPoints, isCaseIgnorable (.ofNat n) = false ∧ isCased (.ofNat n) = false ∧
      Char.ofNat n ≠ 'Σ' ∧ lowerChar (.ofNat n) = [.ofNat n] := by decide +kernel
  have own := each c.toNat (blankListed blank)
  rwa [Char.ofNat_toNat] at own

theorem reachesBlank {cs : List Char} (blank : Blank cs) : reachesCased cs = false := by
  cases cs with
  | nil => rfl
  | cons c rest =>
    obtain ⟨stops,uncased,_⟩ := blankPlain (blank c List.mem_cons_self)
    simp [reachesCased,stops,uncased]

theorem reachesEdge {cs blanks : List Char} (blank : Blank blanks) :
    reachesCased (cs ++ blanks) = reachesCased cs := by
  by_cases ignorable : Ignorable cs
  · rw [reachesPast ignorable,reachesNone ignorable,reachesBlank blank]
  · exact reachesWithin ignorable blanks

theorem lowerBlank {cs : List Char} (blank : Blank cs) (s : Around) : lowerWithin s cs = cs := by
  induction cs generalizing s with
  | nil => rfl
  | cons c rest ih =>
    obtain ⟨_,_,small,plain⟩ := blankPlain (blank c List.mem_cons_self)
    have later := ih fun b mem => blank b (List.mem_cons_of_mem _ mem)
    rw [lowerWithin,if_neg small,plain,later]
    rfl

theorem blankReverse {cs : List Char} (blank : Blank cs) : Blank cs.reverse :=
  fun c mem => blank c (List.mem_reverse.mp mem)

theorem lowerTrim (s : String) : ∃ front back, Blank front ∧ Blank back ∧
    lowerChars s.toList = front ++ lowerChars (trim s).toList ++ back := by
  obtain ⟨⟨front,back,span,start,stop⟩,_⟩ := trimsTrim s
  refine ⟨front,back,start,stop,?_⟩
  have same : SameForms ⟨front.reverse,back⟩ .alone (trim s).toList := by
    intro left right _
    simp only [Around.final,Around.alone,endsWord,reachesEdge (blankReverse start),
      reachesEdge stop,List.append_nil]
  rw [lowerAlone,span,lowerWithinAppend,lowerWithinAppend,lowerBlank start,lowerBlank stop,
    lowerAlone (trim s).toList]
  have middle := lowerSame same
  simpa [Around.alone] using middle

/- A capital sigma whose form hangs on what the text is put into. Nothing but ignorable characters
part it from an end of the text; at the start no letter may follow in its word, and at the end one has
to go before. -/
inductive Loose (cs : List Char) : Prop where
  | start {left right} (span : cs = left ++ 'Σ' :: right) (first : Ignorable left)
      (last : reachesCased right = false) : Loose cs
  | stop {left right} (span : cs = left ++ 'Σ' :: right)
      (word : reachesCased left.reverse = true) (last : Ignorable right) : Loose cs

theorem ignorableReverse {cs : List Char} : Ignorable cs.reverse ↔ Ignorable cs := by
  simp [Ignorable]

theorem steady {cs : List Char} (tight : ¬ Loose cs) (s : Around) : SameForms s .alone cs := by
  intro left right span
  simp only [Around.final,Around.alone,endsWord,List.append_nil]
  by_cases first : Ignorable left
  · have back := ignorableReverse.mpr first
    rw [reachesPast back,reachesNone back]
    cases follows : reachesCased right with
    | false => exact absurd (.start span first follows) tight
    | true =>
      have stopped : ¬ Ignorable right := fun none => by simp [reachesNone none] at follows
      rw [reachesWithin stopped,follows]
      simp
  · have back : ¬ Ignorable left.reverse := fun none => first (ignorableReverse.mp none)
    rw [reachesWithin back]
    by_cases last : Ignorable right
    · cases word : reachesCased left.reverse with
      | false => rfl
      | true => exact absurd (.stop span word last) tight
    · rw [reachesWithin last]

theorem letterReached : reachesCased ['a'] = true := by decide

theorem turnedBefore {cs left right : List Char} (span : cs = left ++ 'Σ' :: right)
    (first : Ignorable left) (last : reachesCased right = false) :
    (lowerChars (['a'] ++ cs)).count 'σ' < (lowerChars cs).count 'σ' := by
  have forms : AtSigmas cs fun left right =>
      Around.alone.final left right = true → (Around.mk ['a'] []).final left right = true := by
    intro left right _ final
    simp only [Around.final,Around.alone,endsWord,List.append_nil,Bool.and_eq_true] at final ⊢
    exact ⟨reachesStill final.1 _,final.2⟩
  have turned : ¬ SameForms .alone ⟨['a'],[]⟩ cs := by
    intro same
    have here := same left right span
    have back := ignorableReverse.mpr first
    simp [Around.final,Around.alone,endsWord,reachesPast back,reachesNone back,last,
      letterReached] at here
  obtain ⟨_,fewer⟩ := (formsCounted forms).resolve_left turned
  have text : lowerChars (['a'] ++ cs) = 'a' :: lowerWithin ⟨['a'],[]⟩ cs := by
    rw [lowerAlone,lowerWithinAppend]
    rfl
  rw [text,List.count_cons_of_ne (by decide),lowerAlone cs]
  exact fewer

theorem turnedAfter {cs left right : List Char} (span : cs = left ++ 'Σ' :: right)
    (word : reachesCased left.reverse = true) (last : Ignorable right) :
    (lowerChars (cs ++ ['a'])).count 'ς' < (lowerChars cs).count 'ς' := by
  have forms : AtSigmas cs fun left right =>
      (Around.mk [] ['a']).final left right = true → Around.alone.final left right = true := by
    intro left right _ final
    simp only [Around.final,Around.alone,endsWord,List.append_nil,Bool.and_eq_true,
      Bool.not_eq_true'] at final ⊢
    refine ⟨final.1,Bool.eq_false_iff.mpr fun reaches => ?_⟩
    rw [reachesStill reaches] at final
    exact absurd final.2 (by simp)
  have turned : ¬ SameForms ⟨[],['a']⟩ .alone cs := by
    intro same
    have here := same left right span
    simp [Around.final,Around.alone,endsWord,reachesPast last,reachesNone last,word,
      letterReached] at here
  obtain ⟨fewer,_⟩ := (formsCounted forms).resolve_left turned
  have text : lowerChars (cs ++ ['a']) = lowerWithin ⟨[],['a']⟩ cs ++ ['a'] := by
    rw [lowerAlone,lowerWithinAppend]
    rfl
  rw [text,List.count_append,lowerAlone cs]
  exact fewer

theorem looseTurned {cs : List Char} (loose : Loose cs) : ∃ before after letter,
    isBlank letter = false ∧ (lowerChars (before ++ cs ++ after)).count letter <
      (lowerChars cs).count letter := by
  cases loose with
  | start span first last =>
    refine ⟨['a'],[],'σ',by decide,?_⟩
    rw [List.append_nil]
    exact turnedBefore span first last
  | stop span word last => exact ⟨[],['a'],'ς',by decide,turnedAfter span word last⟩

theorem occursInIff {needle cs : List Char} : occursIn needle cs = true ↔ needle <:+: cs := by
  induction cs with
  | nil => simp [occursIn]
  | cons c rest ih =>
    rw [occursIn,Bool.or_eq_true,List.isPrefixOf_iff_prefix,ih,List.infix_cons_iff]

def ReadsIn (query text : List Char) : Prop :=
  ∃ before after, before ++ query ++ after = text ∧ SameForms ⟨before.reverse,after⟩ .alone query

theorem lowerReadsIn {query text : String} (reads : ReadsIn query.toList text.toList) :
    contains (lower text) (lower (trim query)) = true := by
  simp only [contains,lower,String.toList_ofList,occursInIff]
  obtain ⟨before,after,span,same⟩ := reads
  obtain ⟨front,back,_,_,trimmed⟩ := lowerTrim query
  have part := lowerPart before query.toList after
  rw [lowerSame same,← lowerAlone,trimmed,span] at part
  exact (List.infix_append _ _ _).trans part

theorem looseMissed {query : String} (loose : Loose query.toList) :
    ∃ text : String, query.toList <:+: text.toList ∧
      contains (lower text) (lower (trim query)) ≠ true := by
  obtain ⟨before,after,letter,solid,fewer⟩ := looseTurned loose
  obtain ⟨front,back,start,stop,trimmed⟩ := lowerTrim query
  have outside {blanks : List Char} (blank : Blank blanks) : blanks.count letter = 0 := by
    refine List.count_eq_zero.mpr fun mem => ?_
    have same := blank letter mem
    simp [solid] at same
  refine ⟨.ofList (before ++ query.toList ++ after),⟨before,after,by simp⟩,fun found => ?_⟩
  simp only [contains,lower,String.toList_ofList,occursInIff] at found
  have most := found.sublist.count_le letter
  rw [trimmed,List.count_append,List.count_append,outside start,outside stop] at fewer
  omega

end Text

namespace Registry
variable {reg : Registry} {now : Instant} {query : String} {r : NodeRecord}

theorem matchesReadsIn (reads : Text.ReadsIn query.toList r.name.toList ∨
    Text.ReadsIn query.toList r.type.toList) : matchesQuery query r = true := by
  rw [matchesQuery,Bool.or_eq_true]
  exact reads.imp Text.lowerReadsIn Text.lowerReadsIn

theorem discoverStored (mem : r ∈ reg.store.records) :
    reg.window.view now r ∈ reg.discover now query ↔ matchesQuery query r = true := by
  have listed : reg.window.view now r ∈ reg.list now := memList.mpr ⟨r,mem,rfl⟩
  rw [discover,List.mem_filter]
  exact and_iff_right listed

theorem discoverNamed {text : String}
    (all : ∀ (reg : Registry) (now : Instant), ∀ r ∈ reg.store.records,
      query.toList <:+: r.name.toList ∨ query.toList <:+: r.type.toList →
        reg.window.view now r ∈ reg.discover now query)
    (part : query.toList <:+: text.toList) :
    Text.contains (Text.lower text) (Text.lower (Text.trim query)) = true := by
  let record : NodeRecord := ⟨text,"","",none,none,none,.epoch,.epoch,1⟩
  let reg := Readiness.alone ⟨1,by decide,by decide⟩ record
  have stored : record ∈ reg.store.records := List.mem_singleton_self record
  have found := (discoverStored stored).mp (all reg .epoch record stored (.inl part))
  rw [matchesQuery,Bool.or_eq_true] at found
  refine found.elim id fun untyped => ?_
  have nothing := List.infix_nil.mp (Text.occursInIff.mp untyped)
  rw [Text.contains,nothing]
  exact Text.occursInIff.mpr List.nil_infix

/-- A query finds each node in whose name or type it reads as it does by itself, and it finds every
node of whose name or type it is a part exactly if no sigma in it is loose. -/
theorem discoverFindsParts (query : String) :
    (∀ (reg : Registry) (now : Instant), ∀ r ∈ reg.store.records,
      Text.ReadsIn query.toList r.name.toList ∨ Text.ReadsIn query.toList r.type.toList →
        reg.window.view now r ∈ reg.discover now query) ∧
    ((∀ (reg : Registry) (now : Instant), ∀ r ∈ reg.store.records,
      query.toList <:+: r.name.toList ∨ query.toList <:+: r.type.toList →
        reg.window.view now r ∈ reg.discover now query) ↔ ¬ Text.Loose query.toList) := by
  refine ⟨fun reg now r mem reads => (discoverStored mem).mpr (matchesReadsIn reads),?_,?_⟩
  · intro all loose
    obtain ⟨text,part,missed⟩ := Text.looseMissed loose
    exact missed (discoverNamed all part)
  · intro tight reg now r mem part
    have reads {text : List Char} (part : query.toList <:+: text) :
        Text.ReadsIn query.toList text := by
      obtain ⟨before,after,span⟩ := part
      exact ⟨before,after,span,Text.steady tight _⟩
    exact (discoverStored mem).mpr (matchesReadsIn (part.imp reads reads))

/- The sigma that ends the query is final there, and not in the name. -/
theorem sigmaLost :
    let reg := ((Registry.mk .empty ⟨10,by decide,by decide⟩ []).announce .epoch
      ⟨"ΟΔΟΣΑ","web","k1",none,none,none⟩).registry
    ∃ r ∈ reg.store.records, "ΟΔΟΣ".toList <:+: r.name.toList ∧
      reg.window.view .epoch r ∉ reg.discover .epoch "ΟΔΟΣ" := by
  intro reg
  let a : Announcement := ⟨"ΟΔΟΣΑ","web","k1",none,none,none⟩
  have stored : a.toRecord .epoch ∈ reg.store.records := List.mem_singleton_self _
  refine ⟨a.toRecord .epoch,stored,⟨[],['Α'],by decide⟩,?_⟩
  rw [discoverStored stored]
  decide +kernel

end Registry

theorem Text.wholeFound {text query : String} (same : lower text = lower query) :
    contains (lower text) (lower (trim query)) = true := by
  obtain ⟨front,back,_,_,trimmed⟩ := lowerTrim query
  rw [same]
  simp only [contains,lower,String.toList_ofList,occursInIff]
  exact ⟨front,back,trimmed.symm⟩

namespace Registry
variable {reg : Registry} {now : Instant} {r : Requirement}

theorem readyAlone : (reg.readinessFor now [r]).ready = true ↔ r.MetAt reg now := by
  rw [(Readiness.exactAlone reg now r).ready]
  simp

theorem discoverSource {query : String} {view : NodeView} (found : view ∈ reg.discover now query) :
    ∃ record ∈ reg.store.records, reg.window.view now record = view :=
  memList.mp (List.mem_filter.mp found).1

theorem metDiscovered {query : String}
    (finds : ∀ record, r.Names record → matchesQuery query record = true) :
    r.MetAt reg now ↔
      ∃ view ∈ reg.discover now query, view.status = .online ∧ r.Names view.record := by
  constructor
  · rintro ⟨record,stored,online,names⟩
    have found : reg.window.view now record ∈ reg.discover now query :=
      (discoverStored stored).mpr (finds record names)
    exact ⟨reg.window.view now record,found,online,names⟩
  · rintro ⟨view,found,online,names⟩
    obtain ⟨record,stored,rfl⟩ := discoverSource found
    exact ⟨record,stored,online,names⟩

theorem lookupAlone (reg : Registry) (now : Instant) (key : String) :
    reg.lookup now [key] = ((reg.store.get? key).map (reg.window.view now)).toList := by
  have asked : Store.distinct [key] = [key] := by simp [Store.distinct,Store.distinctAfter]
  rw [lookup,Store.lookup,asked,views]
  cases found : reg.store.get? key <;> simp [found]

theorem metLookedUp {key : String} : (Requirement.key key).MetAt reg now ↔
    ∃ view, reg.lookup now [key] = [view] ∧ view.status = .online := by
  rw [lookupAlone]
  constructor
  · rintro ⟨record,stored,online,own⟩
    have found : reg.store.get? key = some record := own ▸ Store.memRecords.mp stored
    exact ⟨reg.window.view now record,by rw [found]; rfl,online⟩
  · rintro ⟨view,single,online⟩
    cases found : reg.store.get? key with
    | none => simp [found] at single
    | some record =>
      rw [found] at single
      cases single
      exact ⟨record,Store.memOfGet found,online,Store.keyOfGet found⟩

/-- A required name is there exactly if a search for it gives an online node of that name, whatever
else is found, and so is a required type; a required key is there exactly if a lookup of it gives
one node that is online. -/
theorem requiredFound (reg : Registry) (now : Instant) (value : String) :
    ((reg.readinessFor now [.name value]).ready = true ↔ ∃ view ∈ reg.discover now value,
      view.status = .online ∧ Text.lower view.record.name = Text.lower value) ∧
    ((reg.readinessFor now [.type value]).ready = true ↔ ∃ view ∈ reg.discover now value,
      view.status = .online ∧ Text.lower view.record.type = Text.lower value) ∧
    ((reg.readinessFor now [.key value]).ready = true ↔
      ∃ view, reg.lookup now [value] = [view] ∧ view.status = .online) := by
  refine ⟨readyAlone.trans (metDiscovered ?_),readyAlone.trans (metDiscovered ?_),
    readyAlone.trans metLookedUp⟩
  · intro record named
    rw [matchesQuery,Text.wholeFound named,Bool.true_or]
  · intro record typed
    rw [matchesQuery,Text.wholeFound typed,Bool.or_true]

end Registry
end Muster
