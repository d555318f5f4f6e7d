import Mathlib.Data.List.Basic
import Mathlib.Data.List.TakeWhile
import Muster.Json
import Muster.Proofs.Numbers
/-! Documents by the grammar of JSON. The reader takes each of them for what it spells, unless lists and
objects are nested deeper in it than the reader goes. The numbers are the whole ones of 64 bits with a sign;
a zero behind a minus is a real one and is left out. -/
namespace Muster.Json
open Decimal (isDigit digitValue AllDigits)
variable {cs ds rest : List Char} {fuel depth : Nat}

def Blank (cs : List Char) : Prop := ∀ c ∈ cs, c ∈ [' ','\n','\r','\t']

def Hex (n : Nat) (c : Char) : Prop :=
  "0123456789abcdef".toList[n]? = some c ∨ "0123456789ABCDEF".toList[n]? = some c

def UnitText (u : Nat) (cs : List Char) : Prop :=
  ∃ a b c d, Hex (u / 0x1000) a ∧ Hex (u / 0x100 % 0x10) b ∧ Hex (u / 0x10 % 0x10) c ∧
    Hex (u % 0x10) d ∧ cs = ['\\','u',a,b,c,d]

def escapes : List (Char × Char) :=
  [('"','"'),('\\','\\'),('/','/'),('b','\x08'),('f','\x0c'),('n','\n'),('r','\r'),('t','\t')]

/- A character within quotes: as itself, escaped, or by its one or two units of 16 bits. -/
inductive Letter (c : Char) : List Char → Prop where
  | plain (printed : 0x20 ≤ c.toNat) (quote : c ≠ '"') (slash : c ≠ '\\') : Letter c [c]
  | escaped {e : Char} (known : (e,c) ∈ escapes) : Letter c ['\\',e]
  | unit {cs : List Char} (one : c.toNat < 0x10000) (coded : UnitText c.toNat cs) : Letter c cs
  | pair {cs ds : List Char} (two : 0x10000 ≤ c.toNat)
      (high : UnitText (0xD800 + (c.toNat - 0x10000) / 0x400) cs)
      (low : UnitText (0xDC00 + (c.toNat - 0x10000) % 0x400) ds) : Letter c (cs ++ ds)

inductive Letters : List Char → List Char → Prop where
  | nil : Letters [] []
  | cons {c : Char} {s cs ds : List Char} (first : Letter c cs) (others : Letters s ds) :
      Letters (c :: s) (cs ++ ds)

def Plain (c : Char) : Prop := 0x20 ≤ c.toNat ∧ c ≠ '"' ∧ c ≠ '\\'

theorem lettersPlain {s : List Char} (plain : ∀ c ∈ s, Plain c) : Letters s s := by
  induction s with
  | nil => exact .nil
  | cons c s ih =>
    obtain ⟨⟨printed,quote,slash⟩,behind⟩ := List.forall_mem_cons.mp plain
    exact .cons (.plain printed quote slash) (ih behind)

theorem hexValue {n : Nat} {c : Char} (hex : Hex n c) : hexValue? c = some n := by
  have small : n < 16 := by
    rcases hex with lower | upper
    · exact (List.getElem?_eq_some_iff.mp lower).1
    · exact (List.getElem?_eq_some_iff.mp upper).1
  have all : ∀ n < 16, ∀ digits ∈ ["0123456789abcdef","0123456789ABCDEF"],
      (digits.toList[n]?.bind hexValue?) = some n := by decide +kernel
  rcases hex with lower | upper
  · have read := all n small "0123456789abcdef" (by decide)
    rwa [lower] at read
  · have read := all n small "0123456789ABCDEF" (by decide)
    rwa [upper] at read

theorem unitRead {u : Nat} (coded : UnitText u cs) :
    ∃ digits, cs = '\\' :: 'u' :: digits ∧ ∀ rest, unit? (digits ++ rest) = some (u,rest) := by
  obtain ⟨a,b,c,d,first,second,third,last,same⟩ := coded
  refine ⟨[a,b,c,d],same,fun rest => ?_⟩
  simp only [List.cons_append,List.nil_append,unit?,hexValue first,hexValue second,hexValue third,
    hexValue last,bind,Option.bind_some,Option.some.injEq,Prod.mk.injEq,and_true]
  omega

theorem charBounds (c : Char) : c.toNat < 0xD800 ∨ 0xDFFF < c.toNat ∧ c.toNat < 0x110000 := c.valid

theorem unicodeUnit {c : Char} (one : c.toNat < 0x10000) (coded : UnitText c.toNat cs) :
    ∃ digits, cs = '\\' :: 'u' :: digits ∧ ∀ rest, unicode? (digits ++ rest) = some (c,rest) := by
  have valid := charBounds c
  obtain ⟨digits,same,read⟩ := unitRead coded
  have plain : ¬ (0xDC00 ≤ c.toNat ∧ c.toNat ≤ 0xDFFF) := by omega
  have single : ¬ (0xD800 ≤ c.toNat ∧ c.toNat ≤ 0xDBFF) := by omega
  exact ⟨digits,same,fun rest => by simp [unicode?,read,plain,single]⟩

theorem unicodePair {c : Char} {high low : Nat} (first : 0xD800 ≤ high ∧ high ≤ 0xDBFF)
    (second : 0xDC00 ≤ low ∧ low ≤ 0xDFFF)
    (whole : c.toNat = 0x10000 + (high - 0xD800) * 0x400 + (low - 0xDC00))
    (here : UnitText high cs) (behind : UnitText low ds) :
    ∃ digits, cs ++ ds = '\\' :: 'u' :: digits ∧
      ∀ rest, unicode? (digits ++ rest) = some (c,rest) := by
  obtain ⟨digits,same,read⟩ := unitRead here
  obtain ⟨others,follows,next⟩ := unitRead behind
  have single : ¬ (0xDC00 ≤ high ∧ high ≤ 0xDFFF) := by omega
  refine ⟨digits ++ '\\' :: 'u' :: others,by simp [same,follows],fun rest => ?_⟩
  simp [unicode?,read,next,single,first,second,← whole]

theorem letterRead {c : Char} (letter : Letter c cs) (seen rest : List Char) :
    text? (fuel + 1) seen (cs ++ rest) = text? fuel (c :: seen) rest := by
  cases letter with
  | plain printed quote slash =>
    simp [text?,slash,Nat.not_lt.mpr printed]
  | @escaped e known =>
    have all : ∀ known ∈ escapes, known.1 ≠ 'u' ∧ simpleEscape? known.1 = some known.2 := by decide
    obtain ⟨notUnit,escape⟩ := all _ known
    simp [text?,escape]
  | unit one coded =>
    obtain ⟨digits,same,read⟩ := unicodeUnit one coded
    simp [same,text?,read]
  | pair two high low =>
    have valid := charBounds c
    obtain ⟨digits,same,read⟩ :=
      unicodePair (c := c) (by omega) (by omega) (by omega) high low
    simp [same,text?,read]

theorem letterLength {c : Char} (letter : Letter c cs) : 1 ≤ cs.length := by
  cases letter with
  | plain => simp
  | escaped => simp
  | unit one coded =>
    obtain ⟨a,b,c,d,_,_,_,_,same⟩ := coded
    simp [same]
  | pair two high =>
    obtain ⟨a,b,c,d,_,_,_,_,same⟩ := high
    simp [same]

theorem lettersRead {s : List Char} (letters : Letters s cs) (enough : cs.length < fuel)
    (seen rest : List Char) :
    text? fuel seen (cs ++ '"' :: rest) = some (String.ofList (seen.reverse ++ s),rest) := by
  induction letters generalizing fuel seen with
  | nil =>
    cases fuel with
    | zero => omega
    | succ fuel => simp [text?]
  | @cons c s cs ds first others ih =>
    have some := letterLength first
    rw [List.length_append] at enough
    cases fuel with
    | zero => omega
    | succ fuel =>
      rw [List.append_assoc,letterRead first,ih (by omega)]
      simp

/- What may follow a value: the end, a blank, or what parts and closes lists and objects. -/
def Stops (rest : List Char) : Prop := ∀ c ∈ rest.head?, c ∈ [' ','\n','\r','\t',',',']','\x7d']

theorem figuresDigits (n : Nat) : AllDigits (Nat.toDigits 10 n) :=
  fun _ inside => Nat.isDigit_of_mem_toDigits (by decide) (by decide) inside

theorem figuresSome (n : Nat) : Nat.toDigits 10 n ≠ [] :=
  List.ne_nil_of_length_pos Nat.length_toDigits_pos

theorem figuresUnsigned (n : Nat) : Nat.toDigits 10 n ++ rest ≠ '-' :: tail := by
  intro same
  have head := congrArg List.head? same
  rw [List.head?_append_of_ne_nil _ (figuresSome n)] at head
  exact absurd (figuresDigits n '-' (List.mem_of_head? head)) (by decide)

theorem figuresLead {n : Nat} (positive : 0 < n) : (Nat.toDigits 10 n).head? ≠ some '0' := by
  induction n using Nat.strongRecOn with
  | ind n ih =>
    by_cases small : n < 10
    · rw [Nat.toDigits_of_lt_base small]
      have lead : ∀ n < 10, 0 < n → Nat.digitChar n ≠ '0' := by decide
      simpa using lead n small positive
    · rw [Nat.toDigits_of_base_le (by decide) (by omega),
        List.head?_append_of_ne_nil _ (figuresSome _)]
      exact ih (n / 10) (by omega) (by omega)

theorem figuresPlain (n : Nat) :
    ((Nat.toDigits 10 n).head? == some '0' && (Nat.toDigits 10 n).length != 1) = false := by
  rcases Nat.eq_zero_or_pos n with zero | positive
  · subst zero; decide
  · rw [beq_false_of_ne (figuresLead positive),Bool.false_and]

theorem absorbAll (significand : Nat) (cs : List Char)
    (fits : cs.foldl (fun n d => 10 * n + digitValue d) significand < UInt64.size) :
    absorb significand cs = (cs.foldl (fun n d => 10 * n + digitValue d) significand,[]) := by
  have grows (start : Nat) (cs : List Char) :
      start ≤ cs.foldl (fun n d => 10 * n + digitValue d) start := by
    induction cs generalizing start with
    | nil => exact Nat.le_refl _
    | cons d cs ih =>
      rw [List.foldl_cons]
      exact Nat.le_trans (by omega) (ih _)
  induction cs generalizing significand with
  | nil => rfl
  | cons d cs ih =>
    rw [List.foldl_cons] at fits ⊢
    have next := Nat.lt_of_le_of_lt (grows _ cs) fits
    rw [absorb]
    simp only [if_pos next]
    exact ih _ fits

theorem figuresAbsorbed {n : Nat} (fits : n < UInt64.size) :
    absorb 0 (Nat.toDigits 10 n) = (n,[]) := by
  have value : (Nat.toDigits 10 n).foldl (fun n d => 10 * n + digitValue d) 0 = n :=
    Nat.ofDigitChars_toDigits (by decide) (by decide)
  rw [absorbAll 0 _ (value.symm ▸ fits),value]

theorem exponentNone (stops : Stops rest) : exponent? rest = some (none,rest) := by
  cases rest with
  | nil => rfl
  | cons c rest =>
    have mark := stops c rfl
    have plain : ¬ (c = 'e' ∨ c = 'E') := by
      intro letter
      rcases letter with same | same <;> simp [same] at mark
    simp [exponent?,plain]

theorem stopsDigits (stops : Stops rest) : ∀ c ∈ rest.head?, isDigit c = false ∧ c ≠ '.' := by
  have all : ∀ c ∈ [' ','\n','\r','\t',',',']','\x7d'], isDigit c = false ∧ c ≠ '.' := by
    simp [isDigit]
  exact fun c first => all c (stops c first)

theorem wholeText (n : Int) : ∃ negative : Bool,
    (toString n).toList = (if negative then ['-'] else []) ++ Nat.toDigits 10 n.natAbs ∧
      n = (if negative then -(n.natAbs : Int) else n.natAbs) ∧ (negative = true → n ≠ 0) := by
  cases n with
  | ofNat m => exact ⟨false,Nat.toList_repr,rfl,Bool.noConfusion⟩
  | negSucc m =>
    refine ⟨true,?_,rfl,fun _ => Int.negSucc_ne_zero m⟩
    change ("-" ++ Nat.repr (m + 1)).toList = _
    rw [String.toList_append,Nat.toList_repr]
    rfl

theorem wholeRead {n : Int} (least : Int64.minValue.toInt ≤ n) (most : n ≤ Int64.maxValue.toInt)
    (stops : Stops rest) : number? ((toString n).toList ++ rest) = some (.whole n,rest) := by
  have ends := stopsDigits stops
  have figures := figuresDigits n.natAbs
  obtain ⟨here,behind⟩ := Text.spanExact figures fun c first => (ends c first).1
  obtain ⟨negative,text,value,nonzero⟩ := wholeText n
  have low : Int64.minValue.toInt = -9223372036854775808 := by decide
  have high : Int64.maxValue.toInt = 9223372036854775807 := by decide
  have small : n.natAbs < UInt64.size := by
    have size : UInt64.size = 18446744073709551616 := rfl
    omega
  have absorbed := figuresAbsorbed small
  rw [text]
  unfold number?
  split
  next minus cs parts =>
  have signed : minus = negative ∧ cs = Nat.toDigits 10 n.natAbs ++ rest := by
    cases negative with
    | true =>
      cases parts
      exact ⟨rfl,rfl⟩
    | false =>
      simp only [Bool.false_eq_true,if_false,List.nil_append] at parts
      split at parts
      · next tail same => exact absurd same (figuresUnsigned n.natAbs)
      · cases parts
        exact ⟨rfl,rfl⟩
  obtain ⟨rfl,rfl⟩ := signed
  simp only [here,behind,absorbed,figuresPlain]
  split
  · next unread => simp at unread
  · split
    · next tail => exact absurd rfl (ends '.' rfl).2
    · have counted : minus = false ∨ n.natAbs ≠ 0 := by
        cases minus with
        | true => exact .inr (Int.natAbs_ne_zero.mpr (nonzero rfl))
        | false => exact .inl rfl
      have reached : ¬ -(n.natAbs : Int) < Int64.minValue.toInt := by omega
      simp only [exponentNone stops,bind,Option.bind_some,absorb]
      rw [← value]
      refine if_pos ?_
      simp only [Bool.not_false,Option.isNone_none,List.isEmpty_nil,Bool.true_and,Bool.and_eq_true,
        Bool.not_eq_true',Bool.and_eq_false_iff,beq_eq_false_iff_ne]
      exact ⟨counted,.inr (decide_eq_false reached)⟩

/- What a part of a document spells: a value, alone or between blanks, the items of a list or the fields of
an object. -/
inductive Part where
  | value (v : Json)
  | element (v : Json)
  | items (vs : List Json)
  | fields (pairs : List (String × Json))

def KeyText (key : String) (cs : List Char) : Prop :=
  ∃ before letters after, Blank before ∧ Letters key.toList letters ∧ Blank after ∧
    cs = before ++ '"' :: (letters ++ '"' :: (after ++ [':']))

theorem keyPlain {key : String} (plain : ∀ c ∈ key.toList, Plain c) :
    KeyText key ('"' :: (key.toList ++ ['"',':'])) :=
  ⟨[],_,[],by simp [Blank],lettersPlain plain,by simp [Blank],rfl⟩

/- How a part of a document is written, and how deep lists and objects are nested in it. Of a repeated key
the last value stands. -/
inductive Spells : Nat → Part → List Char → Prop where
  | null : Spells 0 (.value .null) "null".toList
  | yes : Spells 0 (.value (.bool true)) "true".toList
  | no : Spells 0 (.value (.bool false)) "false".toList
  | int {n : Int} (least : Int64.minValue.toInt ≤ n) (most : n ≤ Int64.maxValue.toInt) :
      Spells 0 (.value (.int n)) (toString n).toList
  | str {s : String} {cs : List Char} (letters : Letters s.toList cs) :
      Spells 0 (.value (.str s)) ('"' :: (cs ++ ['"']))
  | emptyArr {blank : List Char} (blanks : Blank blank) :
      Spells 1 (.value (.arr [])) ('[' :: (blank ++ [']']))
  | arr {n : Nat} {vs : List Json} {cs : List Char} (items : Spells n (.items vs) cs) :
      Spells (n + 1) (.value (.arr vs)) ('[' :: (cs ++ [']']))
  | emptyObj {blank : List Char} (blanks : Blank blank) :
      Spells 1 (.value (.obj [])) ('\x7b' :: (blank ++ ['\x7d']))
  | obj {n : Nat} {pairs : List (String × Json)} {cs : List Char}
      (fields : Spells n (.fields pairs) cs) :
      Spells (n + 1) (.value (.obj (Entries.ofPairs pairs))) ('\x7b' :: (cs ++ ['\x7d']))
  | element {n : Nat} {v : Json} {before cs after : List Char} (left : Blank before)
      (right : Blank after) (value : Spells n (.value v) cs) :
      Spells n (.element v) (before ++ (cs ++ after))
  | item {n : Nat} {v : Json} {cs : List Char} (value : Spells n (.element v) cs) :
      Spells n (.items [v]) cs
  | items {m n : Nat} {v : Json} {vs : List Json} {cs ds : List Char}
      (value : Spells m (.element v) cs) (others : Spells n (.items vs) ds) :
      Spells (max m n) (.items (v :: vs)) (cs ++ ',' :: ds)
  | field {n : Nat} {key : String} {v : Json} {ks cs : List Char} (named : KeyText key ks)
      (value : Spells n (.element v) cs) : Spells n (.fields [(key,v)]) (ks ++ cs)
  | fields {m n : Nat} {key : String} {v : Json} {pairs : List (String × Json)}
      {ks cs ds : List Char} (named : KeyText key ks) (value : Spells m (.element v) cs)
      (others : Spells n (.fields pairs) ds) :
      Spells (max m n) (.fields ((key,v) :: pairs)) (ks ++ (cs ++ ',' :: ds))

variable {v : Json} {seen : List Json} {object : List (String × Json)}

theorem skipBlank (blank : Blank cs) (rest : List Char) : skip (cs ++ rest) = skip rest := by
  have all : ∀ c ∈ [' ','\n','\r','\t'], isSpace c = true := by simp [isSpace]
  exact List.dropWhile_append_of_pos fun c inside => all c (blank c inside)

theorem skipSkip (cs : List Char) : skip (skip cs) = skip cs := by
  induction cs with
  | nil => rfl
  | cons c rest ih =>
    unfold skip at ih ⊢
    rw [List.dropWhile_cons]
    split
    · exact ih
    · next solid => rw [List.dropWhile_cons,if_neg solid]

theorem valueSkip (fuel depth : Nat) (cs : List Char) :
    value? fuel depth (skip cs) = value? fuel depth cs := by
  cases fuel with
  | zero => rfl
  | succ fuel => simp only [value?,skipSkip]

theorem itemsSkip (fuel depth : Nat) (seen : List Json) (cs : List Char) :
    items? fuel depth seen (skip cs) = items? fuel depth seen cs := by
  cases fuel with
  | zero => rfl
  | succ fuel => simp only [items?,valueSkip]

theorem fieldsSkip (fuel depth : Nat) (object : List (String × Json)) (cs : List Char) :
    fields? fuel depth object (skip cs) = fields? fuel depth object cs := by
  cases fuel with
  | zero => rfl
  | succ fuel => simp only [fields?,skipSkip]

theorem arrOpened (opened : (skip cs).head? ≠ some ']') :
    value? (fuel + 1) (depth + 2) ('[' :: cs) = items? fuel (depth + 1) [] cs := by
  have bracket : skip ('[' :: cs) = '[' :: cs := rfl
  rw [← itemsSkip]
  simp only [value?,bracket,Char.reduceEq,if_true,if_false,Nat.reduceLeDiff,Nat.add_one_sub_one]
  split
  · next same => simp [same] at opened
  · rfl

theorem objOpened (opened : (skip cs).head? ≠ some '\x7d') :
    value? (fuel + 1) (depth + 2) ('\x7b' :: cs) = fields? fuel (depth + 1) [] cs := by
  have brace : skip ('\x7b' :: cs) = '\x7b' :: cs := rfl
  rw [← fieldsSkip]
  simp only [value?,brace,Char.reduceEq,if_true,if_false,Nat.reduceLeDiff,Nat.add_one_sub_one]
  split
  · next same => simp [same] at opened
  · rfl

theorem itemLast {after : List Char} (read : value? fuel depth cs = some (v,after ++ ']' :: rest))
    (blank : Blank after) : items? (fuel + 1) depth seen cs = some (.arr (v :: seen).reverse,rest) := by
  have closed : skip (']' :: rest) = ']' :: rest := rfl
  simp only [items?,read,skipBlank blank,closed]

theorem itemNext {after : List Char} (read : value? fuel depth cs = some (v,after ++ ',' :: rest))
    (blank : Blank after) : items? (fuel + 1) depth seen cs = items? fuel depth (v :: seen) rest := by
  have comma : skip (',' :: rest) = ',' :: rest := rfl
  simp only [items?,read,skipBlank blank,comma]

theorem itemNone (refused : value? fuel depth cs = none) : items? (fuel + 1) depth seen cs = none := by
  simp only [items?,refused]

section
variable {key : String} {ks after : List Char}

theorem keyRead (named : KeyText key ks) (cs : List Char) : ∃ quoted after,
    skip (ks ++ cs) = '"' :: quoted ∧ Blank after ∧
      text? (quoted.length + 1) [] quoted = some (key,after ++ ':' :: cs) := by
  obtain ⟨before,letters,after,left,spelled,right,same⟩ := named
  refine ⟨letters ++ '"' :: (after ++ ':' :: cs),after,?_,right,?_⟩
  · rw [same,List.append_assoc,skipBlank left]
    simp [skip,isSpace]
  · rw [lettersRead spelled (by simp only [List.length_append,List.length_cons]; omega)]
    simp

theorem fieldLast (named : KeyText key ks)
    (read : value? fuel depth cs = some (v,after ++ '\x7d' :: rest)) (blank : Blank after) :
    fields? (fuel + 1) depth object (ks ++ cs) = some (.obj (Entries.put key v object),rest) := by
  obtain ⟨quoted,between,opened,right,name⟩ := keyRead named cs
  have colon : skip (':' :: cs) = ':' :: cs := rfl
  have closed : skip ('\x7d' :: rest) = '\x7d' :: rest := rfl
  simp only [fields?,opened,name,skipBlank right,colon,read,skipBlank blank,closed]

theorem fieldNext (named : KeyText key ks)
    (read : value? fuel depth cs = some (v,after ++ ',' :: rest)) (blank : Blank after) :
    fields? (fuel + 1) depth object (ks ++ cs) =
      fields? fuel depth (Entries.put key v object) rest := by
  obtain ⟨quoted,between,opened,right,name⟩ := keyRead named cs
  have colon : skip (':' :: cs) = ':' :: cs := rfl
  have comma : skip (',' :: rest) = ',' :: rest := rfl
  simp only [fields?,opened,name,skipBlank right,colon,read,skipBlank blank,comma]

theorem fieldNone (named : KeyText key ks) (refused : value? fuel depth cs = none) :
    fields? (fuel + 1) depth object (ks ++ cs) = none := by
  obtain ⟨quoted,between,opened,right,name⟩ := keyRead named cs
  have colon : skip (':' :: cs) = ':' :: cs := rfl
  simp only [fields?,opened,name,skipBlank right,colon,refused]

end

def Opens (cs : List Char) : Prop := ∃ c tail, cs = c :: tail ∧ isSpace c = false ∧ c ≠ ']'

theorem markOpens {c : Char} (mark : c ∈ ['"','[','\x7b','n','t','f']) (cs : List Char) : Opens (c :: cs) := by
  have solid : isSpace c = false ∧ c ≠ ']' := by
    simp only [List.mem_cons,List.not_mem_nil,or_false] at mark
    obtain rfl | rfl | rfl | rfl | rfl | rfl := mark <;> decide
  exact ⟨c,cs,rfl,solid⟩

/- A part is read as what it spells, unless it is nested too deep. -/
def Taken (n : Nat) (cs : List Char) : Part → Prop
  | .value v => Opens cs ∧ ∀ fuel depth rest, 2 * cs.length ≤ fuel + 1 → Stops rest →
      value? (fuel + 1) (depth + 1) (cs ++ rest) = if n ≤ depth then some (v,rest) else none
  | .element v => (∀ rest, (skip (cs ++ rest)).head? ≠ some ']') ∧ ∃ after, Blank after ∧
      ∀ fuel depth rest, 2 * cs.length ≤ fuel → Stops rest →
        value? fuel (depth + 1) (cs ++ rest) = if n ≤ depth then some (v,after ++ rest) else none
  | .items vs => (∀ rest, (skip (cs ++ rest)).head? ≠ some ']') ∧
      ∀ fuel depth seen rest, 2 * cs.length ≤ fuel →
        items? (fuel + 1) (depth + 1) seen (cs ++ ']' :: rest) =
          if n ≤ depth then some (.arr (seen.reverse ++ vs),rest) else none
  | .fields pairs => (∀ rest, (skip (cs ++ rest)).head? ≠ some '\x7d') ∧
      ∀ fuel depth object rest, 2 * cs.length ≤ fuel →
        fields? (fuel + 1) (depth + 1) object (cs ++ '\x7d' :: rest) =
          if n ≤ depth then
            some (.obj (pairs.foldl (fun object (key,v) => Entries.put key v object) object),rest)
          else none

theorem wholeFirst (n : Int) :
    ∃ c cs, (toString n).toList = c :: cs ∧ (c = '-' ∨ isDigit c = true) := by
  obtain ⟨negative,text,_⟩ := wholeText n
  rw [text]
  cases negative with
  | true => exact ⟨_,_,rfl,.inl rfl⟩
  | false =>
    cases figures : Nat.toDigits 10 n.natAbs with
    | nil => exact absurd figures (figuresSome _)
    | cons c cs => exact ⟨c,cs,rfl,.inr (figuresDigits n.natAbs c (figures ▸ List.mem_cons_self))⟩

theorem numberFirst {c : Char} (first : c = '-' ∨ isDigit c = true) :
    isSpace c = false ∧ c ∉ ['"','[',']','\x7b','n','t','f'] := by
  rcases first with minus | digit
  · subst minus; decide
  · constructor
    · cases space : isSpace c with
      | false => rfl
      | true =>
        simp only [isSpace,Bool.or_eq_true,decide_eq_true_eq] at space
        rcases space with ((same | same) | same) | same <;> simp [same,isDigit] at digit
    · intro inside
      have none : ∀ c ∈ ['"','[',']','\x7b','n','t','f'], isDigit c = false := by simp [isDigit]
      rw [none c inside] at digit
      cases digit

theorem numberTaken {c : Char} {n : Number} (first : c = '-' ∨ isDigit c = true)
    (read : number? (c :: cs) = some (n,rest)) :
    value? (fuel + 1) depth (c :: cs) = some (.num n,rest) := by
  obtain ⟨solid,other⟩ := numberFirst first
  simp only [List.mem_cons,List.not_mem_nil,or_false,not_or] at other
  have start : skip (c :: cs) = c :: cs := List.dropWhile_cons_of_neg (by simp [solid])
  simp [value?,start,other,read]

theorem wholeTaken {n : Int} (least : Int64.minValue.toInt ≤ n) (most : n ≤ Int64.maxValue.toInt) :
    Taken 0 (toString n).toList (.value (.int n)) := by
  obtain ⟨c,cs,text,first⟩ := wholeFirst n
  obtain ⟨solid,other⟩ := numberFirst first
  refine ⟨⟨c,cs,text,solid,fun same => other (by simp [same])⟩,fun fuel depth rest _ stops => ?_⟩
  have read := wholeRead least most stops
  rw [text] at read ⊢
  exact numberTaken first read

theorem textTaken {s : String} (letters : Letters s.toList cs) :
    Taken 0 ('"' :: (cs ++ ['"'])) (.value (.str s)) := by
  refine ⟨markOpens (by simp) _,fun fuel depth rest _ _ => ?_⟩
  have start (tail : List Char) : skip ('"' :: tail) = '"' :: tail := rfl
  have enough : cs.length < (cs ++ '"' :: rest).length + 1 := by
    simp only [List.length_append,List.length_cons]
    omega
  have read := lettersRead letters enough [] rest
  rw [List.cons_append,List.append_assoc,List.singleton_append]
  simp only [value?,start,if_pos,read,Nat.zero_le,List.reverse_nil,List.nil_append,
    String.ofList_toList]

theorem solidStarts {c : Char} (solid : isSpace c = false) (rest : List Char) :
    skip (c :: rest) = c :: rest :=
  List.dropWhile_cons_of_neg (by simp [solid])

theorem emptyArrTaken {blank : List Char} (blanks : Blank blank) :
    Taken 1 ('[' :: (blank ++ [']'])) (.value (.arr [])) := by
  refine ⟨markOpens (by simp) _,fun fuel depth rest _ _ => ?_⟩
  have start (tail : List Char) : skip ('[' :: tail) = '[' :: tail := rfl
  have closed : skip (']' :: rest) = ']' :: rest := rfl
  cases depth <;> simp [value?,start,skipBlank blanks,closed]

theorem arrTaken {n : Nat} {vs : List Json} (items : Taken n cs (.items vs)) :
    Taken (n + 1) ('[' :: (cs ++ [']'])) (.value (.arr vs)) := by
  obtain ⟨opened,read⟩ := items
  refine ⟨markOpens (by simp) _,fun fuel depth rest enough _ => ?_⟩
  have start (tail : List Char) : skip ('[' :: tail) = '[' :: tail := rfl
  simp only [List.length_cons,List.length_append,List.length_nil] at enough
  rw [List.cons_append,List.append_assoc,List.singleton_append]
  cases depth with
  | zero => simp [value?,start]
  | succ depth =>
    cases fuel with
    | zero => omega
    | succ fuel =>
      rw [arrOpened (opened _),read fuel depth [] rest (by omega)]
      simp

theorem emptyObjTaken {blank : List Char} (blanks : Blank blank) :
    Taken 1 ('\x7b' :: (blank ++ ['\x7d'])) (.value (.obj [])) := by
  refine ⟨markOpens (by simp) _,fun fuel depth rest _ _ => ?_⟩
  have start (tail : List Char) : skip ('\x7b' :: tail) = '\x7b' :: tail := rfl
  have closed : skip ('\x7d' :: rest) = '\x7d' :: rest := rfl
  cases depth <;> simp [value?,start,skipBlank blanks,closed]

theorem objTaken {n : Nat} {pairs : List (String × Json)} (fields : Taken n cs (.fields pairs)) :
    Taken (n + 1) ('\x7b' :: (cs ++ ['\x7d'])) (.value (.obj (Entries.ofPairs pairs))) := by
  obtain ⟨opened,read⟩ := fields
  refine ⟨markOpens (by simp) _,fun fuel depth rest enough _ => ?_⟩
  have start (tail : List Char) : skip ('\x7b' :: tail) = '\x7b' :: tail := rfl
  simp only [List.length_cons,List.length_append,List.length_nil] at enough
  rw [List.cons_append,List.append_assoc,List.singleton_append]
  cases depth with
  | zero => simp [value?,start]
  | succ depth =>
    cases fuel with
    | zero => omega
    | succ fuel =>
      rw [objOpened (opened _),read fuel depth [] rest (by omega)]
      simp [Entries.ofPairs]

theorem stopsBlank {after : List Char} (blank : Blank after) (stops : Stops rest) :
    Stops (after ++ rest) := by
  cases after with
  | nil => exact stops
  | cons c after =>
    intro d first
    cases first
    have all : ∀ c ∈ [' ','\n','\r','\t'], c ∈ [' ','\n','\r','\t',',',']','\x7d'] := by simp
    exact all c (blank c List.mem_cons_self)

theorem elementTaken {n : Nat} {before after : List Char} (left : Blank before)
    (right : Blank after) (value : Taken n cs (.value v)) :
    Taken n (before ++ (cs ++ after)) (.element v) := by
  obtain ⟨⟨c,tail,same,solid,other⟩,read⟩ := value
  have start (rest : List Char) : skip (before ++ (cs ++ after) ++ rest) = cs ++ (after ++ rest) := by
    rw [List.append_assoc,List.append_assoc,skipBlank left,same]
    exact solidStarts solid _
  refine ⟨fun rest => ?_,after,right,fun fuel depth rest enough stops => ?_⟩
  · rw [start,same]
    simpa using other
  · have some : 1 ≤ cs.length := by simp [same]
    simp only [List.length_append] at enough
    rw [← valueSkip,start]
    cases fuel with
    | zero => omega
    | succ fuel => exact read fuel depth _ (by omega) (stopsBlank right stops)

theorem itemTaken {n : Nat} (value : Taken n cs (.element v)) : Taken n cs (.items [v]) := by
  obtain ⟨opened,after,blank,read⟩ := value
  refine ⟨opened,fun fuel depth seen rest enough => ?_⟩
  have first := read fuel depth (']' :: rest) enough (by simp [Stops])
  split
  · next fits =>
    rw [if_pos fits] at first
    rw [itemLast first blank,List.reverse_cons]
  · next deep =>
    rw [if_neg deep] at first
    exact itemNone first

theorem itemsTaken {m n : Nat} {vs : List Json} (value : Taken m cs (.element v))
    (others : Taken n ds (.items vs)) : Taken (max m n) (cs ++ ',' :: ds) (.items (v :: vs)) := by
  obtain ⟨opened,after,blank,read⟩ := value
  obtain ⟨_,more⟩ := others
  refine ⟨fun rest => ?_,fun fuel depth seen rest enough => ?_⟩
  · rw [List.append_assoc]
    exact opened _
  · simp only [List.length_append,List.length_cons] at enough
    have first := read fuel depth (',' :: (ds ++ ']' :: rest)) (by omega) (by simp [Stops])
    rw [List.append_assoc,List.cons_append]
    by_cases fits : m ≤ depth
    · rw [if_pos fits] at first
      rw [itemNext first blank]
      cases fuel with
      | zero => omega
      | succ fuel =>
        have both : max m n ≤ depth ↔ n ≤ depth := by omega
        rw [more fuel depth _ rest (by omega)]
        simp only [both,List.reverse_cons,List.append_assoc,List.singleton_append]
    · rw [if_neg fits] at first
      rw [itemNone first,if_neg (by omega)]

theorem keyStarts {key : String} {ks : List Char} (named : KeyText key ks) (rest : List Char) :
    (skip (ks ++ rest)).head? ≠ some '\x7d' := by
  obtain ⟨quoted,_,opened,_⟩ := keyRead named rest
  rw [opened]
  simp

theorem fieldTaken {n : Nat} {key : String} {ks : List Char} (named : KeyText key ks)
    (value : Taken n cs (.element v)) : Taken n (ks ++ cs) (.fields [(key,v)]) := by
  obtain ⟨_,after,blank,read⟩ := value
  refine ⟨fun rest => ?_,fun fuel depth object rest enough => ?_⟩
  · rw [List.append_assoc]
    exact keyStarts named _
  · rw [List.length_append] at enough
    have first := read fuel depth ('\x7d' :: rest) (by omega) (by simp [Stops])
    rw [List.append_assoc]
    by_cases fits : n ≤ depth
    · rw [if_pos fits] at first ⊢
      exact fieldLast named first blank
    · rw [if_neg fits] at first ⊢
      exact fieldNone named first

theorem fieldsTaken {m n : Nat} {key : String} {pairs : List (String × Json)} {ks : List Char}
    (named : KeyText key ks) (value : Taken m cs (.element v)) (others : Taken n ds (.fields pairs)) :
    Taken (max m n) (ks ++ (cs ++ ',' :: ds)) (.fields ((key,v) :: pairs)) := by
  obtain ⟨_,after,blank,read⟩ := value
  obtain ⟨_,more⟩ := others
  refine ⟨fun rest => ?_,fun fuel depth object rest enough => ?_⟩
  · rw [List.append_assoc]
    exact keyStarts named _
  · simp only [List.length_append,List.length_cons] at enough
    have first := read fuel depth (',' :: (ds ++ '\x7d' :: rest)) (by omega) (by simp [Stops])
    rw [List.append_assoc,List.append_assoc,List.cons_append]
    by_cases fits : m ≤ depth
    · rw [if_pos fits] at first
      rw [fieldNext named first blank]
      cases fuel with
      | zero => omega
      | succ fuel =>
        have both : max m n ≤ depth ↔ n ≤ depth := by omega
        rw [more fuel depth _ rest (by omega)]
        simp only [both,List.foldl_cons]
    · rw [if_neg fits] at first
      rw [fieldNone named first,if_neg (by omega)]

theorem spelledTaken {n : Nat} {part : Part} (spelled : Spells n part cs) : Taken n cs part := by
  induction spelled with
  | null | yes | no =>
    refine ⟨markOpens (by decide) _,fun fuel depth rest _ _ => ?_⟩
    simp [value?,skip,isSpace,word?]
  | int least most => exact wholeTaken least most
  | str letters => exact textTaken letters
  | emptyArr blanks => exact emptyArrTaken blanks
  | arr items ih => exact arrTaken ih
  | emptyObj blanks => exact emptyObjTaken blanks
  | obj fields ih => exact objTaken ih
  | element left right value ih => exact elementTaken left right ih
  | item value ih => exact itemTaken ih
  | items value others ih more => exact itemsTaken ih more
  | field named value ih => exact fieldTaken named ih
  | fields named value others ih more => exact fieldsTaken named ih more

def Document (n : Nat) (v : Json) (text : String) : Prop := Spells n (.element v) text.toList

theorem documentRead {n : Nat} {text : String} (document : Document n v text) :
    parse text = if n < depthLimit then some v else none := by
  obtain ⟨_,after,blank,read⟩ := spelledTaken document
  have whole := read (2 * text.toList.length + 2) 127 [] (by omega) (by simp [Stops])
  rw [List.append_nil,List.append_nil] at whole
  have spent : skip after = [] := by
    have skipped := skipBlank blank []
    rwa [List.append_nil] at skipped
  simp only [parse,parseWithin,depthLimit,Nat.lt_succ_iff]
  rw [whole]
  by_cases fits : n ≤ 127
  · simp [fits,spent]
  · simp [fits]

end Muster.Json
