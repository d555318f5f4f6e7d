import Muster.Decimal
import Muster.Text.Basic
import Muster.Text.Unicode
/-! Regular expressions: whether a text holds a piece that matches one, and how they are written. A set
of positions in a text is a number whose bits are the positions; matching takes the positions where
pieces begin to those where they end. Classes of characters and case-insensitive letters are known for
ASCII alone, and so only where the flag for Unicode is taken away. -/
namespace Muster.Text

inductive Anchor where
  | textStart
  | textEnd
  | lineStart (crlf : Bool)
  | lineEnd (crlf : Bool)
  | wordEdge
  | wordInside
  | wordStart
  | wordEnd
  deriving DecidableEq, Repr

inductive Pattern where
  | empty
  | one (set : Ranges)
  | anchor (a : Anchor)
  | both (first second : Pattern)
  | either (first second : Pattern)
  | times (inner : Pattern) (least : Nat) (most : Option Nat)
  deriving Repr

namespace Anchor

def isWord (c : Char) : Bool := c.isAlphanum || c = '_'

/- The condition on the characters beside a position. A carriage return and the line feed behind
it are one end of a line. -/
def holds (before after : Option Char) : Anchor → Bool
  | .textStart => before.isNone
  | .textEnd => after.isNone
  | .lineStart false => before.isNone || before == some '\n'
  | .lineEnd false => after.isNone || after == some '\n'
  | .lineStart true =>
      before.isNone || before == some '\n' || (before == some '\r' && after != some '\n')
  | .lineEnd true =>
      after.isNone || after == some '\r' || (after == some '\n' && before != some '\r')
  | .wordEdge => before.any isWord != after.any isWord
  | .wordInside => before.any isWord == after.any isWord
  | .wordStart => !before.any isWord && after.any isWord
  | .wordEnd => before.any isWord && !after.any isWord

end Anchor

namespace Pattern

def positions (holds : Option Char → Option Char → Bool) (position : Nat) (before : Option Char) :
    List Char → Nat
  | [] => if holds before none then 1 <<< position else 0
  | c :: rest =>
      (if holds before (some c) then 1 <<< position else 0) ||| positions holds (position + 1) (some c) rest

def repeated (step : Nat → Nat) : Nat → Nat → Nat
  | 0, starts => starts
  | n + 1, starts => if starts = 0 then 0 else repeated step n (step starts)

def reached (step : Nat → Nat) : Nat → Nat → Nat
  | 0, found => found
  | n + 1, found =>
      let further := found ||| step found
      if further = found then found else reached step n further

/- Where the pieces that begin at `starts` end. More steps than the text is long lead nowhere new. -/
def ends (text : List Char) : Pattern → Nat → Nat
  | .empty, starts => starts
  | .one set, starts =>
      2 * (starts &&& positions (fun _ after => after.any fun c => set.covers c.toNat) 0 none text)
  | .anchor a, starts => starts &&& positions (fun before after => a.holds before after) 0 none text
  | .both first second, starts => second.ends text (first.ends text starts)
  | .either first second, starts => first.ends text starts ||| second.ends text starts
  | .times inner least most, starts =>
      let more := match most with
        | none => text.length + 1
        | some most => min (most - least) (text.length + 1)
      reached (inner.ends text) more (repeated (inner.ends text) least starts)

def isIn (p : Pattern) (text : String) : Bool :=
  p.ends text.toList ((1 <<< (text.length + 1)) - 1) != 0

def size : Pattern → Nat
  | .empty | .anchor _ => 1
  | .one set => max 1 set.length
  | .both first second | .either first second => first.size + second.size
  | .times inner least most => inner.size * (most.getD (least + 1))

structure Flags where
  anyCase : Bool
  lines : Bool
  dotAll : Bool
  unicode : Bool
  crlf : Bool
  spaced : Bool

def Flags.standard : Flags := ⟨false,false,false,true,false,false⟩

def Flags.set? (f : Flags) (on : Bool) : Char → Option Flags
  | 'i' => some { f with anyCase := on }
  | 'm' => some { f with lines := on }
  | 's' => some { f with dotAll := on }
  | 'u' => some { f with unicode := on }
  | 'R' => some { f with crlf := on }
  | 'x' => some { f with spaced := on }
  | 'U' => some f
  | _ => none

def flags? (f : Flags) (seen : List Char) : List Char → Option (Flags × Bool × List Char)
  | ':' :: rest => if seen.head? == some '-' then none else some (f,true,rest)
  | ')' :: rest =>
      if seen.isEmpty || seen.head? == some '-' then none else some (f,false,rest)
  | c :: rest =>
      if seen.contains c then none
      else if c = '-' then flags? f ('-' :: seen) rest
      else match f.set? (!seen.contains '-') c with
        | some f => flags? f (c :: seen) rest
        | none => none
  | [] => none

def skipSpaced (f : Flags) (comment : Bool) : List Char → List Char
  | [] => []
  | c :: rest =>
      if !f.spaced then c :: rest
      else if comment then skipSpaced f (c != '\n') rest
      else if isBlank c then skipSpaced f false rest
      else if c = '#' then skipSpaced f true rest
      else c :: rest

namespace Set

def top (f : Flags) : Nat := if f.unicode then 0x10FFFF else 0xFF

def joined : List (Nat × Nat) → Ranges
  | [] => []
  | (first,last) :: rest =>
      match joined rest with
      | [] => [(first,last)]
      | (next,final) :: more =>
          if next ≤ last + 1 then (first,max last final) :: more else (first,last) :: (next,final) :: more

def insert (r : Nat × Nat) : Ranges → Ranges
  | [] => [r]
  | s :: rest => if r.1 ≤ s.1 then r :: s :: rest else s :: insert r rest

def ofRanges (ranges : List (Nat × Nat)) : Ranges := joined (ranges.foldr insert [])

def without (top low : Nat) : Ranges → Ranges
  | [] => if low ≤ top then [(low,top)] else []
  | (first,last) :: rest =>
      let more := without top (last + 1) rest
      if low < first then (low,first - 1) :: more else more

def complement (f : Flags) (set : Ranges) : Ranges := without (top f) 0 set

def union (a b : Ranges) : Ranges := ofRanges (a ++ b)

def inter (f : Flags) (a b : Ranges) : Ranges := complement f (union (complement f a) (complement f b))

inductive Operation where
  | union
  | inter
  | diff
  | symmDiff

def Operation.apply (f : Flags) (a b : Ranges) : Operation → Ranges
  | .union => Set.union a b
  | .inter => Set.inter f a b
  | .diff => Set.inter f a (complement f b)
  | .symmDiff => Set.inter f (Set.union a b) (complement f (Set.inter f a b))

def bothCases (set : Ranges) : Ranges :=
  let moved (low high : Nat) (shift : Nat → Nat) : List (Nat × Nat) :=
    set.filterMap fun (first,last) =>
      let first := max first low
      let last := min last high
      if first ≤ last then some (shift first,shift last) else none
  ofRanges (set ++ moved 0x41 0x5A (· + 0x20) ++ moved 0x61 0x7A (· - 0x20))

def pattern? (f : Flags) (set : Ranges) : Option Pattern :=
  if f.unicode || set.all fun r => r.2 ≤ 0x7F then some (.one set) else none

def named? (name : String) : Option Ranges :=
  match name with
  | "alnum" => some [(0x30,0x39),(0x41,0x5A),(0x61,0x7A)]
  | "alpha" => some [(0x41,0x5A),(0x61,0x7A)]
  | "ascii" => some [(0,0x7F)]
  | "blank" => some [(0x9,0x9),(0x20,0x20)]
  | "cntrl" => some [(0,0x1F),(0x7F,0x7F)]
  | "digit" => some [(0x30,0x39)]
  | "graph" => some [(0x21,0x7E)]
  | "lower" => some [(0x61,0x7A)]
  | "print" => some [(0x20,0x7E)]
  | "punct" => some [(0x21,0x2F),(0x3A,0x40),(0x5B,0x60),(0x7B,0x7E)]
  | "space" => some [(0x9,0xD),(0x20,0x20)]
  | "upper" => some [(0x41,0x5A)]
  | "word" => some [(0x30,0x39),(0x41,0x5A),(0x5F,0x5F),(0x61,0x7A)]
  | "xdigit" => some [(0x30,0x39),(0x41,0x46),(0x61,0x66)]
  | _ => none

def ofLetter? (f : Flags) (c : Char) : Option Ranges :=
  if f.unicode then none
  else match c with
    | 'd' => named? "digit"
    | 's' => named? "space"
    | 'w' => named? "word"
    | _ => none

end Set

inductive Escape where
  | char (c : Char) (byte : Bool)
  | anchor (a : Anchor)
  | set (set : Ranges)

def hexDigit? (c : Char) : Option Nat :=
  if Decimal.isDigit c then some (Decimal.digitValue c)
  else if 'a' ≤ c && c ≤ 'f' then some (c.toNat - 0x57)
  else if 'A' ≤ c && c ≤ 'F' then some (c.toNat - 0x37)
  else none

def codePoint? (digits : List Char) : Option Char := do
  let digits ← digits.mapM hexDigit?
  let n := digits.foldl (fun n d => min (16 * n + d) 0x110000) 0
  if h : n.isValidChar then some (Char.ofNatAux n h) else none

def hex? (count : Nat) (cs : List Char) : Option (Escape × List Char) :=
  match cs with
  | '\x7b' :: rest =>
      let digits := rest.takeWhile (· != '\x7d')
      match rest.drop digits.length with
      | _ :: rest => if digits.isEmpty then none else (codePoint? digits).map (.char · false,rest)
      | [] => none
  | _ =>
      let digits := cs.take count
      if digits.length < count then none
      else (codePoint? digits).map (.char · (count == 2),cs.drop count)

def escape? (f : Flags) (cs : List Char) : Option (Escape × List Char) :=
  match cs with
  | [] => none
  | c :: rest =>
      let char (c : Char) : Option (Escape × List Char) := some (.char c false,rest)
      let edge (a : Anchor) : Option (Escape × List Char) := if f.unicode then none else some (.anchor a,rest)
      match c with
      | 'x' => hex? 2 rest
      | 'u' => hex? 4 rest
      | 'U' => hex? 8 rest
      | 'a' => char '\x07'
      | 'f' => char '\x0c'
      | 't' => char '\t'
      | 'n' => char '\n'
      | 'r' => char '\r'
      | 'v' => char '\x0b'
      | 'A' => some (.anchor .textStart,rest)
      | 'z' => some (.anchor .textEnd,rest)
      | 'b' => edge .wordEdge
      | 'B' => edge .wordInside
      | '<' => edge .wordStart
      | '>' => edge .wordEnd
      | 'd' | 's' | 'w' => (Set.ofLetter? f c).map (.set ·,rest)
      | _ => if c.toNat < 0x80 && !c.isAlphanum then char c else none

def setItem? (f : Flags) (cs : List Char) : Option ((Nat ⊕ Ranges) × List Char) :=
  match cs with
  | '\\' :: rest =>
      match escape? f rest with
      | some (.char c byte,rest) =>
          if !f.unicode && (byte || 0x7F < c.toNat) && 0x7F < c.toNat then none else some (.inl c.toNat,rest)
      | some (.set set,rest) => some (.inr set,rest)
      | _ => none
  | c :: rest => if !f.unicode && 0x7F < c.toNat then none else some (.inl c.toNat,rest)
  | [] => none

def setRange? (f : Flags) (cs : List Char) : Option (Ranges × List Char) := do
  let (first,rest) ← setItem? f cs
  let single : Ranges := match first with
    | .inl n => [(n,n)]
    | .inr set => set
  match skipSpaced f false rest with
  | '-' :: behind =>
      match skipSpaced f false behind with
      | ']' :: _ | '-' :: _ => some (single,'-' :: behind)
      | behind => do
          let (second,rest) ← setItem? f behind
          match first, second with
          | .inl low, .inl high => if low ≤ high then some ([(low,high)],rest) else none
          | _, _ => none
  | rest => some (single,rest)

def setName? (f : Flags) (cs : List Char) : Option (Ranges × List Char) :=
  match cs with
  | '[' :: ':' :: rest =>
      let negated := rest.head? == some '^'
      let rest := if negated then rest.drop 1 else rest
      let name := rest.takeWhile (· != ':')
      match rest.drop name.length with
      | ':' :: ']' :: rest =>
          (Set.named? (String.ofList name)).map fun set =>
            (if negated then Set.complement f set else set,rest)
      | _ => none
  | _ => none

def setStart (f : Flags) (cs : List Char) : Bool × Ranges × List Char :=
  let cs := skipSpaced f false cs
  let negated := cs.head? == some '^'
  let cs := if negated then skipSpaced f false (cs.drop 1) else cs
  let behind := cs.dropWhile (· = '-')
  if behind.length < cs.length then (negated,[(0x2D,0x2D)],behind)
  else match cs with
    | ']' :: rest => (negated,[(0x5D,0x5D)],rest)
    | _ => (negated,[],cs)

/- Reads a set up to its closing bracket. Beside each other parts are joined; `before` and the
operation are what stands in front of the last operator. -/
def setBody? (f : Flags) : Nat → Bool → Ranges → Set.Operation → Ranges → List Char →
    Option (Ranges × List Char)
  | 0, _, _, _, _, _ => none
  | fuel + 1, negated, before, operation, part, cs =>
      let so := operation.apply f before part
      match skipSpaced f false cs with
      | [] => none
      | ']' :: rest =>
          let set := if f.anyCase then Set.bothCases so else so
          some (if negated then Set.complement f set else set,rest)
      | '&' :: '&' :: rest => setBody? f fuel negated so .inter [] rest
      | '-' :: '-' :: rest => setBody? f fuel negated so .diff [] rest
      | '~' :: '~' :: rest => setBody? f fuel negated so .symmDiff [] rest
      | '[' :: rest =>
          match setName? f ('[' :: rest) with
          | some (set,rest) => setBody? f fuel negated before operation (Set.union part set) rest
          | none =>
              let (inner,first,rest) := setStart f rest
              match setBody? f fuel inner [] .union first rest with
              | some (set,rest) => setBody? f fuel negated before operation (Set.union part set) rest
              | none => none
      | cs =>
          match setRange? f cs with
          | some (set,rest) => setBody? f fuel negated before operation (Set.union part set) rest
          | none => none

def set? (f : Flags) (cs : List Char) : Option (Pattern × List Char) := do
  let (negated,first,rest) := setStart f cs
  if f.anyCase && f.unicode then none
  let (set,rest) ← setBody? f (cs.length + 1) negated [] .union first rest
  some (← Set.pattern? f set,rest)

def count? (cs : List Char) : Option (Nat × List Char) :=
  let cs := cs.dropWhile isBlank
  let digits := cs.takeWhile Decimal.isDigit
  let n := Decimal.digitsValue digits
  if digits.isEmpty || UInt32.size ≤ n then none
  else some (n,(cs.dropWhile Decimal.isDigit).dropWhile isBlank)

def counts? (cs : List Char) : Option (Nat × Option Nat × List Char) :=
  match count? cs with
  | some (n,'\x7d' :: rest) => some (n,some n,rest)
  | some (n,',' :: rest) =>
      match rest.dropWhile isBlank with
      | '\x7d' :: rest => some (n,none,rest)
      | rest =>
          match count? rest with
          | some (m,'\x7d' :: rest) => if n ≤ m then some (n,some m,rest) else none
          | _ => none
  | _ => none

def repetition? (cs : List Char) : Option (Nat × Option Nat × List Char) := do
  let (least,most,rest) ← match cs with
    | '?' :: rest => some (0,some 1,rest)
    | '*' :: rest => some (0,none,rest)
    | '+' :: rest => some (1,none,rest)
    | '\x7b' :: rest => counts? rest
    | _ => none
  some (least,most,if rest.head? == some '?' then rest.drop 1 else rest)

def literal? (f : Flags) (c : Char) : Option Pattern :=
  let set : Ranges := [(c.toNat,c.toNat)]
  if !f.anyCase then some (.one set)
  else if f.unicode then none
  else some (.one (Set.bothCases set))

def dot? (f : Flags) : Option Pattern :=
  let ends : Ranges := if f.dotAll then [] else if f.crlf then [(0xA,0xA),(0xD,0xD)] else [(0xA,0xA)]
  if f.unicode then some (.one (Set.complement f ends)) else none

def isNameChar (first : Bool) (c : Char) : Bool :=
  let letter := if c.toNat < 0x80 then c.isAlpha else alphanumericRanges.covers c.toNat
  c = '_' || letter || (!first && (c.isDigit || c = '.' || c = '[' || c = ']'))

def groupName? (cs : List Char) : Option (String × List Char) :=
  let name := cs.takeWhile (· != '>')
  match name, cs.drop name.length with
  | first :: others, _ :: rest =>
      if isNameChar true first && others.all (isNameChar false) then some (String.ofList name,rest) else none
  | _, _ => none

inductive Opening where
  | group (flags : Flags) (name : Option String)
  | setting (flags : Flags)

def opening? (f : Flags) (cs : List Char) : Option (Opening × List Char) :=
  let named (rest : List Char) := (groupName? rest).map fun (name,rest) => (.group f (some name),rest)
  match cs with
  | '?' :: '=' :: _ | '?' :: '!' :: _ | '?' :: '<' :: '=' :: _ | '?' :: '<' :: '!' :: _ => none
  | '?' :: 'P' :: '<' :: rest => named rest
  | '?' :: '<' :: rest => named rest
  | '?' :: rest =>
      (flags? f [] rest).map fun (f,grouping,rest) => (if grouping then .group f none else .setting f,rest)
  | _ => some (.group f none,cs)

def sequence : List (Option Pattern) → Pattern
  | [] => .empty
  | item :: before => before.foldl (fun p item => .both (item.getD .empty) p) (item.getD .empty)

def alternatives (earlier : Option Pattern) (items : List (Option Pattern)) : Pattern :=
  match earlier with
  | none => sequence items
  | some p => .either p (sequence items)

def body? : Nat → Flags → List String → Option Pattern → List (Option Pattern) → List Char →
    Option (Pattern × List String × List Char)
  | 0, _, _, _, _, _ => none
  | fuel + 1, f, names, earlier, items, cs =>
      let add (item : Option Pattern) (rest : List Char) :=
        match item with
        | some p => body? fuel f names earlier (some p :: items) rest
        | none => none
      match skipSpaced f false cs with
      | [] => some (alternatives earlier items,names,[])
      | ')' :: rest => some (alternatives earlier items,names,')' :: rest)
      | '|' :: rest => body? fuel f names (some (alternatives earlier items)) [] rest
      | '(' :: rest =>
          match opening? f rest with
          | none => none
          | some (.setting flags,rest) => body? fuel flags names earlier (none :: items) rest
          | some (.group flags name,rest) =>
              if name.any names.contains then none
              else match body? fuel flags (name.toList ++ names) none [] rest with
                | some (p,names,')' :: rest) => body? fuel f names earlier (some p :: items) rest
                | _ => none
      | '[' :: rest =>
          match set? f rest with
          | some (p,rest) => add (some p) rest
          | none => none
      | '\\' :: rest =>
          match escape? f rest with
          | some (.char c byte,rest) =>
              if byte && !f.unicode && 0x7F < c.toNat then none else add (literal? f c) rest
          | some (.anchor a,rest) => add (some (.anchor a)) rest
          | some (.set set,rest) => add (some (.one set)) rest
          | none => none
      | '.' :: rest => add (dot? f) rest
      | '^' :: rest => add (some (.anchor (if f.lines then .lineStart f.crlf else .textStart))) rest
      | '$' :: rest => add (some (.anchor (if f.lines then .lineEnd f.crlf else .textEnd))) rest
      | c :: rest =>
          if c = '?' || c = '*' || c = '+' || c = '\x7b' then
            match items, repetition? (c :: rest) with
            | some p :: before, some (least,most,rest) =>
                body? fuel f names earlier (some (.times p least most) :: before) rest
            | _, _ => none
          else add (literal? f c) rest

def sizeLimit : Nat := 327680

def read? (s : String) : Option Pattern :=
  match body? (s.length + 1) .standard [] none [] s.toList with
  | some (p,_,[]) => if p.size ≤ sizeLimit then some p else none
  | _ => none

end Pattern
end Muster.Text
