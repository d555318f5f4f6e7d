import Muster.Decimal
/-! Places in a YAML text, and the texts that depend on them. A place knows its line and column, since
the columns of lines say what belongs to what, and whether only blanks stand before it on its line. A
text without quotes goes on over ends of lines as long as the lines stand to the right of the block
around it; a block of indented lines stands behind a bar or a greater-than sign. -/
namespace Muster.Yaml

def isBlank (c : Char) : Bool := c = ' ' || c = '\t'

def isFlowMark (c : Char) : Bool := c = ',' || c = '[' || c = ']' || c = '\x7b' || c = '\x7d'

def isWordChar (c : Char) : Bool := c.isAlphanum || c = '_' || c = '-'

def atGap (cs : List Char) : Bool :=
  match cs with
  | [] => true
  | c :: _ => isBlank c || c = '\n'

def atFlowMark (cs : List Char) : Bool := cs.head?.any isFlowMark

structure Place where
  rest : List Char
  index : Nat
  line : Nat
  column : Nat
  indented : Bool

namespace Place

def start (cs : List Char) : Place := ⟨cs,0,0,0,true⟩

def atEnd (p : Place) : Bool := p.rest.isEmpty

def past (n : Nat) (p : Place) : Place :=
  { p with rest := p.rest.drop n,index := p.index + n,column := p.column + n,indented := false }

def pastBlank (p : Place) : Place :=
  { p with rest := p.rest.drop 1,index := p.index + 1,column := p.column + 1 }

def nextLine (p : Place) : Place := ⟨p.rest.drop 1,p.index + 1,p.line + 1,0,true⟩

def atLineEnd (p : Place) : Bool :=
  match p.rest with
  | [] => true
  | c :: _ => c = '\n'

def pastAll (accept : Char → Bool) (p : Place) : Place :=
  let n := (p.rest.takeWhile accept).length
  if n = 0 then p else p.past n

def pastBlanks (p : Place) : Place :=
  let n := (p.rest.takeWhile isBlank).length
  { p with rest := p.rest.drop n,index := p.index + n,column := p.column + n }

def pastSpaces (p : Place) : Place :=
  let n := (p.rest.takeWhile (· = ' ')).length
  { p with rest := p.rest.drop n,index := p.index + n,column := p.column + n }

def pastComment (p : Place) : Place := p.pastAll (· != '\n')

def pastTrailing? (p : Place) : Option Place :=
  let q := p.pastBlanks
  if q.rest.head? == some '#' then if q.index = p.index then none else some q.pastComment
  else some q

def atDashes (p : Place) : Bool :=
  match p.rest with
  | '-' :: '-' :: '-' :: rest => atGap rest
  | _ => false

def atDots (p : Place) : Bool :=
  match p.rest with
  | '.' :: '.' :: '.' :: rest => atGap rest
  | _ => false

def atMarker (p : Place) : Bool := p.atDashes || p.atDots

def atBadTab (bound : Int) (p : Place) : Bool :=
  p.rest.head? == some '\t' && p.indented && p.column < bound

/- Steps to the next content, past blanks, comments and ends of lines, and tells whether a line has
ended. On a line with a tab before the column `bound` nothing may follow. -/
def toContentWithin? (bound : Option Int) : Nat → Bool → Place → Option (Place × Bool)
  | 0, _, _ => none
  | fuel + 1, crossed, p =>
      match p.rest with
      | '\t' :: _ =>
          if bound.any p.atBadTab then
            match p.pastTrailing? with
            | some q => if q.atLineEnd then toContentWithin? bound fuel crossed q else none
            | none => none
          else toContentWithin? bound fuel crossed p.pastBlank
      | ' ' :: _ => toContentWithin? bound fuel crossed p.pastBlank
      | '\n' :: _ => toContentWithin? bound fuel true p.nextLine
      | '#' :: _ => toContentWithin? bound fuel crossed p.pastComment
      | _ => some (p,crossed)

def toContent? (bound : Option Int) (p : Place) : Option (Place × Bool) :=
  toContentWithin? bound (p.rest.length + 1) false p

end Place

/- What stands between two words: blanks of one line, or ends of lines. A line that is joined to
the next one by a backslash has no end of its own. -/
structure Gap where
  blanks : List Char
  ended : Bool
  more : Nat
  deriving DecidableEq, Repr

namespace Gap

def none : Gap := ⟨[],false,0⟩

def text (g : Gap) (crossed : Bool) : List Char :=
  if !crossed then g.blanks.reverse
  else if g.ended && g.more = 0 then [' ']
  else List.replicate g.more '\n'

def addBlank (g : Gap) (c : Char) : Gap := { g with blanks := c :: g.blanks }

def addLineEnd (g : Gap) (crossed : Bool) : Gap :=
  if crossed then { g with more := g.more + 1 } else { g with blanks := [],ended := true }

end Gap

def lineFeeds : List Char → List Char
  | '\r' :: '\n' :: rest => '\n' :: lineFeeds rest
  | '\r' :: rest => '\n' :: lineFeeds rest
  | c :: rest => c :: lineFeeds rest
  | [] => []

namespace Plain

def ends (inFlow : Bool) : List Char → Bool
  | [] => true
  | ':' :: rest => atGap rest || (inFlow && atFlowMark rest)
  | c :: _ => inFlow && isFlowMark c

def word (inFlow : Bool) : List Char → List Char
  | [] => []
  | c :: rest =>
      if isBlank c || c = '\n' || ends inFlow (c :: rest) then [] else c :: word inFlow rest

def gap? (bound : Int) : Nat → Gap → Place → Option (Gap × Place)
  | 0, _, _ => none
  | fuel + 1, gap, p =>
      match p.rest with
      | '\n' :: _ => gap? bound fuel (gap.addLineEnd p.indented) p.nextLine
      | c :: _ =>
          if !isBlank c then some (gap,p)
          else if !p.indented then gap? bound fuel (gap.addBlank c) p.pastBlank
          else if p.atBadTab bound then
            match p.pastTrailing? with
            | some q => if q.atLineEnd then gap? bound fuel gap q else none
            | none => none
          else gap? bound fuel gap p.pastBlank
      | [] => some (gap,p)

def text? (inFlow : Bool) (bound : Int) : Nat → Gap → Place → Option (List Char × Place)
  | 0, _, _ => none
  | fuel + 1, gap, p =>
      if (p.indented && p.atMarker) || p.rest.head? == some '#' then some ([],p)
      else if inFlow && p.rest.head? == some '-' && atFlowMark (p.rest.drop 1) then none
      else
        let word := word inFlow p.rest
        let (read,gap,q) :=
          if word.isEmpty then ([],gap,p) else (gap.text p.indented ++ word,.none,p.past word.length)
        if q.atEnd || !atGap q.rest then some (read,q)
        else match gap? bound (q.rest.length + 1) gap q with
          | none => none
          | some (gap,q) =>
              if !inFlow && q.column < bound then some (read,q)
              else (text? inFlow bound fuel gap q).map fun (text,q) => (read ++ text,q)

end Plain

inductive Tail where
  | clip
  | strip
  | keep
  deriving DecidableEq, Repr

structure BlockStyle where
  folded : Bool
  tail : Tail
  indent : Option Nat

def readTail? (c : Char) : Option Tail :=
  if c = '+' then some .keep else if c = '-' then some .strip else none

def readIndent? (c : Char) : Option Nat :=
  if '1' ≤ c && c ≤ '9' then some (Decimal.digitValue c) else none

def BlockStyle.read (folded : Bool) (cs : List Char) : BlockStyle × Nat :=
  let first := cs.head?
  let second := (cs.drop 1).head?
  match first.bind readTail?, second.bind readIndent?, first.bind readIndent?, second.bind readTail? with
  | some tail, some n, _, _ => (⟨folded,tail,some n⟩,2)
  | some tail, none, _, _ => (⟨folded,tail,none⟩,1)
  | none, _, some n, some tail => (⟨folded,tail,some n⟩,2)
  | none, _, some n, none => (⟨folded,.clip,some n⟩,1)
  | none, _, none, _ => (⟨folded,.clip,none⟩,0)

namespace Block

def gap (indent : Nat) : Nat → Nat → Place → Nat × Place
  | 0, empty, p => (empty,p)
  | fuel + 1, empty, p =>
      let spaces := min (p.rest.takeWhile (· = ' ')).length (indent - p.column)
      let q := { p with rest := p.rest.drop spaces,index := p.index + spaces,column := p.column + spaces }
      match q.rest with
      | '\n' :: _ => gap indent fuel (empty + 1) q.nextLine
      | _ => (empty,q)

def firstGap : Nat → Nat → Nat → Place → Nat × Nat × Place
  | 0, widest, empty, p => (widest,empty,p)
  | fuel + 1, widest, empty, p =>
      let q := p.pastSpaces
      let widest := max widest q.column
      match q.rest with
      | '\n' :: _ => firstGap fuel widest (empty + 1) q.nextLine
      | _ => (widest,empty,q)

/- The lines of a block from one of them on. `before` tells of the line before whether it begins
with a blank. Folding leaves a space where no empty lines stand between two lines and takes one end
of a line away otherwise, except beside a line that begins with a blank. The other results are
whether the last line has ended, and the empty lines behind it. -/
def lines (folded : Bool) (indent : Nat) :
    Nat → Option Bool → Nat → Place → List Char × Bool × Nat × Place
  | 0, before, empty, p => ([],before.isSome,empty,p)
  | fuel + 1, before, empty, p =>
      if p.column != indent || p.atEnd || (indent = 0 && p.atDots) then ([],before.isSome,empty,p)
      else
        let line := p.rest.takeWhile (· != '\n')
        let blank := line.head?.any isBlank
        let ends := List.replicate empty '\n'
        let between := match before with
          | none => ends
          | some before =>
              if !folded || before || blank then '\n' :: ends
              else if empty = 0 then [' '] else ends
        let p := p.past line.length
        if p.atEnd then (between ++ line,false,0,p)
        else
          let (empty,p) := gap indent (p.rest.length + 1) 0 p.nextLine
          let (text,ended,empty,p) := lines folded indent fuel (some blank) empty p
          (between ++ line ++ text,ended,empty,p)

/- What the tail adds to the lines. A last line without an end of its own, and one that is only
indented, get one all the same. -/
def tailText (tail : Tail) (indent : Nat) (ended : Bool) (empty : Nat) (p : Place) : List Char :=
  let end_ := if ended then ['\n'] else []
  let closing := if p.atEnd && max indent 1 ≤ p.column then ['\n'] else []
  match tail with
  | .strip => []
  | .clip => end_ ++ closing
  | .keep => end_ ++ closing ++ List.replicate empty '\n'

def emptyText (tail : Tail) (sameLine : Bool) (empty : Nat) : List Char :=
  if sameLine then []
  else match tail with
    | .strip => []
    | .clip => ['\n']
    | .keep => List.replicate (max empty 1) '\n'

def text? (folded : Bool) (outer : Int) (p : Place) : Option (List Char × Place) := do
  let (style,marks) := BlockStyle.read folded p.rest
  let header ← (if marks = 0 then p else p.past marks).pastTrailing?
  if !header.atLineEnd then none
  let first := if header.atEnd then header else header.nextLine
  if first.rest.head? == some '\t' then none
  let fuel := first.rest.length + 1
  let (indent,empty,q) := match style.indent with
    | some n =>
        let indent := (max outer 0).toNat + n
        let (empty,q) := gap indent fuel 0 first
        (indent,empty,q)
    | none =>
        let (widest,empty,q) := firstGap fuel 0 0 first
        (max widest (outer + 1).toNat,empty,q)
  if q.atEnd then some (emptyText style.tail (q.line = p.line) empty,q)
  else if q.column < indent && outer < q.column then none
  else
    let (read,ended,empty,q) := lines folded indent fuel none empty q
    some (read ++ tailText style.tail indent ended empty q,q)

end Block
end Muster.Yaml
