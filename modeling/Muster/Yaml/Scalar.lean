import Muster.Decimal
import Muster.Json
import Muster.Yaml.Place
/-! Single YAML values: what an unquoted text stands for, by itself or under a tag, and texts in quotes,
which go on over ends of lines as long as no line stands to the left of the block around them. A tag has
a handle, which stands for the beginning of its name, and the rest of the name; directives before a
document say what handles stand for. -/
namespace Muster.Yaml

inductive Scalar where
  | null
  | flag (value : Bool)
  | whole (value : Int)
  | real (text : String)
  | text (value : String)
  deriving DecidableEq, Repr

def digitOf? (base : Nat) (c : Char) : Option Nat :=
  let n := if Decimal.isDigit c then Decimal.digitValue c
    else if 'a' ≤ c && c ≤ 'f' then c.toNat - 'a'.toNat + 10
    else if 'A' ≤ c && c ≤ 'F' then c.toNat - 'A'.toNat + 10
    else base
  if n < base then some n else none

def wholeIn? (base : Nat) (cs : List Char) : Option Int := do
  let (negative,digits) := Decimal.sign cs
  if digits.isEmpty then none
  let size ← digits.foldlM (fun n c => (digitOf? base c).map (base * n + ·)) 0
  let value : Int := if negative then -(size : Int) else size
  if Int64.minValue.toInt ≤ value && value ≤ Int64.maxValue.toInt then some value else none

def specialReals : List String :=
  [".inf",".Inf",".INF","+.inf","+.Inf","+.INF","-.inf","-.Inf","-.INF",".nan",".NaN",".NAN"]

def isReal (s : String) : Bool :=
  specialReals.contains s || (s.toList.any Decimal.isDigit && (Decimal.real? s).isSome)

def marked? (cs : List Char) : Option Int :=
  match cs with
  | '0' :: 'x' :: rest => wholeIn? 16 rest
  | '0' :: 'o' :: rest => wholeIn? 8 rest
  | '+' :: rest => wholeIn? 10 rest
  | _ => none

def flag? (s : String) : Option Bool :=
  if s = "true" || s = "True" || s = "TRUE" then some true
  else if s = "false" || s = "False" || s = "FALSE" then some false
  else none

def Scalar.ofPlain (s : String) : Scalar :=
  match marked? s.toList with
  | some n => .whole n
  | none =>
      if s = "" || s = "~" || s = "null" then .null
      else match flag? s with
        | some b => .flag b
        | none =>
            match wholeIn? 10 s.toList with
            | some n => .whole n
            | none => if isReal s then .real s else .text s

/- The value of the kind that a core tag names; none when the text is no such value. Other tags
leave the text as it is. -/
def Scalar.ofTagged? (kind s : String) : Option Scalar :=
  match kind with
  | "bool" => (flag? s).map .flag
  | "int" => (wholeIn? 10 s.toList).map .whole
  | "float" => if isReal s then some (.real s) else none
  | "null" => if s = "~" || s = "null" then some .null else none
  | _ => some (.text s)

def Scalar.toJson? : Scalar → Option Json
  | null => some .null
  | flag value => some (.bool value)
  | whole value => some (.int value)
  | real digits => (Decimal.real? digits).map fun x => .num (.real x)
  | text value => some (.str value)

def Scalar.keyText? : Scalar → Option String
  | null => none
  | flag value => some (if value then "true" else "false")
  | whole value => some (toString value)
  | real digits => some digits
  | text value => some value

def codePoint? (digits : List Char) : Option Char := do
  let n ← digits.foldlM (fun n c => (digitOf? 16 c).map (16 * n + ·)) 0
  if n < 0xD800 || (0xDFFF < n && n < 0x110000) then some (Char.ofNat n) else none

def escape? (cs : List Char) : Option (Char × Nat) :=
  match cs with
  | [] => none
  | c :: rest =>
      let coded (count : Nat) : Option (Char × Nat) :=
        let digits := rest.take count
        if digits.length = count then (codePoint? digits).map (·,count + 1) else none
      match c with
      | '0' => some ('\x00',1)
      | 'a' => some ('\x07',1)
      | 'b' => some ('\x08',1)
      | 't' | '\t' => some ('\t',1)
      | 'n' => some ('\n',1)
      | 'v' => some ('\x0b',1)
      | 'f' => some ('\x0c',1)
      | 'r' => some ('\r',1)
      | 'e' => some ('\x1b',1)
      | ' ' => some (' ',1)
      | '"' => some ('"',1)
      | '/' => some ('/',1)
      | '\\' => some ('\\',1)
      | 'N' => some ('\u0085',1)
      | '_' => some ('\u00a0',1)
      | 'L' => some ('\u2028',1)
      | 'P' => some ('\u2029',1)
      | 'x' => coded 2
      | 'u' => coded 4
      | 'U' => coded 8
      | _ => none

inductive Quote where
  | single
  | double
  deriving DecidableEq, Repr

def Quote.mark : Quote → Char
  | single => '\''
  | double => '"'

namespace Quoted

/- The characters up to a blank, an end of a line or the closing quote, and whether a backslash
behind them joins the line to the next one. Two single quotes are one. -/
def word? (quote : Quote) : Nat → Place → Option (List Char × Bool × Place)
  | 0, _ => none
  | fuel + 1, p =>
      let char (c : Char) (n : Nat) : Option (List Char × Bool × Place) :=
        (word? quote fuel (p.past n)).map fun (word,joined,p) => (c :: word,joined,p)
      match p.rest with
      | [] => some ([],false,p)
      | c :: rest =>
          if isBlank c || c = '\n' then some ([],false,p)
          else match quote with
            | .single =>
                if c != '\'' then char c 1
                else if rest.head? == some '\'' then char c 2
                else some ([],false,p)
            | .double =>
                if c = '"' then some ([],false,p)
                else if c != '\\' then char c 1
                else if rest.head? == some '\n' then some ([],true,(p.past 1).nextLine)
                else match escape? rest with
                  | some (c,n) => char c (n + 1)
                  | none => none

def gap? (bound : Int) : Nat → Gap → Bool → Place → Option (Gap × Bool × Place)
  | 0, _, _, _ => none
  | fuel + 1, gap, crossed, p =>
      match p.rest with
      | '\n' :: _ => gap? bound fuel (gap.addLineEnd crossed) true p.nextLine
      | c :: _ =>
          if !isBlank c then some (gap,crossed,p)
          else if !crossed then gap? bound fuel (gap.addBlank c) crossed p.pastBlank
          else if c = '\t' && p.column < bound then none
          else gap? bound fuel gap crossed p.pastBlank
      | [] => some (gap,crossed,p)

def text? (quote : Quote) (bound : Int) : Nat → Place → Option (List Char × Place)
  | 0, _ => none
  | fuel + 1, p =>
      if p.atEnd || p.column < bound || (p.column = 0 && p.atMarker) then none
      else match word? quote (p.rest.length + 1) p with
        | none => none
        | some (word,joined,p) =>
            if p.rest.head? == some quote.mark then some (word,p.past 1)
            else match gap? bound (p.rest.length + 1) .none joined p with
              | none => none
              | some (gap,crossed,p) =>
                  (text? quote bound fuel p).map fun (text,p) => (word ++ gap.text crossed ++ text,p)

end Quoted

structure Tag where
  handle : String
  suffix : String
  deriving DecidableEq, Repr

inductive Directive where
  | version
  | handle (handle start : String)
  deriving DecidableEq, Repr

namespace Tag

def isUriChar (c : Char) : Bool := isWordChar c || "#;/?:@&=+$,_.!~*'()[]%".toList.contains c

def isTagChar (c : Char) : Bool := isUriChar c && !isFlowMark c && c != '!'

def byte? (cs : List Char) : Option Nat :=
  match cs with
  | '%' :: a :: b :: _ => do some ((← digitOf? 16 a) * 16 + (← digitOf? 16 b))
  | _ => none

def escaped? (cs : List Char) : Option (Char × Nat) := do
  let first ← byte? cs
  if first < 0x80 then some (Char.ofNat first,3)
  else
    let second ← byte? (cs.drop 3)
    let n := first * 0x100 + second
    if 0xC0 ≤ first && first < 0xE0 && 0x80 ≤ second && second < 0xC0 && (n < 0xD800 || 0xDFFF < n) then
      some (Char.ofNat n,6)
    else none

def chars? (accept : Char → Bool) : Nat → Place → Option (List Char × Place)
  | 0, _ => none
  | fuel + 1, p =>
      match p.rest with
      | [] => some ([],p)
      | c :: _ =>
          if !accept c then some ([],p)
          else
            let read := if c = '%' then escaped? p.rest else some (c,1)
            match read with
            | none => none
            | some (c,n) => (chars? accept fuel (p.past n)).map fun (cs,p) => (c :: cs,p)

def uri? (p : Place) : Option (List Char × Place) := chars? isUriChar (p.rest.length + 1) p

def handle? (p : Place) : Option (List Char × Place) :=
  match p.rest with
  | '!' :: rest =>
      let word := rest.takeWhile isWordChar
      let closing := if rest[word.length]? == some '!' then ['!'] else []
      let handle := '!' :: word ++ closing
      some (handle,p.past handle.length)
  | _ => none

def isDeclared (handle : List Char) : Bool := 2 ≤ handle.length && handle.getLast? == some '!'

def verbatim? (p : Place) : Option (Tag × Place) := do
  let (name,p) ← uri? (p.past 2)
  if p.rest.head? == some '>' then some (⟨"",String.ofList name⟩,p.past 1) else none

def shorthand? (p : Place) : Option (Tag × Place) := do
  let (handle,p) ← handle? p
  let (name,p) ← chars? isTagChar (p.rest.length + 1) p
  if isDeclared handle then
    if name.isEmpty then none
  let suffix := String.ofList (handle.drop 1 ++ name)
  some (if isDeclared handle then ⟨String.ofList handle,String.ofList name⟩
    else if suffix.isEmpty then ⟨"","!"⟩ else ⟨"!",suffix⟩,p)

def read? (inFlow : Bool) (p : Place) : Option (Tag × Place) := do
  let (tag,p) ← if (p.rest.drop 1).head? == some '<' then verbatim? p else shorthand? p
  if atGap p.rest || (inFlow && atFlowMark p.rest) then some (tag,p) else none

def core : String := "tag:yaml.org,2002:"

/- Puts the beginning of a name in place of its handle. A handle between two marks has to be
declared, but for `!!`. -/
def resolve? (declared : List (String × String)) (tag : Tag) : Option Tag :=
  match declared.find? (·.1 = tag.handle) with
  | some (_,start) => some { tag with handle := start }
  | none =>
      if tag.handle = "!!" then some { tag with handle := core }
      else if isDeclared tag.handle.toList then none
      else some tag

end Tag

namespace Directive

def number? (p : Place) : Option Place :=
  let digits := p.rest.takeWhile Decimal.isDigit
  if digits.isEmpty || 9 < digits.length then none else some (p.past digits.length)

def version? (p : Place) : Option (Directive × Place) := do
  let p ← number? p.pastBlanks
  if p.rest.head? != some '.' then none
  let p ← number? (p.past 1)
  some (.version,p)

def start? (p : Place) : Option (List Char × Place) :=
  match p.rest with
  | c :: _ => if c = '!' || Tag.isTagChar c then Tag.uri? p else none
  | [] => none

def handleStart? (p : Place) : Option (Directive × Place) := do
  let (mark,p) ← Tag.handle? p.pastBlanks
  if mark != ['!'] then
    if !Tag.isDeclared mark then none
  let (start,p) ← start? p.pastBlanks
  if atGap p.rest then some (.handle (String.ofList mark) (String.ofList start),p) else none

def read? (p : Place) : Option (Directive × Place) := do
  let word := p.rest.takeWhile isWordChar
  let q := p.past word.length
  if word.isEmpty || !atGap q.rest then none
  let (directive,q) ←
    if word = "YAML".toList then version? q
    else if word = "TAG".toList then handleStart? q
    else some (.handle "" "",q.pastComment)
  let q ← q.pastTrailing?
  if q.atEnd then some (directive,q)
  else if q.atLineEnd then some (directive,q.nextLine)
  else none

end Directive
end Muster.Yaml
