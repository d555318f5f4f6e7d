import Muster.Yaml.Place
import Muster.Yaml.Scalar
/-! The tokens of a YAML text. Columns decide where blocks begin and end. That a text is a key shows
only at the colon behind it, so the marks of a key are put before tokens that are there already. -/
namespace Muster.Yaml

inductive Token where
  | directive (directive : Directive)
  -- Three dashes, before a document.
  | dashes
  -- Three dots, behind a document.
  | dots
  | listBlock
  | mappingBlock
  | blockEnd
  -- A minus, before an item of a block.
  | item
  | listOpen
  | listClose
  | mappingOpen
  | mappingClose
  | comma
  | key
  | value
  | alias (name : String)
  | anchor (name : String)
  | tag (tag : Tag)
  | plain (text : String)
  | quoted (text : String)
  deriving DecidableEq, Repr

/- A token that may turn out to be a key: its number among the tokens, and where it stands. Where
it is required, no other token can stand in its place. -/
structure PossibleKey where
  number : Nat
  index : Nat
  line : Nat
  column : Nat
  required : Bool

/- An indentation with the one around it. One that is not a block's own keeps what follows a mark
on later lines to the right of that mark. -/
structure Indent where
  outer : Int
  ofBlock : Bool

structure Lexer where
  place : Place
  tokens : Array Token
  -- The column at which the last token began.
  lastColumn : Nat
  indent : Int
  -- The indentations, the innermost first.
  indents : List Indent
  keyAllowed : Bool
  -- The possible key of this collection in brackets, or of the block.
  possible : Option PossibleKey
  -- Those of the collections around this one.
  outerPossible : List (Option PossibleKey)
  -- A mapping in brackets has begun.
  mappingBegun : Bool
  -- The last colon began a pair without braces among the items of a list.
  pairBegun : Bool
  -- The index at which a colon needs no gap behind it.
  adjacentAt : Nat

namespace Lexer

def start (cs : List Char) : Lexer :=
  { place := .start cs,tokens := #[],lastColumn := 0,indent := -1,indents := [],keyAllowed := true
    possible := none,outerPossible := [],mappingBegun := false,pairBegun := false,adjacentAt := 0 }

def inFlow (x : Lexer) : Bool := !x.outerPossible.isEmpty

def push (x : Lexer) (column : Nat) (t : Token) : Lexer :=
  { x with tokens := x.tokens.push t,lastColumn := column }

def insert (x : Lexer) (number : Nat) (t : Token) : Lexer :=
  { x with tokens := x.tokens.insertIdxIfInBounds number t }

def addMargin (x : Lexer) : Lexer :=
  if !x.inFlow && x.indents.head?.any (·.ofBlock) then
    { x with indents := ⟨x.indent,false⟩ :: x.indents,indent := x.indent + 1 }
  else x

def dropMargins (x : Lexer) : Lexer :=
  match x.indents.dropWhile (!·.ofBlock), (x.indents.takeWhile (!·.ofBlock)).getLast? with
  | kept, some margin => { x with indents := kept,indent := margin.outer }
  | _, none => x

def openBlock (x : Lexer) (column : Nat) (number : Option Nat) (t : Token) : Lexer :=
  let here : Int := column
  if x.inFlow then x
  else
    let x := match x.indents with
      | margin :: outer =>
          if x.indent ≤ here && !margin.ofBlock then { x with indents := outer,indent := margin.outer } else x
      | [] => x
    if x.indent < here then
      let x := { x with indents := ⟨x.indent,true⟩ :: x.indents,indent := here }
      match number with
      | some n => x.insert n t
      | none => x.push column t
    else x

def closeBlocksFrom (column : Int) : List Indent → Lexer → Lexer
  | [], x => x
  | i :: outer, x =>
      if x.indent ≤ column then x
      else
        let x := { x with indents := outer,indent := i.outer }
        closeBlocksFrom column outer (if i.ofBlock then x.push x.place.column .blockEnd else x)

def closeBlocks (x : Lexer) (column : Int) : Lexer :=
  if x.inFlow then x else closeBlocksFrom column x.indents x

def saveKey (x : Lexer) : Lexer :=
  if x.keyAllowed then
    let p := x.place
    let required := !x.inFlow && x.indent == p.column && x.indents.head?.any (·.ofBlock)
    { x with possible := some ⟨x.tokens.size,p.index,p.line,p.column,required⟩ }
  else x

def dropKey? (x : Lexer) : Option Lexer :=
  if x.possible.any (·.required) then none else some { x with possible := none }

def keyLimit : Nat := 1024

def dropStaleKey? (x : Lexer) : Option Lexer :=
  match x.possible with
  | some key =>
      if !x.inFlow && (key.line < x.place.line || key.index + keyLimit < x.place.index) then x.dropKey? else some x
  | none => some x

def moveTo (x : Lexer) (p : Place) : Lexer := { x with place := p }

def allowKey (x : Lexer) (allowed : Bool) : Lexer := { x with keyAllowed := allowed }

def toContent? (x : Lexer) : Option Lexer := do
  let bound := if x.indents.isEmpty then none else some x.indent
  let (p,crossed) ← x.place.toContent? bound
  some { x with place := p,keyAllowed := x.keyAllowed || (crossed && !x.inFlow) }

def flowLimit : Nat := 255

def pastMark? (x : Lexer) : Option Lexer := (x.place.past 1).pastTrailing?.map x.moveTo

def openFlow? (t : Token) (x : Lexer) : Option Lexer := do
  let x := x.saveKey.addMargin
  if flowLimit ≤ x.outerPossible.length then none
  let x := { x with
    possible := none,outerPossible := x.possible :: x.outerPossible,keyAllowed := true
    mappingBegun := x.mappingBegun || t = Token.mappingOpen }
  (← x.pastMark?).push x.place.column t

def endPair (x : Lexer) : Lexer :=
  if x.pairBegun then { x with pairBegun := false,mappingBegun := false }.push x.place.column .mappingClose
  else x

def closeFlow? (t : Token) (x : Lexer) : Option Lexer := do
  let x ← x.dropKey?
  let x := match x.outerPossible with
    | [] => x
    | key :: outer => { x with possible := key,outerPossible := outer }
  let x := (x.allowKey false).endPair
  let y ← x.pastMark?
  let y := if y.inFlow then { y with adjacentAt := y.place.index } else y
  y.push x.place.column t

def comma? (x : Lexer) : Option Lexer := do
  let x := ((← x.dropKey?).allowKey true).endPair
  (← x.pastMark?).push x.place.column .comma

def propertyAtMargin (x : Lexer) : Bool :=
  x.lastColumn = 0 && match x.tokens.back? with
    | some (.anchor _) | some (.tag _) => true
    | _ => false

def item? (x : Lexer) : Option Lexer := do
  let column := x.place.column
  if x.inFlow || !x.keyAllowed || (column = 0 && -1 < x.indent && x.propertyAtMargin) then none
  let sign := x.place.past 1
  let x := (x.moveTo sign).openBlock column none .listBlock
  let p ← sign.pastTrailing?
  let tabbed := (sign.rest.takeWhile isBlank).contains '\t'
  if tabbed && p.rest.head? == some '-' && atGap (p.rest.drop 1) then none
  let x := x.moveTo p
  let x := if !p.atEnd && (p.atLineEnd || atFlowMark p.rest) then x.addMargin else x
  let x ← x.dropKey?
  (x.allowKey true).push p.column .item

def pastSpaces : Nat → Bool → Place → Bool × Place
  | 0, found, p => (found,p)
  | fuel + 1, found, p =>
      match p.rest with
      | ' ' :: _ => pastSpaces fuel true p.pastBlank
      | '\n' :: _ => pastSpaces fuel true p.nextLine
      | '#' :: _ => pastSpaces fuel found p.pastComment
      | _ => (found,p)

def keyMark? (x : Lexer) : Option Lexer := do
  let column := x.place.column
  if !x.inFlow && !x.keyAllowed then none
  let x := if x.inFlow then { x with mappingBegun := true } else x.openBlock column none .mappingBlock
  let x := (← x.dropKey?).allowKey !x.inFlow
  let (found,p) := pastSpaces (x.place.rest.length + 1) false (x.place.past 1)
  if !found || p.rest.head? == some '\t' then none
  (x.moveTo p).push column .key

def pastColon? (p : Place) : Option Place :=
  if p.rest.head? == some '\t' then
    match p.pastTrailing? with
    | some q =>
        if !(p.rest.takeWhile isBlank).contains ' ' && q.rest.head?.any isWordChar then none else some q
    | none => none
  else some p

def value? (x : Lexer) : Option Lexer := do
  let colon := x.place
  let pair := x.inFlow && !x.mappingBegun
  let p ← pastColon? (colon.past 1)
  let x := { x with place := p,pairBegun := pair }
  let x ← match x.possible with
    | some key =>
        if pair && key.line < colon.line then none
        else
          let x := x.insert key.number .key
          let x := if pair then x.insert key.number .mappingOpen else x
          let x := (x.openBlock key.column (some key.number) .mappingBlock).addMargin
          some ({ x with possible := none }.allowKey false)
    | none =>
        let x := if pair then x.push p.column .mappingOpen else x
        if !x.inFlow && !x.keyAllowed then none
        else some (((x.openBlock colon.column none .mappingBlock).addMargin).allowKey !x.inFlow)
  x.push colon.column .value

def flowValue? (x : Lexer) : Option Lexer :=
  let next := (x.place.rest.drop 1).head?
  if x.place.index != x.adjacentAt && (next == some '[' || next == some '\x7b') then none else x.value?

def isNameChar (c : Char) : Bool := !(isBlank c || c = '\n' || c = '\uFEFF' || isFlowMark c)

def name? (token : String → Token) (x : Lexer) : Option Lexer := do
  let y := x.saveKey.allowKey false
  let p := x.place.past 1
  let name := p.rest.takeWhile isNameChar
  if name.isEmpty then none
  (y.moveTo (p.past name.length)).push x.place.column (token (String.ofList name))

def tag? (x : Lexer) : Option Lexer := do
  let (tag,p) ← Tag.read? x.inFlow x.place
  ((x.saveKey.allowKey false).moveTo p).push x.place.column (.tag tag)

def block? (folded : Bool) (x : Lexer) : Option Lexer := do
  let y := (x.saveKey.allowKey true).dropMargins
  let (text,p) ← Block.text? folded y.indent (x.place.past 1)
  (y.moveTo p).push x.place.column (.quoted (String.ofList text))

/- What follows a quoted text on its line: nothing, a mark of the collection around it, or the
colon behind a key. -/
def canFollowQuoted (inFlow sameLine : Bool) (p : Place) : Bool :=
  p.atLineEnd || match p.rest with
    | ':' :: _ => inFlow || sameLine
    | c :: _ => inFlow && (c = ',' || c = ']' || c = '\x7d')
    | [] => true

def quoted? (quote : Quote) (x : Lexer) : Option Lexer := do
  let y := x.saveKey.allowKey false
  let (text,p) ← Quoted.text? quote x.indent (x.place.rest.length + 1) (x.place.past 1)
  let p ← p.pastTrailing?
  if !canFollowQuoted x.inFlow (x.place.line = p.line) p then none
  let y ← (y.moveTo p).toContent?
  { y with adjacentAt := y.place.index }.push x.place.column (.quoted (String.ofList text))

def plain? (x : Lexer) : Option Lexer := do
  let y := (x.saveKey.allowKey false).dropMargins
  let bound := y.indent + 1
  if x.inFlow && x.place.column < bound then none
  let (text,p) ← Plain.text? x.inFlow bound (x.place.rest.length + 1) .none x.place
  if text.isEmpty then none
  ((y.moveTo p).allowKey p.indented).push x.place.column (.plain (String.ofList text))

def leaveBlocks? (x : Lexer) : Option Lexer := (x.closeBlocks (-1)).dropKey?.map (·.allowKey false)

def margin? (x : Lexer) : Option (Option Lexer) :=
  if x.place.column != 0 then none
  else if x.place.rest.head? == some '%' then
    some do
      let (directive,p) ← Directive.read? (x.place.past 1)
      ((← x.leaveBlocks?).moveTo p).push 0 (.directive directive)
  else if x.place.atDashes then
    some do
      let x ← x.leaveBlocks?
      (x.moveTo (x.place.past 3)).push 0 .dashes
  else if x.place.atDots then
    some do
      let x ← x.leaveBlocks?
      let p ← (x.place.past 3).pastTrailing?
      if p.atLineEnd then (x.moveTo p).push 0 .dots else none
  else none

def token? (x : Lexer) : Option Lexer :=
  match x.place.rest with
  | [] => none
  | c :: rest =>
      match c with
      | '[' => x.openFlow? .listOpen
      | '\x7b' => x.openFlow? .mappingOpen
      | ']' => x.closeFlow? .listClose
      | '\x7d' => x.closeFlow? .mappingClose
      | ',' => x.comma?
      | '*' => x.name? .alias
      | '&' => x.name? .anchor
      | '!' => x.tag?
      | '\'' => x.quoted? .single
      | '"' => x.quoted? .double
      | '%' | '@' | '\x60' => none
      | _ =>
          if c = '-' && atGap rest then x.item?
          else if c = '?' && atGap rest then x.keyMark?
          else if c = ':' && atGap rest then x.value?
          else if c = ':' && x.inFlow && (atFlowMark rest || x.place.index = x.adjacentAt) then x.flowValue?
          else if (c = '|' || c = '>') && !x.inFlow then x.block? (c = '>')
          else x.plain?

def finish? (x : Lexer) : Option (List Token) := do
  let x ← x.dropKey?
  some (x.closeBlocks (-1)).tokens.toList

def readAll : Nat → Lexer → Option (List Token)
  | 0, _ => none
  | fuel + 1, x =>
      match x.toContent?.bind dropStaleKey? with
      | none => none
      | some x =>
          let x := x.closeBlocks x.place.column
          if x.place.atEnd then x.finish?
          else
            let next := match x.margin? with
              | some next => next
              | none => if x.place.column < x.indent then none else x.token?
            match next with
            | some x => readAll fuel x
            | none => none

end Lexer

def Token.readAll (s : String) : Option (List Token) :=
  let cs := lineFeeds (s.toList.takeWhile (· != '\x00'))
  Lexer.readAll (cs.length + 2) (.start cs)

end Muster.Yaml
