import Muster.Decimal
import Muster.Table
import Muster.Text.Basic
/-! JSON values and their text. An object holds its fields in ascending key order and each key once,
except where an answer is written in an order of its own. Text is written without blanks. Its reader is
strict: no blanks but the four of the grammar, no lone surrogates, no number beyond the finite ones,
nothing behind the value, and lists and objects only so deep. Of a repeated key the last value stands. -/
namespace Muster

/- Whole numbers of 64 bits, signed or not, are kept exactly; every other number is binary. -/
inductive Json.Number where
  | whole (value : Int)
  | real (value : Float)
  deriving DecidableEq

inductive Json where
  | null
  | bool (value : Bool)
  | num (value : Json.Number)
  | str (value : String)
  | arr (items : List Json)
  | obj (fields : List (String × Json))

namespace Json

instance : Inhabited Json := ⟨null⟩

instance : Coe String Json := ⟨str⟩
instance : Coe Bool Json := ⟨bool⟩

def int (value : Int) : Json := num (.whole value)

def nat (value : Nat) : Json := int value

def object (fields : List (String × Json)) : Json := obj (Entries.ofPairs fields)

def strings (values : List String) : Json := arr (values.map str)

def ofOption {α : Type} (encode : α → Json) : Option α → Json
  | none => null
  | some value => encode value

def ofTable {β : Type} (encode : β → Json) (table : Table β) : Json :=
  obj (table.entries.map fun (key,value) => (key,encode value))

def field? (key : String) : Json → Option Json
  | obj fields => Entries.find? key fields
  | _ => none

def str? : Json → Option String
  | str value => some value
  | _ => none

def within? (low high : Int) : Json → Option Int
  | num (.whole value) => if low ≤ value && value ≤ high then some value else none
  | _ => none

open Text (hexDigit)

def escape (c : Char) : List Char :=
  if c = '"' then ['\\','"']
  else if c = '\\' then ['\\','\\']
  else if c = '\n' then ['\\','n']
  else if c = '\r' then ['\\','r']
  else if c = '\t' then ['\\','t']
  else if c.toNat = 0x8 then ['\\','b']
  else if c.toNat = 0xC then ['\\','f']
  else if c.toNat < 0x20 then
    ['\\','u','0','0',hexDigit (c.toNat / 16),hexDigit (c.toNat % 16)]
  else [c]

def renderText (out : String) (s : String) : String :=
  (s.toList.foldl (fun out c => (escape c).foldl String.push out) (out.push '"')).push '"'

def Number.render : Number → String
  | .whole value => toString value
  | .real value => Decimal.Style.json.write value

mutual

def renderTo (out : String) : Json → String
  | null => out ++ "null"
  | bool value => out ++ if value then "true" else "false"
  | num value => out ++ value.render
  | str value => renderText out value
  | arr items => (renderItems (out.push '[') true items).push ']'
  | obj fields => (renderFields (out.push '\x7b') true fields).push '\x7d'

def renderItems (out : String) (first : Bool) : List Json → String
  | [] => out
  | item :: rest =>
      renderItems (renderTo (if first then out else out.push ',') item) false rest

def renderFields (out : String) (first : Bool) : List (String × Json) → String
  | [] => out
  | (key,value) :: rest =>
      let out := renderText (if first then out else out.push ',') key
      renderFields (renderTo (out.push ':') value) false rest

end

def render (value : Json) : String := renderTo "" value

open Decimal (isDigit digitValue digitsValue)

def isSpace (c : Char) : Bool := c = ' ' || c = '\n' || c = '\r' || c = '\t'

def skip (cs : List Char) : List Char := cs.dropWhile isSpace

def absorb (significand : Nat) : List Char → Nat × List Char
  | [] => (significand,[])
  | d :: rest =>
      let next := 10 * significand + digitValue d
      if next < UInt64.size then absorb next rest else (significand,d :: rest)

def exponent? (cs : List Char) : Option (Option Int × List Char) :=
  match cs with
  | e :: rest =>
      if e = 'e' || e = 'E' then
        let (negative,rest) := Decimal.sign rest
        let digits := rest.takeWhile isDigit
        if digits.isEmpty then none
        else
          let size : Int := digitsValue digits
          some (some (if negative then -size else size),rest.dropWhile isDigit)
      else some (none,cs)
  | [] => some (none,[])

/- Digits that do not fit the significand only move the point when they stand before it. A zero
with a minus sign is the real one. -/
def number? (cs : List Char) : Option (Number × List Char) := do
  let (negative,cs) := match cs with
    | '-' :: rest => (true,rest)
    | _ => (false,cs)
  let whole := cs.takeWhile isDigit
  let rest := cs.dropWhile isDigit
  if whole.isEmpty || (whole.head? == some '0' && whole.length != 1) then none
  let (significand,excess) := absorb 0 whole
  let (places,rest,fraction) ← match rest with
    | '.' :: tail =>
        let places := tail.takeWhile isDigit
        if places.isEmpty then none else some (places,tail.dropWhile isDigit,true)
    | _ => some ([],rest,false)
  let (significand,unused) := absorb significand places
  let (exponent,rest) ← exponent? rest
  if !fraction && exponent.isNone && excess.isEmpty && !(negative && significand == 0) &&
      !(negative && -(significand : Int) < Int64.minValue.toInt) then
    some (.whole (if negative then -significand else significand),rest)
  else
    let shift : Int := excess.length - (places.length - unused.length : Nat) + exponent.getD 0
    let value ← Decimal.scaled significand shift
    some (.real (Decimal.negate negative value),rest)

def hexValue? (c : Char) : Option Nat :=
  if isDigit c then some (digitValue c)
  else if 'a' ≤ c && c ≤ 'f' then some (c.toNat - 'a'.toNat + 10)
  else if 'A' ≤ c && c ≤ 'F' then some (c.toNat - 'A'.toNat + 10)
  else none

def unit? (cs : List Char) : Option (Nat × List Char) :=
  match cs with
  | a :: b :: c :: d :: rest => do
      some ((((← hexValue? a) * 16 + (← hexValue? b)) * 16 + (← hexValue? c)) * 16 + (← hexValue? d),rest)
  | _ => none

def unicode? (cs : List Char) : Option (Char × List Char) := do
  let (high,rest) ← unit? cs
  if 0xDC00 ≤ high && high ≤ 0xDFFF then none
  else if 0xD800 ≤ high && high ≤ 0xDBFF then
    match rest with
    | '\\' :: 'u' :: rest =>
        let (low,rest) ← unit? rest
        if 0xDC00 ≤ low && low ≤ 0xDFFF then
          some (Char.ofNat (0x10000 + (high - 0xD800) * 0x400 + (low - 0xDC00)),rest)
        else none
    | _ => none
  else some (Char.ofNat high,rest)

def simpleEscape? (c : Char) : Option Char :=
  if c = '"' || c = '\\' || c = '/' then some c
  else if c = 'b' then some '\x08'
  else if c = 'f' then some '\x0c'
  else if c = 'n' then some '\n'
  else if c = 'r' then some '\r'
  else if c = 't' then some '\t'
  else none

def text? : Nat → List Char → List Char → Option (String × List Char)
  | 0, _, _ => none
  | fuel + 1, seen, cs =>
      match cs with
      | [] => none
      | '"' :: rest => some (String.ofList seen.reverse,rest)
      | '\\' :: 'u' :: rest =>
          match unicode? rest with
          | some (c,rest) => text? fuel (c :: seen) rest
          | none => none
      | '\\' :: e :: rest =>
          match simpleEscape? e with
          | some c => text? fuel (c :: seen) rest
          | none => none
      | c :: rest => if c.toNat < 0x20 || c = '\\' then none else text? fuel (c :: seen) rest

def word? (word : List Char) (value : Json) (cs : List Char) : Option (Json × List Char) :=
  if word.isPrefixOf cs then some (value,cs.drop word.length) else none

mutual

def value? : Nat → Nat → List Char → Option (Json × List Char)
  | 0, _, _ => none
  | fuel + 1, depth, cs =>
      match skip cs with
      | [] => none
      | c :: rest =>
          if c = '"' then
            match text? (rest.length + 1) [] rest with
            | some (s,rest) => some (str s,rest)
            | none => none
          else if c = '[' then
            if depth ≤ 1 then none
            else match skip rest with
              | ']' :: rest => some (arr [],rest)
              | rest => items? fuel (depth - 1) [] rest
          else if c = '\x7b' then
            if depth ≤ 1 then none
            else match skip rest with
              | '\x7d' :: rest => some (obj [],rest)
              | rest => fields? fuel (depth - 1) [] rest
          else if c = 'n' then word? "null".toList null (c :: rest)
          else if c = 't' then word? "true".toList (bool true) (c :: rest)
          else if c = 'f' then word? "false".toList (bool false) (c :: rest)
          else match number? (c :: rest) with
            | some (n,rest) => some (num n,rest)
            | none => none

def items? : Nat → Nat → List Json → List Char → Option (Json × List Char)
  | 0, _, _, _ => none
  | fuel + 1, depth, seen, cs =>
      match value? fuel depth cs with
      | none => none
      | some (item,rest) =>
          match skip rest with
          | ',' :: rest => items? fuel depth (item :: seen) rest
          | ']' :: rest => some (arr (item :: seen).reverse,rest)
          | _ => none

def fields? : Nat → Nat → List (String × Json) → List Char → Option (Json × List Char)
  | 0, _, _, _ => none
  | fuel + 1, depth, seen, cs =>
      match skip cs with
      | '"' :: rest =>
          match text? (rest.length + 1) [] rest with
          | none => none
          | some (key,rest) =>
              match skip rest with
              | ':' :: rest =>
                  match value? fuel depth rest with
                  | none => none
                  | some (value,rest) =>
                      match skip rest with
                      | ',' :: rest => fields? fuel depth (Entries.put key value seen) rest
                      | '\x7d' :: rest => some (obj (Entries.put key value seen),rest)
                      | _ => none
              | _ => none
      | _ => none

end

def depthLimit : Nat := 128

/- The value that makes up the whole text. Every step of the reader takes a character or opens
the next part, so twice the length bounds the steps. -/
def parseWithin (depth : Nat) (s : String) : Option Json :=
  let cs := s.toList
  match value? (2 * cs.length + 2) depth cs with
  | some (value,rest) => if (skip rest).isEmpty then some value else none
  | none => none

def parse (s : String) : Option Json := parseWithin depthLimit s

def parseBytes (bytes : ByteArray) : Option Json :=
  match String.fromUTF8? bytes with
  | some s => parse s
  | none => none

end Json
end Muster
