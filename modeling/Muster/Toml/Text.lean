import Muster.Json
import Muster.Time.Rfc3339
/-! Single TOML values: texts in their four quotings, numbers, and dates and times, which are kept
as text. -/
namespace Muster.Toml
open Decimal (isDigit digitsValue)

def isBlank (c : Char) : Bool := c = ' ' || c = '\t'

def skipBlanks (cs : List Char) : List Char := cs.dropWhile isBlank

def isControl (c : Char) : Bool := (c.toNat < 0x20 && c != '\t') || c.toNat = 0x7F

def lineEnd? (cs : List Char) : Option (List Char) :=
  match cs with
  | '\n' :: rest => some rest
  | '\r' :: '\n' :: rest => some rest
  | _ => none

def skipComment? (cs : List Char) : Option (List Char) :=
  match cs with
  | '#' :: rest =>
      let rest := rest.dropWhile fun c => !isControl c
      if rest.isEmpty || (lineEnd? rest).isSome then some rest else none
  | _ => some cs

def endLine? (cs : List Char) : Option (List Char) := do
  let rest ← skipComment? (skipBlanks cs)
  if rest.isEmpty then some [] else lineEnd? rest

def skipLines? : Nat → List Char → Option (List Char)
  | 0, _ => none
  | fuel + 1, cs =>
      match skipComment? (skipBlanks cs) with
      | none => none
      | some rest =>
          match lineEnd? rest with
          | some rest => skipLines? fuel rest
          | none => some rest

def codePoint? (count : Nat) (cs : List Char) : Option (Char × List Char) := do
  let digits := cs.take count
  if digits.length != count then none
  let n ← digits.foldlM (fun n c => (Json.hexValue? c).map (16 * n + ·)) 0
  if n < 0xD800 || (0xDFFF < n && n < 0x110000) then some (Char.ofNat n,cs.drop count) else none

def escape? (cs : List Char) : Option (Char × List Char) :=
  match cs with
  | 'x' :: rest => codePoint? 2 rest
  | 'u' :: rest => codePoint? 4 rest
  | 'U' :: rest => codePoint? 8 rest
  | 'e' :: rest => some ('\x1b',rest)
  | c :: rest => if c = '/' then none else (Json.simpleEscape? c).map (·,rest)
  | [] => none

def lineText? (quote : Char) : Nat → List Char → Option (List Char × List Char)
  | 0, _ => none
  | fuel + 1, cs =>
      match cs with
      | [] => none
      | c :: rest =>
          if c = quote then some ([],rest)
          else if isControl c then none
          else
            let read := if c = '\\' && quote = '"' then escape? rest else some (c,rest)
            match read with
            | none => none
            | some (c,rest) => (lineText? quote fuel rest).map fun (text,rest) => (c :: text,rest)

def skipEmptyLines : List Char → List Char
  | '\n' :: rest => skipEmptyLines rest
  | '\r' :: '\n' :: rest => skipEmptyLines rest
  | c :: rest => if isBlank c then skipEmptyLines rest else c :: rest
  | [] => []

def joinLines? (cs : List Char) : Option (List Char) := (lineEnd? (skipBlanks cs)).map skipEmptyLines

/- A text of several lines, up to three quotes; two more may stand right before those. The ends of
its lines stay as they are. A backslash at the end of a line joins it to the next word. -/
def linesText? (quote : Char) : Nat → List Char → Option (List Char × List Char)
  | 0, _ => none
  | fuel + 1, cs =>
      let quotes := (cs.takeWhile (· = quote)).length
      if 3 ≤ quotes then
        if quotes ≤ 5 then some (List.replicate (quotes - 3) quote,cs.drop quotes) else none
      else
        let next : Option (List Char × List Char) := match cs with
          | [] => none
          | '\r' :: '\n' :: rest => some (['\r','\n'],rest)
          | '\n' :: rest => some (['\n'],rest)
          | c :: rest =>
              if c = '\\' && quote = '"' then
                match joinLines? rest with
                | some rest => some ([],rest)
                | none => (escape? rest).map fun (c,rest) => ([c],rest)
              else if isControl c then none
              else some ([c],rest)
        match next with
        | none => none
        | some (read,rest) => (linesText? quote fuel rest).map fun (text,rest) => (read ++ text,rest)

def text? (quote : Char) (cs : List Char) : Option (String × List Char) :=
  let fuel := cs.length + 1
  let found := match cs with
    | a :: b :: rest =>
        if a = quote && b = quote then linesText? quote fuel ((lineEnd? rest).getD rest)
        else lineText? quote fuel cs
    | _ => lineText? quote fuel cs
  found.map fun (text,rest) => (String.ofList text,rest)

def digits? (isDigit : Char → Bool) : List Char → Option (List Char)
  | [] => none
  | [d] => if isDigit d then some [d] else none
  | d :: '_' :: rest => if isDigit d then (digits? isDigit rest).map (d :: ·) else none
  | d :: rest => if isDigit d then (digits? isDigit rest).map (d :: ·) else none

def within? (n : Int) : Option Json :=
  if Int64.minValue.toInt ≤ n && n ≤ Int64.maxValue.toInt then some (.int n) else none

def based? (base : Nat) (cs : List Char) : Option Json := do
  let digits ← digits? (fun c => (Json.hexValue? c).any (· < base)) cs
  let n := digits.foldl (fun n c => base * n + (Json.hexValue? c).getD 0) 0
  within? n

def wholePart? (cs : List Char) : Option (List Char) := do
  let digits ← digits? isDigit cs
  if cs.head? == some '0' && digits.length != 1 then none else some digits

def real? (negative : Bool) (cs : List Char) : Option Json := do
  let whole := cs.takeWhile fun c => isDigit c || c = '_'
  let rest := cs.drop whole.length
  let whole ← wholePart? whole
  let (places,rest) ← match rest with
    | '.' :: tail =>
        let places := tail.takeWhile fun c => isDigit c || c = '_'
        (digits? isDigit places).map (·,tail.drop places.length)
    | _ => if rest.isEmpty then none else some ([],rest)
  let exponent : Int ← match rest with
    | [] => some 0
    | e :: tail =>
        if e != 'e' && e != 'E' then none
        else
          let (down,digits) := Decimal.sign tail
          (digits? isDigit digits).map fun ds => if down then -(digitsValue ds : Int) else digitsValue ds
  let x := Decimal.nearest (digitsValue (whole ++ places)) (exponent - places.length)
  if x.isInf then none else some (.num (.real (Decimal.negate negative x)))

def number? (cs : List Char) : Option Json :=
  match cs with
  | '0' :: 'x' :: rest => based? 16 rest
  | '0' :: 'o' :: rest => based? 8 rest
  | '0' :: 'b' :: rest => based? 2 rest
  | _ =>
      let (negative,body) := Decimal.sign cs
      if body = "inf".toList then some (.num (.real (Decimal.negate negative (1.0 / 0.0))))
      else if body = "nan".toList then some (.num (.real (0.0 / 0.0)))
      else match wholePart? body with
        | some digits => within? (if negative then -(digitsValue digits : Int) else digitsValue digits)
        | none => real? negative body

def field? (count : Nat) (mark : Option Char) (cs : List Char) : Option (Nat × List Char) :=
  let digits := cs.take count
  if digits.length != count || !digits.all isDigit then none
  else match mark, cs.drop count with
    | none, rest => some (digitsValue digits,rest)
    | some c, d :: rest => if c = d then some (digitsValue digits,rest) else none
    | some _, [] => none

def date? (cs : List Char) : Option (String × List Char) := do
  let (year,rest) ← field? 4 (some '-') cs
  let (month,rest) ← field? 2 (some '-') rest
  let (day,rest) ← field? 2 none rest
  let date : Date := ⟨year,month,day⟩
  if date.isValid then some (Rfc3339.writeDate date,rest) else none

def fraction? (cs : List Char) : Option (String × List Char) :=
  match cs with
  | '.' :: rest =>
      let places := rest.takeWhile isDigit
      if places.isEmpty then none
      else
        let kept := ((places.take 9).reverse.dropWhile (· = '0')).reverse
        some ("." ++ (if kept.isEmpty then "0" else String.ofList kept),rest.drop places.length)
  | _ => some ("",cs)

def seconds? (cs : List Char) : Option (String × List Char) :=
  match cs with
  | ':' :: rest => do
      let (second,rest) ← field? 2 none rest
      let (fraction,rest) ← fraction? rest
      if 61 ≤ second then none else some (":" ++ Rfc3339.padded 2 second ++ fraction,rest)
  | _ => some ("",cs)

def time? (cs : List Char) : Option (String × List Char) := do
  let (hour,rest) ← field? 2 (some ':') cs
  let (minute,rest) ← field? 2 none rest
  let (seconds,rest) ← seconds? rest
  if 24 ≤ hour || 60 ≤ minute then none
  else some (Rfc3339.padded 2 hour ++ ":" ++ Rfc3339.padded 2 minute ++ seconds,rest)

def offset? (cs : List Char) : Option String :=
  match cs with
  | [] => some ""
  | c :: rest =>
      if (c = 'Z' || c = 'z') && rest.isEmpty then some "Z"
      else if c = '+' || c = '-' then do
        let (hour,rest) ← field? 2 (some ':') rest
        let (minute,rest) ← field? 2 none rest
        if 24 ≤ hour || 60 ≤ minute || !rest.isEmpty then none
        else
          let sign := if c = '-' && 0 < hour + minute then "-" else "+"
          some (sign ++ Rfc3339.padded 2 hour ++ ":" ++ Rfc3339.padded 2 minute)
      else none

def moment? (cs : List Char) : Option String :=
  match date? cs with
  | some (date,[]) => some date
  | some (date,t :: rest) =>
      if t = 'T' || t = 't' || t = ' ' then do
        let (time,rest) ← time? rest
        let offset ← offset? rest
        some (date ++ "T" ++ time ++ offset)
      else none
  | none => do
      let (time,rest) ← time? cs
      if rest.isEmpty then some time else none

def isWordChar (c : Char) : Bool := c.isAlphanum || c = '_' || c = '-' || c = '+' || c = '.' || c = ':'

def word? (cs : List Char) : Option (Json × List Char) :=
  let word := cs.takeWhile isWordChar
  let rest := cs.drop word.length
  let timed : Bool := match rest with
    | ' ' :: d :: _ => isDigit d && (date? word).any (·.2.isEmpty)
    | _ => false
  let tail := if timed then ' ' :: (rest.drop 1).takeWhile isWordChar else []
  let word := word ++ tail
  let rest := rest.drop tail.length
  if word = "true".toList then some (.bool true,rest)
  else if word = "false".toList then some (.bool false,rest)
  else match moment? word with
    | some text => some (.str text,rest)
    | none => (number? word).map (·,rest)

end Muster.Toml
