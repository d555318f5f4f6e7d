/-! Decimal text and binary numbers. A number is written with the fewest digits that read back as it: a
grid of powers of ten is searched from coarse to fine, in exact arithmetic. Reading goes two ways.
`nearest` rounds the exact decimal once; `scaled` rounds the digits first and then multiplies or divides
by one power of ten, which is what JSON numbers are read with. They differ in the last place of long
numbers. -/
namespace Muster.Decimal

/- The positive number `mantissa · 2 ^ scale`, with the gap below it halved at a power of two. -/
structure Dyadic where
  mantissa : Nat
  scale : Int
  narrowBelow : Bool

structure Digits where
  digits : Nat
  exponent : Int
  deriving DecidableEq, Repr

def powUp (base : Nat) (e : Int) : Nat := base.pow e.toNat

/- The point `n` of the grid of step `10 ^ k`, against `quarters · 2 ^ (scale - 2)`. Both sides are
multiplied out, so the comparison is one of natural numbers. -/
structure Grid where
  point : Nat
  quarter : Nat

def Dyadic.grid (x : Dyadic) (k : Int) : Grid :=
  ⟨powUp 10 k * powUp 2 (2 - x.scale),powUp 2 (x.scale - 2) * powUp 10 (-k)⟩

def Dyadic.holds (x : Dyadic) (g : Grid) (n : Nat) : Bool :=
  let low := (4 * x.mantissa - if x.narrowBelow then 1 else 2) * g.quarter
  let high := (4 * x.mantissa + 2) * g.quarter
  let value := n * g.point
  if x.mantissa % 2 == 0 then low ≤ value && value ≤ high else low < value && value < high

/- The point of the grid that stands for `x`: of the two neighbours the one that reads back, of
two such the nearer, of two as near the even one. -/
def Dyadic.onGrid? (x : Dyadic) (k : Int) : Option Nat :=
  let g := x.grid k
  let value := 4 * x.mantissa * g.quarter
  let below := value / g.point
  match x.holds g below, x.holds g (below + 1) with
  | false, false => none
  | true, false => some below
  | false, true => some (below + 1)
  | true, true =>
      if 2 * value < (2 * below + 1) * g.point then some below
      else if (2 * below + 1) * g.point < 2 * value then some (below + 1)
      else some (if below % 2 == 0 then below else below + 1)

def Dyadic.search (x : Dyadic) : Nat → Int → Digits
  | 0, k => ⟨4 * x.mantissa * (x.grid k).quarter / (x.grid k).point,k⟩
  | steps + 1, k =>
      match x.onGrid? k with
      | some n => ⟨n,k⟩
      | none => x.search steps (k - 1)

def Dyadic.shortest (x : Dyadic) : Digits :=
  x.search 24 (((x.mantissa.log2 : Int) + x.scale) * 30103 / 100000 + 2)

def dyadic? (value : Float) : Option Dyadic :=
  let bits : Nat := value.toBits.toNat
  let fraction : Nat := bits % (1 <<< 52)
  let exponent : Nat := (bits >>> 52) % (1 <<< 11)
  if exponent == 0x7FF then none
  else if exponent == 0 then
    if fraction == 0 then none else some ⟨fraction,-1074,false⟩
  else some ⟨fraction + (1 <<< 52),(exponent : Int) - 1075,fraction == 0 && exponent != 1⟩

def isNegative (value : Float) : Bool := value.toBits.toNat >>> 63 == 1

def positional (digits : String) (point : Int) (markReal : Bool) : String :=
  let length : Int := digits.length
  if length ≤ point then
    digits ++ "".pushn '0' (point - length).toNat ++ if markReal then ".0" else ""
  else if 0 < point then
    String.ofList (digits.toList.take point.toNat) ++ "." ++
      String.ofList (digits.toList.drop point.toNat)
  else "0." ++ "".pushn '0' (-point).toNat ++ digits

def scientific (digits : String) (exponent : Int) : String :=
  let mantissa := match digits.toList with
    | d :: e :: rest => String.ofList (d :: '.' :: e :: rest)
    | _ => digits
  mantissa ++ "e" ++ (if exponent < 0 then "-" else "+") ++ toString exponent.natAbs

/- The choices a format makes. A number whose leading digit stands for `10 ^ e` with `e` outside
`range` is written with a power of ten, where there is a range; `markReal` writes whole numbers
with a point. -/
structure Style where
  range : Option (Int × Int)
  markReal : Bool
  notANumber : String

def Style.json : Style := ⟨some (-5,15),true,"null"⟩

def Style.plain : Style := ⟨none,false,"NaN"⟩

def Style.magnitude (style : Style) (x : Dyadic) : String :=
  let shortest := x.shortest
  let digits := toString shortest.digits
  let point := digits.length + shortest.exponent
  match style.range with
  | none => positional digits point style.markReal
  | some (low,high) =>
      if low ≤ point - 1 && point - 1 ≤ high then positional digits point style.markReal
      else scientific digits (point - 1)

def Style.write (style : Style) (value : Float) : String :=
  if value.isNaN then style.notANumber
  else
    let sign := if isNegative value then "-" else ""
    match dyadic? value with
    | some x => sign ++ style.magnitude x
    | none =>
        if value.isInf then (if style.markReal then style.notANumber else sign ++ "inf")
        else sign ++ if style.markReal then "0.0" else "0"

def isDigit (c : Char) : Bool := '0' ≤ c && c ≤ '9'

def digitValue (c : Char) : Nat := c.toNat - '0'.toNat

def digitsValue (ds : List Char) : Nat := ds.foldl (fun n d => 10 * n + digitValue d) 0

def negate (negative : Bool) (value : Float) : Float := if negative then -value else value

def roundRatio (num den : Nat) : Nat :=
  let whole := num / den
  let rest := num % den
  if 2 * rest < den || (2 * rest == den && whole % 2 == 0) then whole else whole + 1

def log2Ratio (num den : Nat) : Int :=
  let e : Int := num.log2 - den.log2
  if num <<< (-e).toNat < den <<< e.toNat then e - 1 else e

/- The binary number nearest to a ratio: 53 bits of it, or fewer where the last one is worth
`2 ^ -1074`. A significand that rounds up to the next power carries into the exponent, and past the
greatest exponent lies infinity. -/
def ofRatio (num den : Nat) : Float :=
  if num == 0 then 0.0
  else
    let scale := max (log2Ratio num den - 52) (-1074)
    let significand := roundRatio (num <<< (-scale).toNat) (den <<< scale.toNat)
    let bits := significand + ((scale + 1074).toNat <<< 52)
    .ofBits (.ofNat (min bits (0x7FF <<< 52)))

/- The binary number nearest to `digits · 10 ^ exponent`. Exponents far outside the range give
zero and infinity without a power being computed. -/
def nearest (digits : Nat) (exponent : Int) : Float :=
  let size := (toString digits).length + exponent
  if digits == 0 || size < -330 then 0.0
  else if 311 < size then 1.0 / 0.0
  else ofRatio (digits * Nat.pow 10 exponent.toNat) (Nat.pow 10 (-exponent).toNat)

/- The rounded significand, brought to its size by powers of ten up to `10 ^ 308`; nothing when
it leaves the range of finite numbers. -/
def scaledFrom : Nat → Float → Int → Option Float
  | 0, value, _ => some value
  | steps + 1, value, exponent =>
      if exponent.natAbs ≤ 308 then
        let power := nearest 1 exponent.natAbs
        if 0 ≤ exponent then
          let product := value * power
          if product.isInf then none else some product
        else some (value / power)
      else if value == 0.0 then some value
      else if 0 ≤ exponent then none
      else scaledFrom steps (value / nearest 1 308) (exponent + 308)

def scaled (significand : Nat) (exponent : Int) : Option Float :=
  scaledFrom 8 (nearest significand 0) exponent

def pointDigits? (cs : List Char) : Option (Nat × Nat × List Char) :=
  let whole := cs.takeWhile isDigit
  let rest := cs.dropWhile isDigit
  match rest with
  | '.' :: tail =>
      let places := tail.takeWhile isDigit
      if whole.isEmpty && places.isEmpty then none
      else some (digitsValue (whole ++ places),places.length,tail.dropWhile isDigit)
  | _ => if whole.isEmpty then none else some (digitsValue whole,0,rest)

def sign (cs : List Char) : Bool × List Char :=
  match cs with
  | '-' :: rest => (true,rest)
  | '+' :: rest => (false,rest)
  | _ => (false,cs)

def exponent? (cs : List Char) : Option Int :=
  match cs with
  | [] => some 0
  | e :: rest =>
      if e != 'e' && e != 'E' then none
      else
        let (negative,digits) := sign rest
        if digits.isEmpty || !digits.all isDigit then none
        else some (if negative then -(digitsValue digits : Int) else digitsValue digits)

def real? (s : String) : Option Float :=
  let (negative,body) := sign s.toList
  let word := String.ofList (body.map Char.toLower)
  if word == "inf" || word == "infinity" then some (negate negative (1.0 / 0.0))
  else if word == "nan" then some (0.0 / 0.0)
  else do
    let (digits,places,rest) ← pointDigits? body
    let exponent ← exponent? rest
    some (negate negative (nearest digits (exponent - places)))

def whole? (low high : Int) (s : String) : Option Int :=
  let (negative,digits) := match s.toList with
    | '-' :: rest => if low < 0 then (true,rest) else (false,'-' :: rest)
    | '+' :: rest => (false,rest)
    | cs => (false,cs)
  if digits.isEmpty || !digits.all isDigit then none
  else
    let value : Int := if negative then -(digitsValue digits : Int) else digitsValue digits
    if low ≤ value && value ≤ high then some value else none

end Muster.Decimal
