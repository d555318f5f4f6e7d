import Muster.Decimal
import Muster.Text.Basic
import Muster.Time.Clock
/-! Instants as text. Dates are those of the Gregorian calendar, run forwards and backwards without end;
inside, years begin in March so that the leap day comes last. Writing is exact and has one form per use;
reading also takes offsets from UTC, blanks between the parts, and a blank or a small letter for the
`T`. -/
namespace Muster

structure Date where
  year : Int
  month : Nat
  day : Nat
  deriving DecidableEq, Repr

namespace Date

def isLeap (year : Int) : Bool := year % 4 == 0 && (year % 100 != 0 || year % 400 == 0)

def monthLength (year : Int) : Nat → Nat
  | 2 => if isLeap year then 29 else 28
  | 4 | 6 | 9 | 11 => 30
  | _ => 31

def isValid (d : Date) : Bool :=
  -262143 ≤ d.year && d.year ≤ 262142 && 1 ≤ d.month && d.month ≤ 12 && 1 ≤ d.day &&
    d.day ≤ monthLength d.year d.month

def toDays (d : Date) : Int :=
  let year := if d.month ≤ 2 then d.year - 1 else d.year
  let yearOfEra := year % 400
  let month : Int := (d.month + 9) % 12
  let dayOfYear := (153 * month + 2) / 5 + d.day - 1
  year / 400 * 146097 + (yearOfEra * 365 + yearOfEra / 4 - yearOfEra / 100 + dayOfYear) - 719468

def ofDays (days : Int) : Date :=
  let shifted := days + 719468
  let dayOfEra := shifted % 146097
  let yearOfEra := (dayOfEra - dayOfEra / 1460 + dayOfEra / 36524 - dayOfEra / 146096) / 365
  let dayOfYear := dayOfEra - (365 * yearOfEra + yearOfEra / 4 - yearOfEra / 100)
  let month := (5 * dayOfYear + 2) / 153
  let day := dayOfYear - (153 * month + 2) / 5 + 1
  let monthOfYear := if month < 10 then month + 3 else month - 9
  let year := yearOfEra + shifted / 146097 * 400
  ⟨if monthOfYear ≤ 2 then year + 1 else year,monthOfYear.toNat,day.toNat⟩

end Date

namespace Rfc3339
open Text (trimStart)
open Decimal (isDigit digitsValue)

def padded (width n : Nat) : String :=
  let digits := toString n
  "".pushn '0' (width - digits.length) ++ digits

def writeYear (year : Int) : String :=
  if 0 ≤ year && year ≤ 9999 then padded 4 year.toNat
  else (if year < 0 then "-" else "+") ++ padded 4 year.natAbs

def writeFraction (nano : Nat) : String :=
  if nano == 0 then ""
  else if nano % 1000000 == 0 then "." ++ padded 3 (nano / 1000000)
  else if nano % 1000 == 0 then "." ++ padded 6 (nano / 1000)
  else "." ++ padded 9 nano

def writeTime (daySecond nano : Nat) : String :=
  let second := daySecond % 60 + nano / 1000000000
  padded 2 (daySecond / 3600) ++ ":" ++ padded 2 (daySecond / 60 % 60) ++ ":" ++ padded 2 second ++
    writeFraction (nano % 1000000000)

def writeDate (d : Date) : String :=
  writeYear d.year ++ "-" ++ padded 2 d.month ++ "-" ++ padded 2 d.day

def write (between behind : String) (t : Instant) : String :=
  writeDate (Date.ofDays (t.second / 86400)) ++ between ++ writeTime t.daySecond.toNat t.nano ++ behind

def zulu (t : Instant) : String := write "T" "Z" t

def withOffset (t : Instant) : String := write "T" "+00:00" t

def spoken (t : Instant) : String := write " " " UTC" t

def number? (width : Nat) (cs : List Char) : Option (Nat × List Char) :=
  let digits := (cs.take width).takeWhile isDigit
  if digits.isEmpty then none else some (digitsValue digits,cs.drop digits.length)

def literal? (c : Char) (cs : List Char) : Option (List Char) :=
  match trimStart cs with
  | d :: rest => if d = c then some rest else none
  | [] => none

def year? (cs : List Char) : Option (Int × List Char) :=
  match cs with
  | '-' :: rest => (number? rest.length rest).map fun (n,rest) => (-(n : Int),rest)
  | '+' :: rest => (number? rest.length rest).map fun (n,rest) => ((n : Int),rest)
  | _ => (number? 4 cs).map fun (n,rest) => ((n : Int),rest)

def fraction? (cs : List Char) : Option (Nat × List Char) :=
  match cs with
  | '.' :: rest =>
      let digits := (rest.take 9).takeWhile isDigit
      if digits.isEmpty then none
      else some (digitsValue digits * Nat.pow 10 (9 - digits.length),
        (rest.drop digits.length).dropWhile isDigit)
  | _ => some (0,cs)

def twoDigits? (cs : List Char) : Option (Nat × List Char) :=
  match cs with
  | a :: b :: rest => if isDigit a && isDigit b then some (digitsValue [a,b],rest) else none
  | _ => none

def offset? (cs : List Char) : Option (Int × List Char) :=
  match cs with
  | u :: t :: c :: rest =>
      if [u,t,c].map Char.toLower == ['u','t','c'] then some (0,rest) else plain (u :: t :: c :: rest)
  | _ => plain cs
where
  plain (cs : List Char) : Option (Int × List Char) :=
    match cs with
    | [] => none
    | c :: rest =>
        if c = 'Z' || c = 'z' then some (0,rest)
        else if c = '+' || c = '-' || c = '\u2212' then do
          let (hours,rest) ← twoDigits? rest
          let (minutes,rest) ← twoDigits? (rest.dropWhile fun c => c == ':' || Text.isBlank c)
          if 60 ≤ minutes then none
          let seconds : Int := hours * 3600 + minutes * 60
          if 86400 ≤ seconds then none
          some (if c = '+' then seconds else -seconds,rest)
        else none

def instant? (date : Date) (hour minute second nano : Nat) (offset : Int) : Option Instant :=
  if !date.isValid || 24 ≤ hour || 60 ≤ minute || 61 ≤ second then none
  else
    let daySecond := hour * 3600 + minute * 60 + min second 59
    let total := date.toDays * 86400 + daySecond - offset
    if total < -8334601228800 || 8210266876799 < total then none
    else
      let nano := nano + if second = 60 then 1000000000 else 0
      if h : nano < 2000000000 then some ⟨total,nano,h⟩ else none

def read? (s : String) : Option Instant := do
  let (year,rest) ← year? (trimStart s.toList)
  let (month,rest) ← number? 2 (trimStart (← literal? '-' rest))
  let (day,rest) ← number? 2 (trimStart (← literal? '-' rest))
  let rest ← match rest with
    | c :: rest => if c = 'T' || c = 't' || c = ' ' then some rest else none
    | [] => none
  let (hour,rest) ← number? 2 (trimStart rest)
  let (minute,rest) ← number? 2 (trimStart (← literal? ':' rest))
  let (second,rest) ← number? 2 (trimStart (← literal? ':' rest))
  let (nano,rest) ← fraction? rest
  let (offset,rest) ← offset? (trimStart rest)
  if !(trimStart rest).isEmpty then none
  instant? ⟨year,month,day⟩ hour minute second nano offset

end Rfc3339
end Muster
