import Muster.Proofs.Calendar
import Muster.Time.Rfc3339
/-! An instant is read back from its text. Each part of the text is read by a reader of its own,
and what stands behind the part is left to the next one. -/
namespace Muster

namespace Instant

def date (t : Instant) : Date := Date.ofDays (t.second / 86400)

/- Outside leap seconds, on a date of the calendar's years. -/
structure Dated (t : Instant) : Prop where
  even : t.nano < 1000000000
  early : -262143 ≤ t.date.year
  late : t.date.year ≤ 262142

theorem dateValid {t : Instant} (dated : t.Dated) : t.date.isValid = true :=
  Date.validIff.mpr ⟨⟨dated.early,dated.late⟩,Date.ofDaysFits _⟩

theorem dateDays (t : Instant) : t.date.toDays = t.second / 86400 := Date.toDaysOfDays _

end Instant

namespace Rfc3339
open Text (trimStart isBlank)
open Decimal (isDigit digitsValue)
variable {width n : Nat} {cs rest : List Char}

/- Digits that stand for a number, zeros before them included. -/
structure Numeral (n : Nat) (cs : List Char) : Prop where
  digits : ∀ c ∈ cs, isDigit c = true
  value : digitsValue cs = n
  full : cs ≠ []

theorem listedZeros (k : Nat) : ("".pushn '0' k).toList = List.replicate k '0' := by
  induction k with
  | zero => rfl
  | succ k ih =>
    rw [List.replicate_succ',← ih]
    exact String.toList_push '0'

theorem listedPadded (width n : Nat) : (padded width n).toList =
    List.replicate (width - (Nat.toDigits 10 n).length) '0' ++ Nat.toDigits 10 n := by
  have digits : (toString n).toList = Nat.toDigits 10 n := Nat.toList_repr
  simp only [padded,String.toList_append,listedZeros,digits,← String.length_toList]

theorem zerosBefore (k : Nat) (cs : List Char) :
    digitsValue (List.replicate k '0' ++ cs) = digitsValue cs := by
  induction k with
  | zero => rfl
  | succ k ih => exact ih

theorem paddedNumeral (width n : Nat) : Numeral n (padded width n).toList := by
  rw [listedPadded]
  refine ⟨?_,?_,?_⟩
  · intro c mem
    rcases List.mem_append.mp mem with zero | digit
    · rw [List.eq_of_mem_replicate zero]
      rfl
    · exact Nat.isDigit_of_mem_toDigits (by decide) (by decide) digit
  · rw [zerosBefore]
    exact Nat.ofDigitChars_toDigits (by decide) (by decide)
  · exact List.append_ne_nil_of_right_ne_nil _ (List.ne_nil_of_length_pos Nat.length_toDigits_pos)

theorem paddedLength (wide : 0 < width) (small : n < 10 ^ width) :
    (padded width n).toList.length = width := by
  have short := (Nat.length_toDigits_le_iff (b := 10) (by decide) wide).mpr small
  rw [listedPadded,List.length_append,List.length_replicate]
  omega

theorem digitSolid {c : Char} (digit : isDigit c = true) : isBlank c = false := by
  have bounds : 48 ≤ c.toNat ∧ c.toNat ≤ 57 := by
    simpa [isDigit,Char.le_def,UInt32.le_iff_toNat_le] using digit
  simp only [isBlank,Bool.or_eq_false_iff,Bool.and_eq_false_iff,decide_eq_false_iff_not,
    beq_eq_false_iff_ne]
  omega

theorem trimNumeral (numeral : Numeral n cs) (rest : List Char) :
    trimStart (cs ++ rest) = cs ++ rest := by
  cases cs with
  | nil => exact absurd rfl numeral.full
  | cons c cs =>
    have solid := digitSolid (numeral.digits c List.mem_cons_self)
    exact List.dropWhile_cons_of_neg (by simp [solid])

theorem digitsTaken (numeral : Numeral n cs) (fits : cs.length ≤ width)
    (ends : cs.length = width ∨ ∀ c ∈ rest.head?, isDigit c = false) :
    ((cs ++ rest).take width).takeWhile isDigit = cs := by
  have tail : (rest.take (width - cs.length)).takeWhile isDigit = [] := by
    rcases ends with whole | stops
    · simp [whole]
    · cases rest with
      | nil => simp
      | cons c rest => cases width - cs.length <;> simp [stops c rfl]
  rw [List.take_append,List.take_of_length_le fits,List.takeWhile_append_of_pos numeral.digits,
    tail,List.append_nil]

theorem numberRead (numeral : Numeral n cs) (fits : cs.length ≤ width)
    (ends : cs.length = width ∨ ∀ c ∈ rest.head?, isDigit c = false) :
    number? width (cs ++ rest) = some (n,rest) := by
  simp [number?,digitsTaken numeral fits ends,numeral.full,numeral.value]

theorem partRead (small : n < 100) (rest : List Char) :
    number? 2 (trimStart ((padded 2 n).toList ++ rest)) = some (n,rest) := by
  have numeral := paddedNumeral 2 n
  have length : (padded 2 n).toList.length = 2 := paddedLength (by decide) small
  rw [trimNumeral numeral]
  exact numberRead numeral length.le (.inl length)

theorem unsignedYear (numeral : Numeral n cs) (rest : List Char) :
    year? (cs ++ rest) = (number? 4 (cs ++ rest)).map fun read => ((read.1 : Int),read.2) := by
  cases cs with
  | nil => exact absurd rfl numeral.full
  | cons c cs =>
    have digit := numeral.digits c List.mem_cons_self
    have minus : c ≠ '-' := fun same => by simp [same,isDigit] at digit
    have plus : c ≠ '+' := fun same => by simp [same,isDigit] at digit
    simp [year?,minus,plus]

theorem minusYear (rest : List Char) : year? (trimStart ('-' :: rest)) =
    (number? rest.length rest).map fun read => (-(read.1 : Int),read.2) := rfl

theorem plusYear (rest : List Char) : year? (trimStart ('+' :: rest)) =
    (number? rest.length rest).map fun read => ((read.1 : Int),read.2) := rfl

theorem yearRead (year : Int) (rest : List Char) :
    year? (trimStart ((writeYear year).toList ++ '-' :: rest)) = some (year,'-' :: rest) := by
  have signed : number? ((padded 4 year.natAbs).toList ++ '-' :: rest).length
      ((padded 4 year.natAbs).toList ++ '-' :: rest) = some (year.natAbs,'-' :: rest) :=
    numberRead (paddedNumeral 4 year.natAbs) (by simp) (.inr (by simp [isDigit]))
  by_cases near : 0 ≤ year ∧ year ≤ 9999
  · have text : writeYear year = padded 4 year.toNat := by simp [writeYear,near]
    have numeral := paddedNumeral 4 year.toNat
    have length : (padded 4 year.toNat).toList.length = 4 := paddedLength (by decide) (by omega)
    rw [text,trimNumeral numeral,unsignedYear numeral,numberRead numeral length.le (.inl length)]
    simp [near.1]
  · by_cases negative : year < 0
    · have text : (writeYear year).toList = '-' :: (padded 4 year.natAbs).toList := by
        simp [writeYear,near,negative]
      have value : -(year.natAbs : Int) = year := by omega
      rw [text,List.cons_append,minusYear,signed,Option.map_some,value]
    · have text : (writeYear year).toList = '+' :: (padded 4 year.natAbs).toList := by
        simp [writeYear,near,negative]
      have value : (year.natAbs : Int) = year := by omega
      rw [text,List.cons_append,plusYear,signed,Option.map_some,value]

theorem digitsFraction (numeral : Numeral n cs) (fits : cs.length ≤ 9) :
    fraction? ('.' :: cs ++ ['Z']) = some (n * 10 ^ (9 - cs.length),['Z']) := by
  have taken : ((cs ++ ['Z']).take 9).takeWhile isDigit = cs :=
    digitsTaken numeral fits (.inr (by simp [isDigit]))
  simp [fraction?,taken,numeral.full,numeral.value,isDigit]

theorem fractionWritten {part : Nat} (wide : 0 < width) (fits : width ≤ 9) (small : part < 10 ^ width)
    (value : part * 10 ^ (9 - width) = n) :
    fraction? (("." ++ padded width part).toList ++ ['Z']) = some (n,['Z']) := by
  have length := paddedLength wide small
  have read := digitsFraction (paddedNumeral width part) (length.le.trans fits)
  rw [length,value] at read
  rw [← read,String.toList_append]
  rfl

theorem fractionRead (even : n < 1000000000) :
    fraction? ((writeFraction n).toList ++ ['Z']) = some (n,['Z']) := by
  by_cases none : n = 0
  · subst none
    rfl
  · by_cases millis : n % 1000000 = 0
    · have text : writeFraction n = "." ++ padded 3 (n / 1000000) := by
        simp [writeFraction,none,millis]
      rw [text]
      exact fractionWritten (by decide) (by decide) (by omega) (by omega)
    · by_cases micros : n % 1000 = 0
      · have text : writeFraction n = "." ++ padded 6 (n / 1000) := by
          simp [writeFraction,none,millis,micros]
        rw [text]
        exact fractionWritten (by decide) (by decide) (by omega) (by omega)
      · have text : writeFraction n = "." ++ padded 9 n := by
          simp [writeFraction,none,millis,micros]
        rw [text]
        exact fractionWritten (by decide) (by decide) (by omega) (by omega)

theorem zuluListed (t : Instant) (even : t.nano < 1000000000) : (zulu t).toList =
    (writeYear t.date.year).toList ++ '-' :: ((padded 2 t.date.month).toList ++ '-' ::
      ((padded 2 t.date.day).toList ++ 'T' :: ((padded 2 (t.daySecond.toNat / 3600)).toList ++ ':' ::
        ((padded 2 (t.daySecond.toNat / 60 % 60)).toList ++ ':' ::
          ((padded 2 (t.daySecond.toNat % 60)).toList ++
            ((writeFraction t.nano).toList ++ ['Z'])))))) := by
  have whole : t.nano / 1000000000 = 0 := by omega
  have part : t.nano % 1000000000 = t.nano := by omega
  simp [zulu,write,writeDate,writeTime,Instant.date,whole,part]

theorem instantRead {t : Instant} (dated : t.Dated) : instant? t.date (t.daySecond.toNat / 3600)
    (t.daySecond.toNat / 60 % 60) (t.daySecond.toNat % 60) t.nano 0 = some t := by
  have valid := Instant.dateValid dated
  obtain ⟨low,high⟩ := Date.toDaysBounds valid
  have days := t.dateDays
  obtain ⟨daySecond,clock⟩ : ∃ daySecond : Nat, t.daySecond.toNat = daySecond := ⟨_,rfl⟩
  have inDay : t.second = t.date.toDays * 86400 + daySecond ∧ daySecond < 86400 := by
    unfold Instant.daySecond at clock
    omega
  have hour : ¬ 24 ≤ daySecond / 3600 := by omega
  have minute : ¬ 60 ≤ daySecond / 60 % 60 := by omega
  have second : ¬ 61 ≤ daySecond % 60 := by omega
  have plain : daySecond % 60 ≠ 60 := by omega
  have total : t.date.toDays * 86400 + ((daySecond / 3600 * 3600 + daySecond / 60 % 60 * 60 +
      min (daySecond % 60) 59 : Nat) : Int) - 0 = t.second := by omega
  have inside : ¬ (t.second < -8334601228800 ∨ 8210266876799 < t.second) := by omega
  simp only [clock,instant?]
  rw [total]
  simp [valid,hour,minute,second,plain,inside,t.nano_lt]

theorem hyphenRead (rest : List Char) : literal? '-' ('-' :: rest) = some rest := rfl

theorem colonRead (rest : List Char) : literal? ':' (':' :: rest) = some rest := rfl

theorem zuluRead : offset? (trimStart ['Z']) = some (0,[]) := rfl

theorem readZulu {t : Instant} (dated : t.Dated) : read? (zulu t) = some t := by
  have fits : t.date.Fits := Date.ofDaysFits _
  have month := fits.last
  have day := fits.ends.trans (Date.monthLengthLe _ _)
  have clock : t.daySecond.toNat < 86400 := by
    unfold Instant.daySecond
    omega
  simp only [read?,zuluListed t dated.even,bind,Option.bind,yearRead,hyphenRead,colonRead,
    partRead (show t.date.month < 100 by omega),partRead (show t.date.day < 100 by omega),
    partRead (show t.daySecond.toNat / 3600 < 100 by omega),
    partRead (show t.daySecond.toNat / 60 % 60 < 100 by omega),
    partRead (show t.daySecond.toNat % 60 < 100 by omega),fractionRead dated.even,zuluRead]
  exact instantRead dated

example : zulu ⟨-8334601228800,0,by decide⟩ = "-262143-01-01T00:00:00Z" := by decide

example : zulu ⟨8210266876799,999999999,by decide⟩ = "+262142-12-31T23:59:59.999999999Z" := by decide

end Rfc3339
end Muster
