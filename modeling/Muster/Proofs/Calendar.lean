import Mathlib.Tactic.IntervalCases
import Muster.Time.Rfc3339
/-! The calendar counts the days of its dates without a gap and without a repetition: dates and
numbers of days stand for each other. Years begin in March here, so that the day that leap years
have more is their last. -/
namespace Muster.Date
variable {d : Date}

structure Fits (d : Date) : Prop where
  first : 1 ≤ d.month
  last : d.month ≤ 12
  begins : 1 ≤ d.day
  ends : d.day ≤ monthLength d.year d.month

theorem leapIff {year : Int} :
    isLeap year = true ↔ year % 4 = 0 ∧ (year % 100 ≠ 0 ∨ year % 400 = 0) := by
  simp [isLeap]

theorem validIff : d.isValid = true ↔ (-262143 ≤ d.year ∧ d.year ≤ 262142) ∧ d.Fits := by
  constructor
  · intro valid
    simp only [isValid,Bool.and_eq_true,decide_eq_true_eq] at valid
    obtain ⟨⟨⟨⟨⟨early,late⟩,first⟩,last⟩,begins⟩,ends⟩ := valid
    exact ⟨⟨early,late⟩,first,last,begins,ends⟩
  · rintro ⟨⟨early,late⟩,first,last,begins,ends⟩
    simp [isValid,early,late,first,last,begins,ends]

theorem monthLengthLe (year : Int) (month : Nat) : monthLength year month ≤ 31 := by
  unfold monthLength
  split
  · split <;> decide
  all_goals decide

def marchYear (d : Date) : Int := if d.month ≤ 2 then d.year - 1 else d.year

def marchMonth (d : Date) : Int := ((d.month : Int) + 9) % 12

def daysToMonth (month : Int) : Int := (153 * month + 2) / 5

/- The days of an era of 400 years up to the first of March of a year. -/
def daysToYear (year : Int) : Int := year * 365 + year / 4 - year / 100

def sinceMarch (d : Date) : Int := daysToMonth d.marchMonth + d.day - 1

/- A day of the year that begins in March: only before a leap day there are 366 of them. -/
structure InYear (year since : Int) : Prop where
  early : 0 ≤ since
  late : since ≤ 365
  leap : since = 365 → isLeap (year + 1) = true

theorem toDaysMarch (d : Date) : d.toDays =
    d.marchYear / 400 * 146097 + (daysToYear (d.marchYear % 400) + d.sinceMarch) - 719468 := rfl

theorem leapCycle (year : Int) : isLeap (year % 400 + 1) = isLeap (year + 1) := by
  rw [Bool.eq_iff_iff,leapIff,leapIff]
  omega

theorem monthFits (year : Int) {month : Nat} (first : 1 ≤ month) (last : month ≤ 12)
    (other : month ≠ 2) : daysToMonth (((month : Int) + 9) % 12) + monthLength year month =
      daysToMonth (((month : Int) + 9) % 12 + 1) := by
  interval_cases month <;> first | rfl | contradiction

theorem sinceMarchIn (fits : d.Fits) : InYear d.marchYear d.sinceMarch := by
  obtain ⟨first,last,begins,ends⟩ := fits
  unfold sinceMarch marchYear marchMonth
  by_cases february : d.month = 2
  · simp only [february,monthLength,daysToMonth] at ends ⊢
    split at ends
    · next leap => exact ⟨by omega,by omega,fun _ => by simpa using leap⟩
    · exact ⟨by omega,by omega,by omega⟩
  · have fits := monthFits d.year first last february
    unfold daysToMonth at *
    exact ⟨by omega,by omega,by omega⟩

theorem sinceMarchMonth (fits : d.Fits) : (5 * d.sinceMarch + 2) / 153 = d.marchMonth := by
  obtain ⟨early,late,_⟩ := sinceMarchIn fits
  obtain ⟨first,last,begins,ends⟩ := fits
  unfold sinceMarch marchMonth at *
  by_cases february : d.month = 2
  · simp only [february,daysToMonth] at early late ⊢
    omega
  · have fits := monthFits d.year first last february
    unfold daysToMonth at *
    omega

theorem yearOfDay {year since : Int} (first : 0 ≤ year) (last : year < 400)
    (inside : InYear year since) :
    let days := daysToYear year + since
    (days - days / 1460 + days / 36524 - days / 146096) / 365 = year := by
  intro days
  obtain ⟨early,late,leap⟩ := inside
  rw [leapIff] at leap
  -- Only on the last day of an era is a day taken off for the era itself.
  by_cases final : year = 399 ∧ since = 365
  · obtain ⟨rfl,rfl⟩ := final
    rfl
  · have short : year % 100 = 99 → since ≤ 364 := by omega
    have rest : 0 ≤ 365 * (year % 100) + year % 100 / 4 + since ∧
        365 * (year % 100) + year % 100 / 4 + since < 36524 := by omega
    have split : days = 36524 * (year / 100) + (365 * (year % 100) + year % 100 / 4 + since) := by
      unfold days daysToYear
      omega
    have centuries : days / 36524 = year / 100 := by omega
    have era : days / 146096 = 0 := by omega
    have fourths : days / 1460 = year / 4 ∧ since ≤ 364 ∨
        days / 1460 = year / 4 + 1 ∧ 1 ≤ since := by
      unfold days daysToYear
      omega
    rw [centuries,era]
    unfold days daysToYear at *
    omega

/- The last day of an era is one more than its four centuries have, and the last day of four years
one more than the years have: the century and the year stop at their last. -/
theorem dayInEra {days : Int} (first : 0 ≤ days) (last : days < 146097) :
    ∃ year since, 0 ≤ year ∧ year < 400 ∧ InYear year since ∧ daysToYear year + since = days := by
  obtain ⟨century,hc⟩ : ∃ century, century = min (days / 36524) 3 := ⟨_,rfl⟩
  obtain ⟨four,hf⟩ : ∃ four, four = (days - 36524 * century) / 1461 := ⟨_,rfl⟩
  obtain ⟨year,hy⟩ : ∃ year, year = min ((days - 36524 * century - 1461 * four) / 365) 3 := ⟨_,rfl⟩
  have centuries : 0 ≤ century ∧ century ≤ 3 := by omega
  have fours : 0 ≤ four ∧ four ≤ 24 := by omega
  have years : 0 ≤ year ∧ year ≤ 3 := by omega
  have leapDays : (100 * century + 4 * four + year) / 4 = 25 * century + four := by omega
  have lost : (100 * century + 4 * four + year) / 100 = century := by omega
  refine ⟨100 * century + 4 * four + year,days - 36524 * century - 1461 * four - 365 * year,
    by omega,by omega,⟨by omega,by omega,fun full => ?_⟩,?_⟩
  · have quarter : year = 3 := by omega
    have ends : four = 24 → century = 3 := by omega
    rw [leapIff]
    omega
  · rw [daysToYear,leapDays,lost]
    omega

theorem dayInMonth {year since : Int} (inside : InYear year since) :
    ∃ d : Date, d.Fits ∧ d.marchYear = year ∧ d.sinceMarch = since := by
  obtain ⟨early,late,leap⟩ := inside
  obtain ⟨month,hm⟩ : ∃ month : Nat, (month : Int) = (5 * since + 2) / 153 :=
    ⟨((5 * since + 2) / 153).toNat,by omega⟩
  obtain ⟨day,hd⟩ : ∃ day : Nat, (day : Int) = since - daysToMonth month + 1 :=
    ⟨(since - daysToMonth month + 1).toNat,by unfold daysToMonth; omega⟩
  have least : month ≤ 11 := by omega
  have begins : 1 ≤ day := by
    unfold daysToMonth at hd
    omega
  by_cases spring : month < 10
  · have turned : (((month + 3 : Nat) : Int) + 9) % 12 = month := by omega
    refine ⟨⟨year,month + 3,day⟩,⟨by simp,by simpa using by omega,begins,?_⟩,if_neg (by simp),?_⟩
    · unfold daysToMonth at hd
      interval_cases month <;> simp only [monthLength] <;> omega
    · simp only [sinceMarch,marchMonth,turned]
      omega
  · have turned : (((month - 9 : Nat) : Int) + 9) % 12 = month := by omega
    have winter : month - 9 ≤ 2 := by omega
    refine ⟨⟨year + 1,month - 9,day⟩,⟨by simpa using by omega,by simp; omega,begins,?_⟩,?_,?_⟩
    · unfold daysToMonth at hd
      interval_cases month
      · simp only [monthLength]
        omega
      · have longest : 28 ≤ monthLength (year + 1) 2 := by
          simp only [monthLength]
          split <;> decide
        have leapDay : since = 365 → monthLength (year + 1) 2 = 29 := fun full =>
          if_pos (leap full)
        change day ≤ monthLength (year + 1) 2
        omega
    · simp [marchYear,winter]
    · simp only [sinceMarch,marchMonth,turned]
      omega

theorem ofDaysToDays (fits : d.Fits) : ofDays d.toDays = d := by
  have inside := sinceMarchIn fits
  have month := sinceMarchMonth fits
  obtain ⟨early,late,leap⟩ := inside
  obtain ⟨first,last,begins,_⟩ := fits
  have least : 0 ≤ d.marchYear % 400 := by omega
  have most : d.marchYear % 400 < 400 := by omega
  have within : 0 ≤ daysToYear (d.marchYear % 400) + d.sinceMarch ∧
      daysToYear (d.marchYear % 400) + d.sinceMarch < 146097 := by
    rw [← leapCycle,leapIff] at leap
    unfold daysToYear
    omega
  have day : (d.toDays + 719468) % 146097 = daysToYear (d.marchYear % 400) + d.sinceMarch := by
    rw [toDaysMarch]
    omega
  have era : (d.toDays + 719468) / 146097 = d.marchYear / 400 := by
    rw [toDaysMarch]
    omega
  have year := yearOfDay least most ⟨early,late,leapCycle d.marchYear ▸ leap⟩
  have rest : daysToYear (d.marchYear % 400) + d.sinceMarch - (365 * (d.marchYear % 400) +
      d.marchYear % 400 / 4 - d.marchYear % 400 / 100) = d.sinceMarch := by
    unfold daysToYear
    omega
  have monthBack : (if d.marchMonth < 10 then d.marchMonth + 3 else d.marchMonth - 9) = d.month := by
    unfold marchMonth
    split <;> omega
  have dayBack : d.sinceMarch - (153 * d.marchMonth + 2) / 5 + 1 = d.day := by
    unfold sinceMarch daysToMonth
    omega
  have yearBack : (if (d.month : Int) ≤ 2 then d.marchYear % 400 + d.marchYear / 400 * 400 + 1
      else d.marchYear % 400 + d.marchYear / 400 * 400) = d.year := by
    unfold marchYear
    split <;> split <;> omega
  simp only [ofDays,day,era,year,rest,month,monthBack,dayBack,yearBack,Int.toNat_natCast]

theorem everyDay (days : Int) : ∃ d : Date, d.Fits ∧ d.toDays = days := by
  obtain ⟨year,since,first,last,⟨early,late,leap⟩,sum⟩ :=
    dayInEra (show 0 ≤ (days + 719468) % 146097 by omega) (by omega)
  obtain ⟨era,hera⟩ : ∃ era, era = (days + 719468) / 146097 := ⟨_,rfl⟩
  have cycle : (year + 400 * era) % 400 = year := by omega
  have shifted : InYear (year + 400 * era) since := ⟨early,late,by rwa [← leapCycle,cycle]⟩
  obtain ⟨d,fits,march,inside⟩ := dayInMonth shifted
  refine ⟨d,fits,?_⟩
  rw [toDaysMarch,march,inside,cycle]
  omega

theorem toDaysOfDays (days : Int) : (ofDays days).toDays = days := by
  obtain ⟨d,fits,rfl⟩ := everyDay days
  rw [ofDaysToDays fits]

theorem ofDaysFits (days : Int) : (ofDays days).Fits := by
  obtain ⟨d,fits,rfl⟩ := everyDay days
  rwa [ofDaysToDays fits]

def daysBefore (year : Int) : Int := year / 400 * 146097 + daysToYear (year % 400)

theorem daysBeforeMono {a b : Int} (le : a ≤ b) : daysBefore a ≤ daysBefore b := by
  unfold daysBefore daysToYear
  omega

theorem toDaysBounds (valid : d.isValid = true) :
    -96465292 ≤ d.toDays ∧ d.toDays ≤ 95026236 := by
  obtain ⟨⟨early,late⟩,fits⟩ := validIff.mp valid
  have month := sinceMarchMonth fits
  obtain ⟨since,most,_⟩ := sinceMarchIn fits
  obtain ⟨first,last,_,_⟩ := fits
  have days : d.toDays = daysBefore d.marchYear + d.sinceMarch - 719468 := by
    rw [toDaysMarch,daysBefore]
    omega
  unfold marchMonth at month
  by_cases winter : d.month ≤ 2
  · have year : d.marchYear = d.year - 1 := if_pos winter
    have least : -95746130 ≤ daysBefore d.marchYear := calc
      -95746130 = daysBefore (-262144) := by decide
      _ ≤ daysBefore d.marchYear := daysBeforeMono (by omega)
    have greatest : daysBefore d.marchYear ≤ 95745034 := calc
      daysBefore d.marchYear ≤ daysBefore 262141 := daysBeforeMono (by omega)
      _ = 95745034 := by decide
    have turned : ((d.month : Int) + 9) % 12 = d.month + 9 := by omega
    omega
  · have year : d.marchYear = d.year := if_neg winter
    have least : -95745765 ≤ daysBefore d.marchYear := calc
      -95745765 = daysBefore (-262143) := by decide
      _ ≤ daysBefore d.marchYear := daysBeforeMono (by omega)
    have greatest : daysBefore d.marchYear ≤ 95745399 := calc
      daysBefore d.marchYear ≤ daysBefore 262142 := daysBeforeMono (by omega)
      _ = 95745399 := by decide
    have turned : ((d.month : Int) + 9) % 12 = d.month - 3 := by omega
    omega

end Muster.Date
