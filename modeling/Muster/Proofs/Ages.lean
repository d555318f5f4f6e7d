import Muster.Proofs.Instants
import Muster.Proofs.Timestamps
/-! Status and age of a node, which are derived from one difference of instants and never contradict each
other. The difference is counted in words of 64 bits, none of which runs over between instants of the
calendar. It is the time that passed, but for leap seconds that the clock of the day does not show: they
are left out, and an age can fall where one is. -/
namespace Muster

namespace Instant
variable {start t : Instant}

def secondNanos (t : Instant) : Int := if t.nano < 1000000000 then 1000000000 else 2000000000

/- Nanoseconds from one instant to a later one: what is left of the second of the first, the seconds in
between, and what is over of the second of the other. -/
def passed (start t : Instant) : Int :=
  if start.second = t.second then t.nano - start.nano
  else start.secondNanos - start.nano + (t.second - start.second - 1) * 1000000000 + t.nano

theorem secondOrder (after : start ≤ t) :
    start.second < t.second ∨ start.second = t.second ∧ start.nano ≤ t.nano := by
  have bound := start.nano_lt
  have other := t.nano_lt
  rw [leIff] at after
  simp only [rank] at after
  omega

theorem passedLater (later : start.second < t.second) : start.passed t =
    (t.second - start.second) * 1000000000 + (t.nano - start.nano) +
      (start.secondNanos - 1000000000) := by
  rw [passed,if_neg (Int.ne_of_lt later)]
  omega

theorem passedPositive (after : start ≤ t) : 0 ≤ start.passed t := by
  have bound := start.nano_lt
  rcases secondOrder after with later | ⟨same,less⟩
  · rw [passedLater later]
    unfold secondNanos
    omega
  · rw [passed,if_pos same]
    omega

def leapSeconds (start t : Instant) : Int :=
  if start.daySecond < t.daySecond ∧ 1000000000 ≤ start.nano then 1
  else if t.daySecond < start.daySecond ∧ 1000000000 ≤ t.nano then -1
  else 0

theorem sinceLeap (start t : Instant) : t.since start =
    (t.second - start.second + start.leapSeconds t) * 1000000000 + ((t.nano : Int) - start.nano) := rfl

/- A leap second, at either end, that is left out: the one in which `start` lies if the clock of the day
has not come past `start` again, and the one in which `t` lies if it is behind `start` on that clock. -/
def LeftOut (start t : Instant) : Prop :=
  ¬ start.Plain ∧ start.second < t.second ∧ t.daySecond ≤ start.daySecond ∨
    ¬ t.Plain ∧ t.daySecond < start.daySecond

theorem sinceCounted (after : start ≤ t) (counted : ¬ start.LeftOut t) :
    t.since start = start.passed t := by
  rw [sinceLeap]
  rcases secondOrder after with later | ⟨same,_⟩
  · rw [passedLater later]
    have leaps : start.leapSeconds t * 1000000000 = start.secondNanos - 1000000000 := by
      unfold LeftOut Plain at counted
      unfold leapSeconds secondNanos
      omega
    omega
  · have none : start.leapSeconds t = 0 := by
      simp [leapSeconds,daySecond,same]
    rw [passed,if_pos same,none]
    omega

theorem sinceShort (after : start ≤ t) (left : start.LeftOut t) :
    t.since start ≤ start.passed t - 1000000000 := by
  have later : start.second < t.second := by
    rcases secondOrder after with later | ⟨same,_⟩
    · exact later
    · simp [LeftOut,daySecond,same] at left
  rw [sinceLeap,passedLater later]
  have leaps : start.leapSeconds t * 1000000000 ≤ start.secondNanos - 2000000000 := by
    unfold LeftOut Plain at left
    unfold leapSeconds secondNanos
    omega
  omega

theorem ageExactly (after : start ≤ t) :
    start.elapsedSeconds t = start.passed t / 1000000000 ↔
      start.passed t < 1000000000 ∨ ¬ start.LeftOut t := by
  have positive := passedPositive after
  unfold elapsedSeconds
  by_cases left : start.LeftOut t
  · have short := sinceShort after left
    rw [or_iff_left (not_not.mpr left)]
    omega
  · rw [sinceCounted after left]
    exact iff_of_true (by omega) (.inr left)

end Instant

def word? (n : Int) : Option Int :=
  if Int64.minValue.toInt ≤ n ∧ n ≤ Int64.maxValue.toInt then some n else none

theorem wordFits {n : Int} (least : -9223372036854775808 ≤ n) (most : n ≤ 9223372036854775807) :
    word? n = some n := if_pos ⟨least,most⟩

structure Span where
  seconds : Int
  nanos : Int
  deriving DecidableEq

namespace Span

def ofNanos (n : Int) : Span := ⟨n / 1000000000,n % 1000000000⟩

/- Spans may be as long, either way, as a 64-bit count of milliseconds. -/
def within? (s : Span) : Option Span :=
  let total := s.seconds * 1000000000 + s.nanos
  if -9223372036854775807000000 ≤ total ∧ total ≤ 9223372036854775807000000 then some s else none

def Shorter (s other : Span) : Prop :=
  s.seconds < other.seconds ∨ s.seconds = other.seconds ∧ s.nanos < other.nanos

instance (s other : Span) : Decidable (s.Shorter other) := inferInstanceAs (Decidable (_ ∨ _))

def wholeSeconds (s : Span) : Int := if s.seconds < 0 ∧ 0 < s.nanos then s.seconds + 1 else s.seconds

theorem shorterIff {m n : Int} : (ofNanos m).Shorter (ofNanos n) ↔ m < n := by
  simp only [Shorter,ofNanos]
  omega

theorem wholeElapsed (n : Int) : max 0 (ofNanos n).wholeSeconds = max 0 (n / 1000000000) := by
  simp only [wholeSeconds,ofNanos]
  omega

theorem withinNanos {n : Int} (least : -9223372036854775807000000 ≤ n)
    (most : n ≤ 9223372036854775807000000) : (ofNanos n).within? = some (ofNanos n) := by
  refine if_pos ?_
  simp only [ofNanos]
  omega

end Span

namespace Instant
variable {start t : Instant}

/- The span from `start` to `t`, days and clocks of the day apart. There is none where a number does not
fit its word or the span is too long. -/
def span? (start t : Instant) : Option Span := do
  let days ← word? (t.second / 86400 - start.second / 86400)
  let dates ← word? (days * 86400)
  let clocks ← word? (t.daySecond - start.daySecond)
  let seconds ← word? (clocks + start.leapSeconds t)
  let nanos ← word? (t.nano - start.nano)
  let seconds ← word? (seconds + nanos / 1000000000)
  let seconds ← word? (dates + seconds)
  Span.within? ⟨seconds,nanos % 1000000000⟩

theorem dayBounds (valid : t.date.isValid = true) :
    -96465292 ≤ t.second / 86400 ∧ t.second / 86400 ≤ 95026236 := t.dateDays ▸ Date.toDaysBounds valid

theorem leapBounds (start t : Instant) : -1 ≤ start.leapSeconds t ∧ start.leapSeconds t ≤ 1 := by
  unfold leapSeconds
  omega

theorem spanCounted (first : start.date.isValid = true) (second : t.date.isValid = true) :
    start.span? t = some (.ofNanos (t.since start)) := by
  obtain ⟨early,late⟩ := dayBounds first
  obtain ⟨low,high⟩ := dayBounds second
  obtain ⟨back,on⟩ := leapBounds start t
  have bound := start.nano_lt
  have other := t.nano_lt
  have there : start.daySecond = start.second % 86400 := rfl
  have here : t.daySecond = t.second % 86400 := rfl
  have days := wordFits (n := t.second / 86400 - start.second / 86400) (by omega) (by omega)
  have dates := wordFits (n := (t.second / 86400 - start.second / 86400) * 86400) (by omega) (by omega)
  have clocks := wordFits (n := t.daySecond - start.daySecond) (by omega) (by omega)
  have leaps := wordFits (n := t.daySecond - start.daySecond + start.leapSeconds t) (by omega) (by omega)
  have nanos := wordFits (n := (t.nano : Int) - start.nano) (by omega) (by omega)
  have carried := wordFits (n := t.daySecond - start.daySecond + start.leapSeconds t +
    ((t.nano : Int) - start.nano) / 1000000000) (by omega) (by omega)
  have seconds : word? ((t.second / 86400 - start.second / 86400) * 86400 +
      (t.daySecond - start.daySecond + start.leapSeconds t +
        ((t.nano : Int) - start.nano) / 1000000000)) = some (t.since start / 1000000000) := by
    rw [wordFits (by omega) (by omega),sinceLeap]
    exact congrArg some (by omega)
  have part : ((t.nano : Int) - start.nano) % 1000000000 = t.since start % 1000000000 := by
    rw [sinceLeap]
    omega
  simp only [span?,bind,Option.bind,days,dates,clocks,leaps,nanos,carried,seconds,part]
  refine Span.withinNanos ?_ ?_ <;> (rw [sinceLeap]; omega)

end Instant

namespace LivenessWindow
variable {n : Nat} {window : LivenessWindow} {lastSeen now : Instant}

theorem ofSecondsNanos (made : ofSeconds n = .ok window) : 0 < n ∧ window.nanos = n * 1000000000 := by
  simp only [ofSeconds,ofNanos] at made
  split at made
  · cases made
  · split at made
    · cases made
    · next some =>
      cases made
      exact ⟨by omega,by simp⟩

theorem offlineIff (made : ofSeconds n = .ok window) :
    window.statusAt lastSeen now = .offline ↔ n ≤ lastSeen.elapsedSeconds now := by
  obtain ⟨positive,nanos⟩ := ofSecondsNanos made
  unfold statusAt Instant.elapsedSeconds
  rw [nanos]
  split
  · simp
    omega
  · simp
    omega

def judge (window : LivenessWindow) (s : Span) : Status × Int :=
  (if s.Shorter ⟨window.seconds,window.subsecondNanos⟩ then .online else .offline,
    max 0 s.wholeSeconds)

theorem judgeView (window : LivenessWindow) (now : Instant) (r : NodeRecord) :
    window.judge (.ofNanos (now.since r.lastSeen)) =
      ((window.view now r).status,(window.view now r).ageSeconds) := by
  have own : Span.mk window.seconds window.subsecondNanos = .ofNanos window.nanos := rfl
  simp only [judge,own,Span.shorterIff,Span.wholeElapsed]
  rfl

/-- Status and age of a view never contradict each other, and they are what a count in words gives at all
readings of the calendar. A node that was seen ahead of the reading has no age. Else the age is the whole
seconds that passed exactly if no leap second is left out, or not even one second passed. -/
theorem agesExactly (made : ofSeconds n = .ok window) (r : NodeRecord)
    (seen : r.lastSeen.date.isValid = true) (reading : now.date.isValid = true) :
    let view := window.view now r
    (view.status = .offline ↔ n ≤ view.ageSeconds) ∧
    (now < r.lastSeen → view.ageSeconds = 0) ∧
    (r.lastSeen ≤ now → (view.ageSeconds = r.lastSeen.passed now / 1000000000 ↔
      r.lastSeen.passed now < 1000000000 ∨ ¬ r.lastSeen.LeftOut now)) ∧
    ∃ span, r.lastSeen.span? now = some span ∧ window.judge span = (view.status,view.ageSeconds) := by
  intro view
  refine ⟨offlineIff made,fun ahead => Instant.elapsedLater ahead.le,Instant.ageExactly,?_⟩
  exact ⟨_,Instant.spanCounted seen reading,window.judgeView now r⟩

theorem agesExactlyFarthest :
    let first : Instant := ⟨-8334601228800,0,by decide⟩
    let last : Instant := ⟨8210266876799,1999999999,by decide⟩
    let hub : NodeRecord := ⟨"hub","web","k1",none,none,none,first,first,1⟩
    let window : LivenessWindow := ⟨16544868105600000000000,by decide,by decide⟩
    let view := window.view last hub
    ofSeconds 16544868105600 = .ok window ∧ first.date.isValid = true ∧ last.date.isValid = true ∧
      first ≤ last ∧ view.status = .offline ∧ view.ageSeconds = first.passed last / 1000000000 ∧
      first.passed last = 16544868105600999999999 ∧
      ∃ span, first.span? last = some span ∧ window.judge span = (view.status,view.ageSeconds) := by
  intro first last hub window view
  have made : ofSeconds 16544868105600 = .ok window := by rfl
  have seen : first.date.isValid = true := by decide
  have reading : last.date.isValid = true := by decide
  have after : first ≤ last := by decide
  have counted : ¬ first.LeftOut last := by
    rintro (⟨leap,_⟩ | ⟨_,behind⟩)
    · exact leap (show 0 < 1000000000 by decide)
    · exact absurd behind (by decide)
  have passed : first.passed last = 16544868105600999999999 := by decide
  obtain ⟨offline,_,age,span,fits,judged⟩ := agesExactly made hub seen reading
  have whole := (age after).mpr (.inr counted)
  have old : 16544868105600 ≤ view.ageSeconds := by
    rw [whole,passed]
    decide
  exact ⟨made,seen,reading,after,offline.mpr old,whole,passed,span,fits,judged⟩

/- A node that is seen in a leap second at noon is 43140 seconds old at the end of the day and one second
less at midnight, when 43140.5 seconds passed. No measure of the time since then has such whole seconds if
it does not fall, and the difference of the instants has not either: it can be negative behind the leap
second that ends a day. -/
theorem noonForgotten :
    let noon : Instant := ⟨43259,1500000000,by decide⟩
    let evening : Instant := .ofMillis 86399999
    let midnight : Instant := .ofMillis 86400000
    let ending : Instant := ⟨86399,1900000000,by decide⟩
    let window : LivenessWindow := ⟨43140000000000,by decide,by decide⟩
    let view (seen now : Instant) := window.view now ⟨"hub","web","k1",none,none,none,seen,seen,1⟩
    Rfc3339.read? "1970-01-01T12:00:60.5Z" = some noon ∧ ofSeconds 43140 = .ok window ∧
      noon ≤ evening ∧ evening ≤ midnight ∧ noon.passed midnight = 43140500000000 ∧
      (view noon evening).ageSeconds = 43140 ∧ (view noon midnight).ageSeconds = 43139 ∧
      (view noon midnight).status = .online ∧
      (∀ measure : Instant → Int, measure evening ≤ measure midnight →
        ¬ ∀ now, noon ≤ now → (view noon now).ageSeconds = measure now / 1000000000) ∧
      ending ≤ midnight ∧ midnight.since ending / 1000000000 = -1 ∧
      (view ending midnight).ageSeconds = 0 := by
  intro noon evening midnight ending window view
  have first : noon ≤ evening := by decide
  have second : evening ≤ midnight := by decide
  have late : (view noon evening).ageSeconds = 43140 := by rfl
  have next : (view noon midnight).ageSeconds = 43139 := by rfl
  refine ⟨by decide +kernel,rfl,first,second,rfl,late,next,rfl,?_,by decide,rfl,rfl⟩
  intro measure grows floors
  have before := floors evening first
  have after := floors midnight (le_trans first second)
  omega

end LivenessWindow
end Muster
