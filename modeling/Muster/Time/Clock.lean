/-! Points in time to the nanosecond, their order, and the time between two of them; and a clock that
moves only when told to, in whole milliseconds. -/
namespace Muster

/- A point in time: whole seconds since 1970 began in UTC, and the nanoseconds into that second.
A second that is followed by a leap second is twice as long: from 1 000 000 000 on `nano` counts
through the leap second. -/
structure Instant where
  second : Int
  nano : Nat
  nano_lt : nano < 2000000000
  deriving DecidableEq

namespace Instant

def epoch : Instant := ⟨0,0,by decide⟩

instance : Inhabited Instant := ⟨epoch⟩

def ofMillis (ms : Int) : Instant := ⟨ms / 1000,(ms % 1000).toNat * 1000000,by omega⟩

def ofMicros (us : Int) : Instant := ⟨us / 1000000,(us % 1000000).toNat * 1000,by omega⟩

def toMillis (t : Instant) : Int := t.second * 1000 + t.nano / 1000000

/- Places an instant on one line: the order of instants is the order of their ranks. -/
def rank (t : Instant) : Int := t.second * 2000000000 + t.nano

instance : LE Instant := ⟨fun a b => a.rank ≤ b.rank⟩
instance : LT Instant := ⟨fun a b => a.rank < b.rank⟩
instance (a b : Instant) : Decidable (a ≤ b) := inferInstanceAs (Decidable (a.rank ≤ b.rank))
instance (a b : Instant) : Decidable (a < b) := inferInstanceAs (Decidable (a.rank < b.rank))
instance : Max Instant := ⟨fun a b => if a ≤ b then b else a⟩
instance : Min Instant := ⟨fun a b => if a ≤ b then a else b⟩

theorem leIff {a b : Instant} : a ≤ b ↔ a.rank ≤ b.rank := .rfl

theorem ltIff {a b : Instant} : a < b ↔ a.rank < b.rank := .rfl

theorem rankInj {a b : Instant} (h : a.rank = b.rank) : a = b := by
  obtain ⟨s,n,hn⟩ := a
  obtain ⟨s',n',hn'⟩ := b
  simp only [rank] at h
  have : s = s' ∧ n = n' := by omega
  simp [this]

def daySecond (t : Instant) : Int := t.second % 86400

/- Nanoseconds from `start` to `t`, negative when `start` comes later. Days count as 86 400
seconds; a leap second is counted only by the instants later on its own clock. -/
def since (t start : Instant) : Int :=
  let leap : Int :=
    if start.daySecond < t.daySecond ∧ 1000000000 ≤ start.nano then 1
    else if t.daySecond < start.daySecond ∧ 1000000000 ≤ t.nano then -1
    else 0
  (t.second - start.second + leap) * 1000000000 + ((t.nano : Int) - start.nano)

def elapsedSeconds (start t : Instant) : Int := max 0 (t.since start / 1000000000)

theorem nanoOfMillis (ms : Int) : (ofMillis ms).nano < 1000000000 := by
  simp only [ofMillis]; omega

end Instant

structure Clock where
  millis : Int
  deriving DecidableEq, Repr

namespace Clock

def startingAt (t : Instant) : Clock := ⟨t.toMillis⟩

def advance (clock : Clock) (ms : Int) : Clock := ⟨(clock.millis + ms).bmod UInt64.size⟩

def firstMilli : Int := -8334601228800000
def lastMilli : Int := 8210266876799999

def now (clock : Clock) : Instant :=
  if firstMilli ≤ clock.millis ∧ clock.millis ≤ lastMilli then .ofMillis clock.millis else .epoch

end Clock
end Muster
