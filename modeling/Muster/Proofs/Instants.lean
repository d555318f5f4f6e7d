import Mathlib.Order.Defs.LinearOrder
import Muster.Node
/-! Instants are in one line: of two that differ one is later. The order is the one by which the library
compares them, so that its minima and maxima are those of the order. Who is online is told by the time
between two of them. No clock reads a leap second; inside one, what was seen on the next day counts as seen
earlier, by no more than the time into that second. -/
namespace Muster

namespace Instant
variable {t start : Instant}

instance : LinearOrder Instant where
  le_refl a := Int.le_refl a.rank
  le_trans _ _ _ := Int.le_trans
  lt_iff_le_not_ge a b := by rw [ltIff,leIff,leIff]; omega
  le_antisymm _ _ ab ba := rankInj (Int.le_antisymm ab ba)
  le_total a b := Int.le_total a.rank b.rank
  toDecidableLE := inferInstance
  toDecidableEq := inferInstance
  toDecidableLT := inferInstance

/- Outside leap seconds, where all clocks read. -/
def Plain (t : Instant) : Prop := t.nano < 1000000000

/- How far an instant is into a leap second, if it is in one. -/
def intoLeap (t : Instant) : Int := max 0 (t.nano - 1000000000)

theorem intoNoLeap (plain : t.Plain) : t.intoLeap = 0 := by
  unfold Plain at plain
  simp only [intoLeap]
  omega

theorem sinceSelf (t : Instant) : t.since t = 0 := by simp [since]

theorem sinceLater (later : t ≤ start) : t.since start ≤ t.intoLeap := by
  have bound := start.nano_lt
  have here : t.daySecond = t.second % 86400 := rfl
  have there : start.daySecond = start.second % 86400 := rfl
  rw [leIff] at later
  simp only [rank] at later
  simp only [since,intoLeap]
  split
  · omega
  · split <;> omega

theorem elapsedLater (later : t ≤ start) : start.elapsedSeconds t = 0 := by
  have short := sinceLater later
  have bound := t.nano_lt
  simp only [intoLeap] at short
  simp only [elapsedSeconds]
  omega

end Instant

theorem Clock.readsPlain (clock : Clock) : clock.now.Plain := by
  unfold Clock.now
  split
  · exact Instant.nanoOfMillis clock.millis
  · exact Nat.zero_lt_succ _

namespace LivenessWindow
variable {window : LivenessWindow} {lastSeen now : Instant}

theorem onlineIff : window.statusAt lastSeen now = .online ↔ now.since lastSeen < window.nanos := by
  simp [statusAt]

theorem onlineWhenSeen (w : LivenessWindow) (t : Instant) : w.statusAt t t = .online := by
  rw [onlineIff,Instant.sinceSelf]
  exact w.positive

theorem onlineAhead (window : LivenessWindow) (ahead : now ≤ lastSeen)
    (reading : now.intoLeap < window.nanos) : window.statusAt lastSeen now = .online :=
  onlineIff.mpr (Int.lt_of_le_of_lt (Instant.sinceLater ahead) reading)

theorem plainReading (window : LivenessWindow) (plain : now.Plain) : now.intoLeap < window.nanos := by
  rw [Instant.intoNoLeap plain]
  exact window.positive

end LivenessWindow
end Muster
