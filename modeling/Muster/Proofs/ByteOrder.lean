import Mathlib.Data.List.Lex
import Mathlib.Data.UInt
/-! The order of texts is that of their bytes in UTF-8. A later character is written by bytes that part
upwards from those of an earlier one before either ends, so that what follows in the texts does not
count. -/
namespace Muster.Text

def bytes (s : String) : List UInt8 := s.toUTF8.data.toList

def encoded (cs : List Char) : List UInt8 := cs.flatMap String.utf8EncodeChar

theorem bytesEncoded (s : String) : bytes s = encoded s.toList := by
  rw [bytes,String.toUTF8_eq_toByteArray,← String.utf8Encode_toList,List.utf8Encode,
    List.data_toByteArray]
  rfl

/- The first goes below the second at a place that both have. -/
inductive Parts : List UInt8 → List UInt8 → Prop where
  | here {a b s t} (less : a < b) : Parts (a :: s) (b :: t)
  | past (a) {s t} (rest : Parts s t) : Parts (a :: s) (a :: t)

theorem partsAppend {s t : List UInt8} (parts : Parts s t) (x y : List UInt8) :
    s ++ x < t ++ y := by
  induction parts with
  | here less => exact .rel less
  | past a rest ih => exact .cons ih

theorem partsNumber {m n : Nat} {s t : List UInt8} (small : n < 256)
    (less : m < n ∨ (m = n ∧ Parts s t)) : Parts (.ofNat m :: s) (.ofNat n :: t) := by
  rcases less with less | ⟨same,rest⟩
  · refine .here ?_
    rw [UInt8.lt_iff_toNat_lt,UInt8.toNat_ofNat',UInt8.toNat_ofNat']
    omega
  · subst same
    exact .past _ rest

def tails : Nat → Nat → List UInt8
  | 0, _ => []
  | n + 1, v => .ofNat (v / 64 ^ n % 64 + 0x80) :: tails n v

theorem partsTails {n v w : Nat} (less : v % 64 ^ n < w % 64 ^ n) :
    Parts (tails n v) (tails n w) := by
  induction n with
  | zero => simp [Nat.mod_one] at less
  | succ n ih =>
    rw [Nat.mod_pow_succ,Nat.mod_pow_succ] at less
    refine partsNumber (by omega) ?_
    rcases Nat.lt_trichotomy (v / 64 ^ n % 64) (w / 64 ^ n % 64) with below | same | above
    · exact .inl (by omega)
    · rw [same] at less ⊢
      exact .inr ⟨rfl,ih (by omega)⟩
    · have rest := Nat.mod_lt w (Nat.pow_pos (n := n) (show 0 < 64 by omega))
      have higher := Nat.mul_le_mul_left (64 ^ n) above
      rw [Nat.mul_succ] at higher
      omega

theorem partsLead {n v w base : Nat} (less : v < w) (small : w / 64 ^ n + base < 256) :
    Parts (.ofNat (v / 64 ^ n + base) :: tails n v) (.ofNat (w / 64 ^ n + base) :: tails n w) := by
  refine partsNumber small ?_
  rcases Nat.lt_or_eq_of_le (Nat.div_le_div_right (c := 64 ^ n) less.le) with below | same
  · exact .inl (by omega)
  · have left := Nat.div_add_mod v (64 ^ n)
    have right := Nat.div_add_mod w (64 ^ n)
    rw [same] at left
    exact .inr ⟨by rw [same],partsTails (by omega)⟩

theorem charBound (c : Char) : c.toNat < 0x110000 := by
  have valid := c.valid
  simp only [UInt32.isValidChar,Nat.isValidChar] at valid
  change c.val.toNat < _
  omega

def following (c : Char) : Nat :=
  if c.toNat ≤ 0x7F then 0 else if c.toNat ≤ 0x7FF then 1 else if c.toNat ≤ 0xFFFF then 2 else 3

/- Where the first bytes begin that so many others follow. -/
def mark : Nat → Nat
  | 0 => 0
  | 1 => 0xC0
  | 2 => 0xE0
  | 3 => 0xF0
  | _ => 0xF8

def lead (c : Char) : Nat := c.toNat / 64 ^ following c + mark (following c)

theorem followingMono {c d : Char} (le : c.toNat ≤ d.toNat) : following c ≤ following d := by
  unfold following
  grind

theorem leadBelow (c : Char) : lead c < mark (following c + 1) := by
  have top := charBound c
  simp only [lead,following]
  split
  · simp only [mark]; omega
  · split
    · simp only [mark]; omega
    · split <;> (simp only [mark]; omega)

theorem leadApart {c d : Char} (fewer : following c < following d) : lead c < lead d := by
  have few : following d < 4 := by unfold following; grind
  have marks : ∀ n < 4, ∀ m < n, mark (m + 1) ≤ mark n := by decide
  calc lead c < mark (following c + 1) := leadBelow c
    _ ≤ mark (following d) := marks _ few _ fewer
    _ ≤ lead d := Nat.le_add_left _ _

theorem charLead (c : Char) :
    String.utf8EncodeChar c = .ofNat (lead c) :: tails (following c) c.toNat := by
  have top := charBound c
  have own : c.val.toNat = c.toNat := rfl
  simp only [String.utf8EncodeChar,own,lead,following]
  split
  · simp only [tails,mark,Nat.reducePow,Nat.div_one,Nat.add_zero]
  · split
    · rw [Nat.mod_eq_of_lt (show c.toNat / 64 < 32 by omega)]
      simp only [tails,mark,Nat.reducePow,Nat.div_one]
    · split
      · rw [Nat.mod_eq_of_lt (show c.toNat / 4096 < 16 by omega)]
        simp only [tails,mark,Nat.reducePow,Nat.div_one]
      · rw [Nat.mod_eq_of_lt (show c.toNat / 262144 < 8 by omega)]
        simp only [tails,mark,Nat.reducePow,Nat.div_one]

theorem partsChar {c d : Char} (less : c < d) :
    Parts (String.utf8EncodeChar c) (String.utf8EncodeChar d) := by
  have below : c.toNat < d.toNat := less
  have small : lead d < 256 := by
    have marks : ∀ n, mark n ≤ 0xF8 := by intro n; unfold mark; split <;> omega
    exact Nat.lt_of_lt_of_le (leadBelow d) ((marks _).trans (by omega))
  rw [charLead,charLead]
  rcases Nat.lt_or_eq_of_le (followingMono below.le) with fewer | same
  · exact partsNumber small (.inl (leadApart fewer))
  · simp only [lead,same] at small ⊢
    exact partsLead below small

theorem encodedLess {cs ds : List Char} (less : cs < ds) : encoded cs < encoded ds := by
  induction less with
  | @nil d ds =>
    obtain ⟨b,rest,first⟩ := List.exists_cons_of_ne_nil (String.utf8EncodeChar_ne_nil (c := d))
    simp only [encoded,List.flatMap_cons,List.flatMap_nil,first,List.cons_append]
    exact .nil
  | rel less => exact partsAppend (partsChar less) _ _
  | cons rest ih => exact List.append_left_lt ih

theorem bytesLess {a b : String} : a < b ↔ bytes a < bytes b := by
  rw [bytesEncoded,bytesEncoded]
  refine ⟨encodedLess,fun less => ?_⟩
  by_contra notBelow
  have above : b ≤ a := String.not_lt.mp notBelow
  by_cases differ : b < a
  · exact List.lt_asymm less (encodedLess differ)
  · have same : a = b := String.le_antisymm (String.not_lt.mp differ) above
    exact List.lt_irrefl _ (same ▸ less)

end Muster.Text
