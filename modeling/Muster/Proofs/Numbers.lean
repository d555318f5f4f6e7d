import Mathlib.Data.List.TakeWhile
import Muster.Decimal
/-! Texts that are read as numbers. Behind an optional sign stand digits, with a point among them and a power
of ten behind them or without, or one of three words in any case; a comma is in none of these. -/
namespace Muster

theorem Text.spanExact {p : Char → Bool} {cs rest : List Char} (all : ∀ c ∈ cs, p c = true)
    (stops : ∀ c ∈ rest.head?, p c = false) :
    (cs ++ rest).takeWhile p = cs ∧ (cs ++ rest).dropWhile p = rest := by
  have here : rest.takeWhile p = [] ∧ rest.dropWhile p = rest := by
    cases rest with
    | nil => exact ⟨rfl,rfl⟩
    | cons c rest => simp [stops c rfl]
  rw [List.takeWhile_append_of_pos all,List.dropWhile_append_of_pos all,here.1,here.2]
  exact ⟨List.append_nil _,rfl⟩

namespace Decimal
variable {cs digits whole places rest : List Char} {low high : Int} {s : String}

def AllDigits (cs : List Char) : Prop := ∀ c ∈ cs, isDigit c = true

/- What may follow the digits of a number: a power of ten, or nothing. -/
inductive Exponent : List Char → Prop where
  | none : Exponent []
  | power {e : Char} {cs : List Char} (letter : e = 'e' ∨ e = 'E') (some : (sign cs).2 ≠ [])
      (all : AllDigits (sign cs).2) : Exponent (e :: cs)

inductive Positional : List Char → Prop where
  | whole {whole rest : List Char} (some : whole ≠ []) (all : AllDigits whole)
      (ends : Exponent rest) : Positional (whole ++ rest)
  | point {whole places rest : List Char} (some : whole ≠ [] ∨ places ≠ []) (all : AllDigits whole)
      (more : AllDigits places) (ends : Exponent rest) : Positional (whole ++ '.' :: (places ++ rest))

def Named (cs : List Char) : Prop :=
  String.ofList (cs.map Char.toLower) ∈ ["inf","infinity","nan"]

def NumberText (s : String) : Prop :=
  Named (sign s.toList).2 ∨ Positional (sign s.toList).2

theorem leadingDigits (cs : List Char) : AllDigits (cs.takeWhile isDigit) :=
  fun _ inside => List.mem_takeWhile_imp inside

theorem exponentStops (ends : Exponent rest) :
    ∀ c ∈ rest.head?, isDigit c = false ∧ c ≠ '.' := by
  cases ends with
  | none => simp
  | power letter =>
    intro c first
    cases first
    rcases letter with rfl | rfl <;> decide

theorem exponentIff : (∃ n, exponent? cs = some n) ↔ Exponent cs := by
  cases cs with
  | nil => exact iff_of_true ⟨0,rfl⟩ .none
  | cons e rest =>
    by_cases letter : e = 'e' ∨ e = 'E'
    · have marked : ¬ ((e != 'e' && e != 'E') = true) := by grind
      simp only [exponent?,if_neg marked]
      split
      · next refused =>
        refine iff_of_false (by simp) ?_
        intro ends
        cases ends with
        | power _ some all =>
          simp only [Bool.or_eq_true,List.isEmpty_iff,Bool.not_eq_true',List.all_eq_false] at refused
          rcases refused with none | ⟨c,inside,other⟩
          · exact some none
          · exact other (all c inside)
      · next taken =>
        refine iff_of_true ⟨_,rfl⟩ ?_
        simp only [Bool.or_eq_true,List.isEmpty_iff,Bool.not_eq_true',List.all_eq_false,not_or,
          not_exists,not_and,not_not] at taken
        exact .power letter taken.1 taken.2
    · have other : (e != 'e' && e != 'E') = true := by grind
      simp only [exponent?,if_pos other]
      refine iff_of_false (by simp) ?_
      intro ends
      cases ends with
      | power marked => exact letter marked

theorem positionalIff : (∃ digits places rest, pointDigits? cs = some (digits,places,rest) ∧
    Exponent rest) ↔ Positional cs := by
  constructor
  · intro read
    obtain ⟨digits,places,rest,read,ends⟩ := read
    have span := List.takeWhile_append_dropWhile (p := isDigit) (l := cs)
    simp only [pointDigits?] at read
    split at read
    · next tail behind =>
      rw [behind,← List.takeWhile_append_dropWhile (p := isDigit) (l := tail)] at span
      split at read
      · cases read
      · next some =>
        cases read
        rw [← span]
        refine .point ?_ (leadingDigits cs) (leadingDigits tail) ends
        simpa only [Bool.and_eq_true,List.isEmpty_iff,not_and_or] using some
    · split at read
      · cases read
      · next some =>
        cases read
        rw [← span]
        exact .whole (mt List.isEmpty_iff.mpr some) (leadingDigits cs) ends
  · intro positional
    cases positional with
    | @whole whole rest some all ends =>
      obtain ⟨before,behind⟩ := Text.spanExact all fun c first => (exponentStops ends c first).1
      refine ⟨digitsValue whole,0,rest,?_,ends⟩
      simp only [pointDigits?,before,behind]
      split
      · next tail => exact absurd rfl (exponentStops ends '.' rfl).2
      · rw [if_neg (mt List.isEmpty_iff.mp some)]
    | @point whole places rest some all more ends =>
      have stops : ∀ c ∈ ('.' :: (places ++ rest)).head?, isDigit c = false := by simp [isDigit]
      obtain ⟨before,behind⟩ := Text.spanExact all stops
      obtain ⟨within,past⟩ := Text.spanExact more fun c first => (exponentStops ends c first).1
      refine ⟨digitsValue (whole ++ places),places.length,rest,?_,ends⟩
      simp only [pointDigits?,before,behind,within,past]
      rw [if_neg]
      simpa only [Bool.and_eq_true,List.isEmpty_iff,not_and_or] using some

theorem realIff : (∃ x, real? s = some x) ↔ NumberText s := by
  rcases parts : sign s.toList with ⟨negative,body⟩
  simp only [real?,NumberText,Named,parts,beq_iff_eq,Bool.or_eq_true,List.mem_cons,List.not_mem_nil,
    or_false]
  split
  · next infinite => exact iff_of_true ⟨_,rfl⟩ (.inl (infinite.imp_right .inl))
  · next finite =>
    split
    · next none => exact iff_of_true ⟨_,rfl⟩ (.inl (.inr (.inr none)))
    · next number =>
      have unnamed : ¬ (String.ofList (body.map Char.toLower) = "inf" ∨
          String.ofList (body.map Char.toLower) = "infinity" ∨
          String.ofList (body.map Char.toLower) = "nan") := by
        intro named
        rcases named with inf | infinity | nan
        · exact finite (.inl inf)
        · exact finite (.inr infinity)
        · exact number nan
      rw [or_iff_right unnamed,← positionalIff]
      simp only [bind,Option.bind_eq_some_iff,Option.some.injEq,Prod.exists]
      constructor
      · intro read
        obtain ⟨x,digits,places,rest,point,n,power,_⟩ := read
        exact ⟨digits,places,rest,point,exponentIff.mp ⟨n,power⟩⟩
      · intro positional
        obtain ⟨digits,places,rest,point,ends⟩ := positional
        obtain ⟨n,power⟩ := exponentIff.mpr ends
        exact ⟨_,digits,places,rest,point,n,power,rfl⟩

theorem wholeNumber {n : Int} (below : low < 0) (read : whole? low high s = some n) :
    NumberText s := by
  unfold whole? at read
  split at read
  next negative digits parts =>
    have signed : sign s.toList = (negative,digits) := by
      unfold sign
      split at parts
      · rw [if_pos below] at parts
        exact parts
      · exact parts
      · exact parts
    split at read
    · cases read
    · next taken =>
      simp only [Bool.or_eq_true,List.isEmpty_iff,Bool.not_eq_true',List.all_eq_false,not_or,
        not_exists,not_and,not_not] at taken
      have positional := Positional.whole taken.1 taken.2 .none
      rw [List.append_nil] at positional
      exact .inr (signed ▸ positional)

theorem signSpan (cs : List Char) :
    cs = (sign cs).2 ∨ cs = '-' :: (sign cs).2 ∨ cs = '+' :: (sign cs).2 := by
  unfold sign
  split <;> simp

theorem digitsPlain (all : AllDigits cs) : ',' ∉ cs := fun inside => by
  have digit := all ',' inside
  simp [isDigit] at digit

theorem signedPlain (plain : ',' ∉ (sign cs).2) : ',' ∉ cs := by
  rcases signSpan cs with same | minus | plus
  · exact same ▸ plain
  · rw [minus]; simp [plain]
  · rw [plus]; simp [plain]

theorem exponentPlain (ends : Exponent rest) : ',' ∉ rest := by
  cases ends with
  | none => simp
  | @power e cs letter some all =>
    have after : ',' ∉ cs := signedPlain (digitsPlain all)
    rcases letter with rfl | rfl <;> simp [after]

theorem positionalPlain (positional : Positional cs) : ',' ∉ cs := by
  cases positional with
  | whole _ all ends => simp [digitsPlain all,exponentPlain ends]
  | point _ all more ends => simp [digitsPlain all,digitsPlain more,exponentPlain ends]

theorem namedPlain (named : Named cs) : ',' ∉ cs := by
  intro inside
  have lowered : ',' ∈ (String.ofList (cs.map Char.toLower)).toList := by
    rw [String.toList_ofList]
    exact List.mem_map.mpr ⟨',',inside,rfl⟩
  simp only [Named,List.mem_cons,List.not_mem_nil,or_false] at named
  rcases named with word | word | word <;> simp [word] at lowered

theorem numberPlain (number : NumberText s) : ',' ∉ s.toList := by
  refine signedPlain ?_
  rcases number with named | positional
  · exact namedPlain named
  · exact positionalPlain positional

end Decimal
end Muster
