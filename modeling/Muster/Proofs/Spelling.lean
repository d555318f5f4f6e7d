import Muster.Proofs.Fetching
/-! Texts in another spelling, that is, with other cases of their ASCII letters. Whether a sigma is final
depends on what its neighbours are, never on their case, so that both spellings have one lower case.
A query, a required name and a stored name may each be spelt in either way. -/
namespace Muster

namespace Text

def SameButCase (s t : String) : Prop := s.toList.map Char.toLower = t.toList.map Char.toLower

instance (s t : String) : Decidable (SameButCase s t) := inferInstanceAs (Decidable (_ = _))

/- All that is asked of a character when a text is trimmed or put into lower case. -/
structure Traits where
  blank : Bool
  ignorable : Bool
  cased : Bool
  sigma : Bool
  lower : List Char
  deriving DecidableEq

def traits (c : Char) : Traits :=
  ⟨isBlank c,isCaseIgnorable c,isCased c,c == 'Σ',lowerChar c⟩

def capitalPoints : List Nat := List.range' 65 26

theorem traitsSpelt (c : Char) : traits c.toLower = traits c := by
  by_cases capital : 'A'.val ≤ c.val ∧ c.val ≤ 'Z'.val
  · have each : ∀ n ∈ capitalPoints, traits (Char.ofNat n).toLower = traits (.ofNat n) := by
      decide +kernel
    have point : c.toNat ∈ capitalPoints := by
      obtain ⟨least,most⟩ := capital
      have low : 65 ≤ c.toNat := least
      have high : c.toNat ≤ 90 := most
      rw [capitalPoints,List.mem_range'_1]
      omega
    have own := each c.toNat point
    rwa [Char.ofNat_toNat] at own
  · have small : c.toLower = c := dif_neg capital
    rw [small]

theorem blankSpelt (c : Char) : isBlank c.toLower = isBlank c :=
  congrArg Traits.blank (traitsSpelt c)

theorem ignorableSpelt (c : Char) : isCaseIgnorable c.toLower = isCaseIgnorable c :=
  congrArg Traits.ignorable (traitsSpelt c)

theorem casedSpelt (c : Char) : isCased c.toLower = isCased c :=
  congrArg Traits.cased (traitsSpelt c)

theorem sigmaSpelt {c : Char} : c.toLower = 'Σ' ↔ c = 'Σ' := by
  have same : (c.toLower == 'Σ') = (c == 'Σ') := congrArg Traits.sigma (traitsSpelt c)
  rw [← beq_iff_eq,same,beq_iff_eq]

theorem lowerCharSpelt (c : Char) : lowerChar c.toLower = lowerChar c :=
  congrArg Traits.lower (traitsSpelt c)

theorem reachesSpelt (cs : List Char) : reachesCased (cs.map Char.toLower) = reachesCased cs := by
  induction cs with
  | nil => rfl
  | cons c rest ih =>
    simp only [reachesCased,List.map_cons,List.dropWhile_cons,ignorableSpelt] at ih ⊢
    cases isCaseIgnorable c with
    | true => exact ih
    | false => exact casedSpelt c

theorem endsWordSpelt (before after : List Char) :
    endsWord (before.map Char.toLower) (after.map Char.toLower) = endsWord before after := by
  rw [endsWord,reachesSpelt,reachesSpelt,endsWord]

theorem lowerAfterSpelt (before cs : List Char) :
    lowerAfter (before.map Char.toLower) (cs.map Char.toLower) = lowerAfter before cs := by
  induction cs generalizing before with
  | nil => rfl
  | cons c rest ih =>
    have later := ih (c :: before)
    rw [List.map_cons] at later
    simp only [List.map_cons,lowerAfter,later,lowerCharSpelt]
    by_cases sigma : c = 'Σ'
    · rw [if_pos sigma,if_pos (sigmaSpelt.mpr sigma),endsWordSpelt]
    · rw [if_neg sigma,if_neg (mt sigmaSpelt.mp sigma)]

theorem lowerSpelt {s t : String} (same : SameButCase s t) : lower s = lower t := by
  have chars (u : String) : lowerChars (u.toList.map Char.toLower) = lowerChars u.toList :=
    lowerAfterSpelt [] u.toList
  rw [lower,lower,← chars s,← chars t,same]

theorem trimStartSpelt (cs : List Char) :
    trimStart (cs.map Char.toLower) = (trimStart cs).map Char.toLower := by
  have blanks : isBlank ∘ Char.toLower = isBlank := funext blankSpelt
  rw [trimStart,List.dropWhile_map,blanks,trimStart]

theorem trimSpelt {s t : String} (same : SameButCase s t) : SameButCase (trim s) (trim t) := by
  have chars (u : String) : (trim u).toList.map Char.toLower =
      trimEnd (trimStart (u.toList.map Char.toLower)) := by
    simp only [trim,trimEnd,String.toList_ofList,List.map_reverse,← trimStartSpelt]
  rw [SameButCase,chars,chars,same]

end Text

namespace Registry
variable {reg : Registry} {now : Instant} {r : Requirement}

def shows (reg : Registry) (now : Instant) (r : Requirement) : Prop :=
  Entries.find? r.display (reg.readinessFor now [r]).summary = some .on

theorem showsIff : reg.shows now r ↔ r.MetAt reg now :=
  (Readiness.exactAlone reg now r).each r (List.mem_singleton_self r)

end Registry

inductive Respelt : List NodeRecord → List NodeRecord → Prop where
  | nil : Respelt [] []
  | cons {r : NodeRecord} {name type : String} {rest others : List NodeRecord}
      (named : Text.SameButCase r.name name) (typed : Text.SameButCase r.type type)
      (tail : Respelt rest others) : Respelt (r :: rest) ({ r with name,type } :: others)

theorem respeltOutlines {records others : List NodeRecord} (respelt : Respelt records others) :
    others.map NodeRecord.outline = records.map NodeRecord.outline := by
  induction respelt with
  | nil => rfl
  | cons named typed tail ih =>
    simp only [List.map_cons,ih,NodeRecord.outline,Text.lowerSpelt named,Text.lowerSpelt typed]

namespace Registry

/-- Queries that differ in nothing but the case of ASCII letters have one answer, and so have required
names and required types. Where names and types in the store are spelt otherwise, the same nodes
are found in the same order, and every verdict is the same. -/
theorem spellingIgnored (reg : Registry) (now : Instant) {query spelt : String}
    (same : Text.SameButCase query spelt) :
    reg.discover now query = reg.discover now spelt ∧
    (reg.shows now (.name query) ↔ reg.shows now (.name spelt)) ∧
    (reg.shows now (.type query) ↔ reg.shows now (.type spelt)) ∧
    ∀ store, Respelt reg.store.records store.records →
      let other := { reg with store }
      (other.discover now query).map (·.record.key) =
        (reg.discover now query).map (·.record.key) ∧
      ∀ requirements, other.readinessFor now requirements = reg.readinessFor now requirements := by
  have folded : Text.lower query = Text.lower spelt := Text.lowerSpelt same
  have needle : Text.lower (Text.trim query) = Text.lower (Text.trim spelt) :=
    Text.lowerSpelt (Text.trimSpelt same)
  refine ⟨?_,?_,?_,?_⟩
  · simp only [discover,matchesQuery,needle]
  · simp only [showsIff,Requirement.MetAt,Requirement.Names,folded]
  · simp only [showsIff,Requirement.MetAt,Requirement.Names,folded]
  · intro store respelt other
    have alike : Alike reg other := ⟨rfl,respeltOutlines respelt⟩
    exact ⟨alike.found now query,alike.readiness now⟩

theorem spellingIgnoredSigma :
    let node : NodeRecord := ⟨"ΟΔΟΣa","Web","k1",none,none,none,.epoch,.epoch,1⟩
    let reg := Readiness.alone ⟨10,by decide,by decide⟩ node
    let store := Store.empty.upsert { node with name := "ΟΔΟΣA",type := "wEB" }
    let other := { reg with store }
    Text.SameButCase " Σa" " ΣA" ∧ Respelt reg.store.records store.records ∧
      reg.discover .epoch " Σa" = reg.discover .epoch " ΣA" ∧
      (reg.shows .epoch (.name " Σa") ↔ reg.shows .epoch (.name " ΣA")) ∧
      (reg.discover .epoch " Σa").map (·.record.key) = ["k1"] ∧
      (other.discover .epoch " Σa").map (·.record.key) = ["k1"] ∧
      other.readinessFor .epoch [.name "οδοσa",.type "web"] =
        reg.readinessFor .epoch [.name "οδοσa",.type "web"] := by
  intro node reg store other
  have same : Text.SameButCase " Σa" " ΣA" := by decide
  have named : Text.SameButCase node.name "ΟΔΟΣA" := by decide
  have typed : Text.SameButCase node.type "wEB" := by decide
  have respelt : Respelt reg.store.records store.records := .cons named typed .nil
  obtain ⟨asked,name,_,stored⟩ := spellingIgnored reg .epoch same
  obtain ⟨found,verdicts⟩ := stored store respelt
  have keys : (reg.discover .epoch " Σa").map (·.record.key) = ["k1"] := by decide +kernel
  exact ⟨same,respelt,asked,name,keys,found.trans keys,verdicts _⟩

end Registry
end Muster
