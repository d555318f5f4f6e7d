import Muster.Proofs.Requests
import Muster.Proofs.Required
import Muster.Registry.Basic
/-! Settings that make a registry. The timing is looked at before the window, and the window before the
required nodes, so that of several faults the first in this order is reported; a registry that is made
is empty, and its window is for good the one that was set. -/
namespace Muster

namespace LivenessWindow

def longest : Nat := 9223372036854775

theorem ofSecondsFits {n : Nat} (positive : 0 < n) (fits : n ≤ longest) :
    ∃ w : LivenessWindow, ofSeconds n = .ok w ∧ w.nanos = n * 1000000000 := by
  have within : ¬ 9223372036854775807000000 < n * 1000000000 := by
    unfold longest at fits
    omega
  have some : ¬ n * 1000000000 = 0 := by omega
  refine ⟨⟨(n * 1000000000 : Nat),by omega,by omega⟩,?_,Int.natCast_mul n 1000000000⟩
  simp only [ofSeconds,ofNanos,dif_neg within,dif_neg some]

theorem ofSecondsLong {n : Nat} (long : longest < n) : ofSeconds n = .error .windowOutOfRange := by
  have large : 9223372036854775807000000 < n * 1000000000 := by
    unfold longest at long
    omega
  simp only [ofSeconds,ofNanos,dif_pos large]

end LivenessWindow

namespace ServerSettings
variable {s : ServerSettings} {fault : ConfigurationFault}

def Timed (s : ServerSettings) : Prop :=
  0 < s.sweepSeconds.toNat ∧ s.sweepSeconds.toNat < s.livenessSeconds.toNat

inductive Mistimed (s : ServerSettings) : ConfigurationFault → Prop where
  | noWindow (zero : s.livenessSeconds.toNat = 0) : Mistimed s .livenessZero
  | noSweep (window : 0 < s.livenessSeconds.toNat) (zero : s.sweepSeconds.toNat = 0) :
      Mistimed s .sweepZero
  | sweepNotShorter (window : 0 < s.livenessSeconds.toNat) (sweep : 0 < s.sweepSeconds.toNat)
      (late : s.livenessSeconds.toNat ≤ s.sweepSeconds.toNat) :
      Mistimed s (.sweepNotShorter s.sweepSeconds s.livenessSeconds)

/- Settings that make no registry, each for one reason. -/
inductive Unusable (s : ServerSettings) : ConfigurationFault → Prop where
  | timing {fault : ConfigurationFault} (mistimed : s.Mistimed fault) : Unusable s fault
  | window (timed : s.Timed) (long : LivenessWindow.longest < s.livenessSeconds.toNat) :
      Unusable s .windowOutOfRange
  | entry {fault : ConfigurationFault} (timed : s.Timed) (fits : s.livenessSeconds.toNat ≤ LivenessWindow.longest)
      (first : Requirement.FirstUnread s.requiredNodes fault) : Unusable s fault

theorem mistimedIff : (∃ fault, s.Mistimed fault) ↔ ¬ s.Timed := by
  constructor
  · intro wrong timed
    obtain ⟨sweep,shorter⟩ := timed
    obtain ⟨fault,mistimed⟩ := wrong
    cases mistimed with
    | noWindow zero => omega
    | noSweep window zero => omega
    | sweepNotShorter window sweep late => omega
  · intro untimed
    by_cases zero : s.livenessSeconds.toNat = 0
    · exact ⟨_,.noWindow zero⟩
    · have window := Nat.pos_of_ne_zero zero
      by_cases none : s.sweepSeconds.toNat = 0
      · exact ⟨_,.noSweep window none⟩
      · have sweep := Nat.pos_of_ne_zero none
        exact ⟨_,.sweepNotShorter window sweep (Nat.le_of_not_lt fun short => untimed ⟨sweep,short⟩)⟩

theorem validateTimed (timed : s.Timed) : s.validate = .ok () := by
  obtain ⟨sweep,shorter⟩ := timed
  have window : s.livenessSeconds ≠ 0 := by
    rw [Ne,← UInt64.toNat_inj]
    exact Nat.ne_of_gt (Nat.lt_trans sweep shorter)
  have some : s.sweepSeconds ≠ 0 := by
    rw [Ne,← UInt64.toNat_inj]
    exact Nat.ne_of_gt sweep
  have short : ¬ s.livenessSeconds ≤ s.sweepSeconds := UInt64.not_le.mpr shorter
  simp only [validate,if_neg window,if_neg some,if_neg short]

theorem validateMistimed (mistimed : s.Mistimed fault) : s.validate = .error fault := by
  unfold validate
  cases mistimed with
  | noWindow zero => rw [if_pos (UInt64.toNat_inj.mp zero)]
  | noSweep window zero =>
    rw [if_neg fun none => Nat.ne_of_gt window (congrArg UInt64.toNat none),
      if_pos (UInt64.toNat_inj.mp zero)]
  | sweepNotShorter window sweep late =>
    rw [if_neg fun none => Nat.ne_of_gt window (congrArg UInt64.toNat none),
      if_neg fun none => Nat.ne_of_gt sweep (congrArg UInt64.toNat none),
      if_pos (UInt64.le_iff_toNat_le.mpr late)]

end ServerSettings

namespace Http.Service
variable {r : Request}

theorem afterWindow (service : Service) (w : Watch) (arrivals : List Arrival) :
    (service.after w arrivals).registry.window = w.registry.window := by
  rw [afterActions]
  induction arrivals.filterMap Arrival.action? using List.reverseRecOn with
  | nil => rfl
  | append_singleton before a ih => rw [Watch.afterSnoc,Watch.stepRegistry,ih]

theorem statsWindow (service : Service) (get : r.method = "GET") (path : r.path = "/v1/stats") (w : Watch) :
    ∃ response body, (service.step w (.request r)).1 = some response ∧ response.status = 200 ∧
      response.body = some body ∧
      body.field? "liveness_window_secs" = some (.int w.registry.window.seconds) := by
  let current := { service with sweeps := w.sweeper.counters }
  have allowed : "GET" ∈ Endpoint.stats.methods := by simp [Endpoint.methods,Endpoint.posted]
  have served : (current.serve w.registry w.now r).response =
      (current.handle w.registry w.now r .stats).response.withHeaders shared := by
    simp [serve,route,get,path,Endpoint.ofPath?,allowed]
  exact ⟨_,_,congrArg some served,rfl,rfl,rfl⟩

end Http.Service

namespace Registry
variable {s : ServerSettings} {fault : ConfigurationFault} {reg : Registry}

theorem loadMistimed (mistimed : s.Mistimed fault) : (load s).1 = .error fault := by
  simp only [load,ServerSettings.validateMistimed mistimed]

theorem loadTimed (timed : s.Timed) {window : LivenessWindow}
    (made : LivenessWindow.ofSeconds s.livenessSeconds.toNat = .ok window) :
    (load s).1 = (Requirement.parseAll s.requiredNodes).1.map (⟨.empty,window,·⟩) := by
  simp only [load,ServerSettings.validateTimed timed,made]
  rcases Requirement.parseAll s.requiredNodes with ⟨fault | requirements,events⟩ <;> rfl

theorem loadCases (s : ServerSettings) :
    (¬ s.Timed ∧ ∃ fault, s.Mistimed fault ∧ (load s).1 = .error fault) ∨
    (s.Timed ∧ LivenessWindow.longest < s.livenessSeconds.toNat ∧
      (load s).1 = .error .windowOutOfRange) ∨
    (s.Timed ∧ s.livenessSeconds.toNat ≤ LivenessWindow.longest ∧ ∃ window : LivenessWindow,
      window.nanos = s.livenessSeconds.toNat * 1000000000 ∧
      (load s).1 = (Requirement.parseAll s.requiredNodes).1.map (⟨.empty,window,·⟩)) := by
  by_cases timed : s.Timed
  · rcases Nat.lt_or_ge LivenessWindow.longest s.livenessSeconds.toNat with long | fits
    · refine .inr (.inl ⟨timed,long,?_⟩)
      simp only [load,ServerSettings.validateTimed timed,LivenessWindow.ofSecondsLong long]
    · obtain ⟨window,made,spans⟩ :=
        LivenessWindow.ofSecondsFits (Nat.lt_trans timed.1 timed.2) fits
      exact .inr (.inr ⟨timed,fits,window,spans,loadTimed timed made⟩)
  · obtain ⟨fault,mistimed⟩ := ServerSettings.mistimedIff.mpr timed
    exact .inl ⟨timed,fault,mistimed,loadMistimed mistimed⟩

theorem loadUnusable : (load s).1 = .error fault ↔ s.Unusable fault := by
  rcases loadCases s with ⟨untimed,cause,mistimed,failed⟩ | ⟨timed,long,failed⟩ | ⟨timed,fits,_,_,read⟩
  · rw [failed,Except.error.injEq]
    constructor
    · intro same
      exact .timing (same ▸ mistimed)
    · intro unusable
      cases unusable with
      | timing also => exact Except.error.inj (failed.symm.trans (loadMistimed also))
      | window timed => exact absurd timed untimed
      | entry timed => exact absurd timed untimed
  · rw [failed,Except.error.injEq]
    constructor
    · intro same
      exact same ▸ .window timed long
    · intro unusable
      cases unusable with
      | timing mistimed => exact absurd timed (ServerSettings.mistimedIff.mp ⟨_,mistimed⟩)
      | window => rfl
      | entry _ fits => exact absurd fits (Nat.not_le.mpr long)
  · have first : (load s).1 = .error fault ↔ Requirement.FirstUnread s.requiredNodes fault := by
      rw [read,← Requirement.parseAfterRefused []]
      change Except.map _ (Requirement.parseAfter [] s.requiredNodes).1 = _ ↔ _
      cases (Requirement.parseAfter [] s.requiredNodes).1 <;> simp [Except.map]
    rw [first]
    constructor
    · exact .entry timed fits
    · intro unusable
      cases unusable with
      | timing mistimed => exact absurd timed (ServerSettings.mistimedIff.mp ⟨_,mistimed⟩)
      | window _ long => exact absurd fits (Nat.not_le.mpr long)
      | entry _ _ unread => exact unread

theorem loadedIff : (∃ reg, (load s).1 = .ok reg) ↔
    s.Timed ∧ s.livenessSeconds.toNat ≤ LivenessWindow.longest ∧
      ∀ entry ∈ s.requiredNodes, ∃ r, Requirement.parse entry = .ok r := by
  rcases loadCases s with ⟨untimed,_,_,failed⟩ | ⟨_,long,failed⟩ | ⟨timed,fits,_,_,read⟩
  · refine iff_of_false ?_ fun usable => untimed usable.1
    simp [failed]
  · refine iff_of_false ?_ fun usable => Nat.not_le.mpr long usable.2.1
    simp [failed]
  · have entries : (∃ reg, (load s).1 = .ok reg) ↔
        ∃ requirements, (Requirement.parseAll s.requiredNodes).1 = .ok requirements := by
      rw [read]
      cases (Requirement.parseAll s.requiredNodes).1 <;> simp [Except.map]
    rw [entries,Requirement.parseAll,Requirement.parseAfterTaken]
    exact ⟨fun reads => ⟨timed,fits,reads⟩,fun usable => usable.2.2⟩

theorem loadedAs (loaded : (load s).1 = .ok reg) : reg.store = .empty ∧
    reg.window.nanos = s.livenessSeconds.toNat * 1000000000 ∧
    (Requirement.parseAll s.requiredNodes).1 = .ok reg.requirements := by
  rcases loadCases s with ⟨_,_,_,failed⟩ | ⟨_,_,failed⟩ | ⟨_,_,window,spans,read⟩
  · cases failed.symm.trans loaded
  · cases failed.symm.trans loaded
  · cases parsed : (Requirement.parseAll s.requiredNodes).1 with
    | error fault =>
      rw [parsed] at read
      cases read.symm.trans loaded
    | ok requirements =>
      rw [parsed] at read
      cases read.symm.trans loaded
      exact ⟨rfl,spans,rfl⟩

theorem statsLoaded (loaded : (load s).1 = .ok reg) (service : Http.Service) (clock : Clock)
    (arrivals : List Http.Arrival) {r : Http.Request} (get : r.method = "GET")
    (path : r.path = "/v1/stats") : ∃ response body,
      (service.step (service.after (.starting reg clock) arrivals) (.request r)).1 = some response ∧
      response.status = 200 ∧ response.body = some body ∧
      body.field? "liveness_window_secs" = some (.int s.livenessSeconds.toNat) := by
  obtain ⟨response,body,told,given,shown,field⟩ := service.statsWindow get path
    (service.after (.starting reg clock) arrivals)
  obtain ⟨_,spans,_⟩ := loadedAs loaded
  have seconds : reg.window.seconds = s.livenessSeconds.toNat := by
    rw [LivenessWindow.seconds,spans]
    omega
  rw [Http.Service.afterWindow] at field
  exact ⟨response,body,told,given,shown,seconds ▸ field⟩

/-- Settings make a registry exactly if a sweep comes before each window has passed, the window is not
longer than can be counted in milliseconds and every entry is read. It is empty then, with just this
window and these required nodes, and its statistics show the window after whatever requests. Else what
is reported is what is wrong with the timing, if with nothing there then the window, and if not with it
either then the first entry that cannot be read. -/
theorem loadsUsable (s : ServerSettings) :
    let outcome := (load s).1
    ((∃ reg, outcome = .ok reg) ↔
      (0 < s.sweepSeconds.toNat ∧ s.sweepSeconds.toNat < s.livenessSeconds.toNat) ∧
      s.livenessSeconds.toNat ≤ 9223372036854775 ∧
      ∀ entry ∈ s.requiredNodes, ∃ r, Requirement.parse entry = .ok r) ∧
    (∀ reg, outcome = .ok reg → reg.store = .empty ∧
      reg.window.nanos = s.livenessSeconds.toNat * 1000000000 ∧
      (Requirement.parseAll s.requiredNodes).1 = .ok reg.requirements ∧
      ∀ (service : Http.Service) (clock : Clock) (arrivals : List Http.Arrival) (r : Http.Request),
        r.method = "GET" → r.path = "/v1/stats" → ∃ response body,
          (service.step (service.after (.starting reg clock) arrivals) (.request r)).1 =
            some response ∧ response.status = 200 ∧ response.body = some body ∧
          body.field? "liveness_window_secs" = some (.int s.livenessSeconds.toNat)) ∧
    ∀ fault, outcome = .error fault ↔ s.Unusable fault := by
  intro outcome
  refine ⟨loadedIff,fun reg loaded => ?_,fun fault => loadUnusable⟩
  obtain ⟨empty,spans,parsed⟩ := loadedAs loaded
  exact ⟨empty,spans,parsed,fun service clock arrivals r get path =>
    statsLoaded loaded service clock arrivals get path⟩

end Registry
end Muster
