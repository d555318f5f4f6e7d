import Muster.Proofs.Enumeration
import Muster.Proofs.Readiness
import Muster.Proofs.Retries
import Muster.Proofs.Selectors
import Muster.Time.Clock
/-! What a heartbeat does. The node it comes from is fresh, also where the clock went back and its record
is ahead of the reading; the views of all other nodes stay as they are and in the order in which they
were. What a node says of itself and what is required are trimmed in one way, and an entry is cut at no
colon but its first, so that a node which is taken in is what its own texts ask for, behind whatever
selector. -/
namespace Muster

namespace Entries
variable {β : Type}

theorem filterPut (key : String) (value : β) (entries : List (String × β)) :
    (put key value entries).filter (·.1 ≠ key) = entries.filter (·.1 ≠ key) := by
  induction entries with
  | nil => simp [put]
  | cons e rest ih =>
    obtain ⟨k,v⟩ := e
    simp only [put]
    split
    · simp
    · split
      · next same => simp [same]
      · rw [List.filter_cons,List.filter_cons,ih]

end Entries

def NodeRecord.announced (r : NodeRecord) : Announcement :=
  ⟨r.name,r.type,r.key,r.host,r.port,r.additional⟩

namespace Store

theorem recordsOther (s : Store) (key : String) : s.records.filter (·.key ≠ key) =
    (s.nodes.entries.filter (·.1 ≠ key)).map (·.2) := by
  have own : ∀ e ∈ s.nodes.entries, decide (e.2.key ≠ key) = decide (e.1 ≠ key) := by
    intro e mem
    rw [s.keyed e mem]
  rw [records,Table.values,List.filter_map]
  exact congrArg _ (List.filter_congr own)

theorem upsertOther (s : Store) (r : NodeRecord) :
    (s.upsert r).records.filter (·.key ≠ r.key) = s.records.filter (·.key ≠ r.key) := by
  have entries : (s.upsert r).nodes.entries = Entries.put r.key (s.merged r) s.nodes.entries := by
    rw [← s.mergedKey r]
    rfl
  rw [recordsOther,recordsOther,entries,Entries.filterPut]

theorem lookupUpserted (s : Store) (r : NodeRecord) :
    (s.upsert r).lookup [r.key] = [s.merged r] := by
  simp [lookup,distinct,distinctAfter,mergedUnder]

theorem mergedSeen (s : Store) (r : NodeRecord) : r.lastSeen ≤ (s.merged r).lastSeen := by
  unfold merged
  split
  · exact le_max_right _ _
  · exact le_rfl

theorem mergedAnnounced (s : Store) (a : Announcement) (now : Instant) :
    (s.merged (a.toRecord now)).announced = a := by
  unfold merged
  split
  · next stored found =>
    have own : stored.key = a.key := keyOfGet found
    rw [NodeRecord.announced,NodeRecord.merge,own]
    rfl
  · rfl

end Store

namespace Registry

/- No two views may stand in either order, so that leaving some out does not move the others. -/
theorem orderFilter {views : List NodeView} (unique : (views.map (·.record.key)).Nodup)
    (p : NodeView → Bool) : (order views).filter p = order (views.filter p) := by
  have kept : (order views).Perm views := List.mergeSort_perm views _
  have also : (((order views).filter p).map (·.record.key)).Nodup :=
    ((kept.map _).nodup_iff.mpr unique).sublist (List.filter_sublist.map _)
  calc (order views).filter p
      = order ((order views).filter p) :=
        (List.mergeSort_of_pairwise ((orderSorted views).filter p)).symm
    _ = order (views.filter p) := orderPerm (kept.filter p) also

theorem listOther (reg : Registry) (now : Instant) (key : String) :
    (reg.list now).filter (·.record.key ≠ key) =
      order (reg.views now (reg.store.records.filter (·.key ≠ key))) := by
  have unique : ((reg.views now reg.store.records).map (·.record.key)).Nodup := by
    rw [viewsKeys]
    exact reg.store.recordKeysNodup
  rw [list,orderFilter unique,views,List.filter_map]
  rfl

/-- A node that announces itself is fresh, and a lookup of its key finds just the view that it was
answered with; the other nodes are listed as before. It is online at every reading outside leap seconds,
where all clocks read, and inside one if the window is longer than the time into it. -/
theorem announceFreshens (reg : Registry) (now : Instant) (a : Announcement) :
    let written := reg.announce now a
    now ≤ written.view.record.lastSeen ∧ written.view.ageSeconds = 0 ∧
    (now.intoLeap < reg.window.nanos → written.view.status = .online) ∧
    written.registry.lookup now [a.key] = [written.view] ∧
    (written.registry.list now).filter (·.record.key ≠ a.key) =
      (reg.list now).filter (·.record.key ≠ a.key) := by
  intro written
  let record := a.toRecord now
  have ahead : now ≤ (reg.store.merged record).lastSeen := reg.store.mergedSeen record
  refine ⟨ahead,Instant.elapsedLater ahead,reg.window.onlineAhead ahead,?_,?_⟩
  · exact congrArg (reg.views now) (reg.store.lookupUpserted record)
  · rw [listOther,listOther]
    exact congrArg (fun others => order (reg.views now others)) (reg.store.upsertOther record)

theorem announceOnline (reg : Registry) (clock : Clock) (a : Announcement) :
    (reg.announce clock.now a).view.status = .online :=
  reg.window.onlineAhead (reg.store.mergedSeen (a.toRecord clock.now))
    (reg.window.plainReading clock.readsPlain)

theorem announceFreshensRetreat :
    let orb : NodeRecord := ⟨"orb","web","k1",none,none,none,.ofMillis 5000,.ofMillis 9000,1⟩
    let hub : NodeRecord := ⟨"hub","web","k2",none,none,none,.ofMillis 4000,.ofMillis 7000,1⟩
    let reg : Registry := ⟨(Store.empty.upsert orb).upsert hub,⟨1,by decide,by decide⟩,[]⟩
    let now := (Clock.startingAt (.ofMillis 2000)).now
    let written := reg.announce now ⟨"orb-2","web","k1",none,none,none⟩
    now.intoLeap < reg.window.nanos ∧ written.view.status = .online ∧
      written.view.record.lastSeen = .ofMillis 9000 ∧
      written.registry.lookup now ["k1"] = [written.view] ∧
      (written.registry.list now).filter (·.record.key ≠ "k1") =
        (reg.list now).filter (·.record.key ≠ "k1") := by
  intro orb hub reg now written
  have reading : now.intoLeap < reg.window.nanos := reg.window.plainReading (Clock.readsPlain _)
  obtain ⟨_,_,online,found,others⟩ := announceFreshens reg now ⟨"orb-2","web","k1",none,none,none⟩
  exact ⟨reading,online reading,by decide +kernel,found,others⟩

end Registry

namespace Requirement
variable {entries : List String} {seen requirements : List Requirement}

theorem parseDistinct
    (read : List.Forall₂ (fun entry r => parse entry = .ok r) entries requirements)
    (distinct : (seen ++ requirements).Nodup) :
    parseAfter seen entries = (.ok (seen ++ requirements),[]) := by
  induction read generalizing seen with
  | nil => simp [parseAfter]
  | @cons entry r rest others here tail ih =>
    have split : seen ++ r :: others = (seen ++ [r]) ++ others := by simp
    have fresh : r ∉ seen := by
      intro again
      exact List.disjoint_of_nodup_append distinct again List.mem_cons_self
    rw [split] at distinct ⊢
    simp only [parseAfter,here,if_neg fresh,ih distinct]

end Requirement

namespace Announcement
variable {value : Option Json} {kept : String}

theorem saidSelected {r : Requirement} (told : SaysText value r.value) :
    ∃ sent, value = some (.str sent) ∧ Requirement.parse (r.kind ++ ":" ++ sent) = .ok r := by
  obtain ⟨sent,said,trims,some⟩ := told
  exact ⟨sent,said,Requirement.parseSelected some (Text.trimsIff.mp trims).symm⟩

end Announcement

namespace Registry
variable {reg : Registry} {now : Instant} {body : Json} {view : NodeView}

theorem announcedMet {r : Requirement} {a : Announcement} (reading : now.intoLeap < reg.window.nanos)
    (names : r.Names (reg.announce now a).view.record) :
    r.MetAt (reg.announce now a).registry now := by
  let record := a.toRecord now
  have stored : reg.store.merged record ∈ (reg.store.upsert record).records :=
    Store.memOfGet (reg.store.mergedUnder record)
  exact ⟨reg.store.merged record,stored,
    reg.window.onlineAhead (reg.store.mergedSeen record) reading,names⟩

theorem ownWordsRead (reg : Registry) (now : Instant) {a : Announcement}
    (read : Announcement.ofJson body = .ok a) :
    let record := (reg.announce now a).view.record
    ∃ name type key, body.field? "node_name" = some (.str name) ∧
      body.field? "node_type" = some (.str type) ∧
      body.field? "instance_key" = some (.str key) ∧
      Requirement.parseAll ["name:" ++ name,"type:" ++ type,"key:" ++ key] =
        (.ok [.name record.name,.type record.type,.key record.key],[]) := by
  intro record
  have same : record.announced = a := reg.store.mergedAnnounced a now
  have reads := Announcement.takenReads read
  rw [← same] at reads
  obtain ⟨name,named,byName⟩ := Announcement.saidSelected (r := .name record.name) reads.name
  obtain ⟨type,typed,byType⟩ := Announcement.saidSelected (r := .type record.type) reads.type
  obtain ⟨key,keyed,byKey⟩ := Announcement.saidSelected (r := .key record.key) reads.key
  refine ⟨name,type,key,named,typed,keyed,?_⟩
  exact Requirement.parseDistinct (.cons byName (.cons byType (.cons byKey .nil))) (by simp)

theorem ownWordsThere (reg : Registry) (a : Announcement) (reading : now.intoLeap < reg.window.nanos) :
    let record := (reg.announce now a).view.record
    ((reg.announce now a).registry.readinessFor now
      [.name record.name,.type record.type,.key record.key]).ready = true := by
  intro record
  refine Readiness.readyOfMet fun r mem => announcedMet reading ?_
  simp only [List.mem_cons,List.not_mem_nil,or_false] at mem
  rcases mem with rfl | rfl | rfl <;> rfl

/-- The texts of a heartbeat that is taken, as they were sent, name what the heartbeat says: behind their
selectors they are read as three required nodes, and all three are there once the heartbeat is noted, at
every reading outside leap seconds, where all clocks read, and inside one if the window is longer than the
time into it. -/
theorem ownWordsMet (accepted : (reg.announceJson now body).1 = .ok view) :
    ∃ name type key, body.field? "node_name" = some (.str name) ∧
      body.field? "node_type" = some (.str type) ∧
      body.field? "instance_key" = some (.str key) ∧
      let required := [Requirement.name view.record.name,.type view.record.type,.key view.record.key]
      Requirement.parseAll ["name:" ++ name,"type:" ++ type,"key:" ++ key] = (.ok required,[]) ∧
      (now.intoLeap < reg.window.nanos →
        ((reg.announceJson now body).2.1.readinessFor now required).ready = true) := by
  obtain ⟨a,read,rfl⟩ := takenOfAccepted accepted
  obtain ⟨name,type,key,named,typed,keyed,parsed⟩ := reg.ownWordsRead now read
  refine ⟨name,type,key,named,typed,keyed,parsed,fun reading => ?_⟩
  rw [announceJsonTaken read]
  exact reg.ownWordsThere a reading

theorem ownWordsReady {clock : Clock} (accepted : (reg.announceJson clock.now body).1 = .ok view) :
    ((reg.announceJson clock.now body).2.1.readinessFor clock.now
      [.name view.record.name,.type view.record.type,.key view.record.key]).ready = true := by
  obtain ⟨a,read,rfl⟩ := takenOfAccepted accepted
  rw [announceJsonTaken read]
  exact reg.ownWordsThere a (reg.window.plainReading clock.readsPlain)

theorem ownWordsMetAlike :
    let stored : NodeRecord := ⟨"hub","db","k:1",none,none,none,.ofMillis 5000,.ofMillis 9000,1⟩
    let reg : Registry := ⟨Store.empty.upsert stored,⟨1,by decide,by decide⟩,[]⟩
    let now := (Clock.startingAt (.ofMillis 2000)).now
    let body : Json :=
      .obj [("instance_key"," k:1"),("node_name","\u3000type:web"),("node_type","web\t")]
    let view := reg.window.view now { stored with
      name := "type:web",type := "web",firstSeen := .ofMillis 2000,heartbeats := 2 }
    let required := [Requirement.name "type:web",.type "web",.key "k:1"]
    (reg.announceJson now body).1 = .ok view ∧ now.intoLeap < reg.window.nanos ∧
      Requirement.parseAll ["name:\u3000type:web","type:web\t","key: k:1"] = (.ok required,[]) ∧
      required.map (·.display) = ["type:web","type:web","key:k:1"] ∧
      ((reg.announceJson now body).2.1.readinessFor now required).ready = true := by
  intro stored reg now body view required
  have accepted : (reg.announceJson now body).1 = .ok view := by rfl
  have reading : now.intoLeap < reg.window.nanos := reg.window.plainReading (Clock.readsPlain _)
  obtain ⟨_,_,_,⟨⟩,⟨⟩,⟨⟩,read,ready⟩ := ownWordsMet accepted
  exact ⟨accepted,reading,read,rfl,ready reading⟩

end Registry
end Muster
