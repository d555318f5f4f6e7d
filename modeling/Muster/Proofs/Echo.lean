import Muster.Proofs.Codec
import Muster.Proofs.Freshness
import Muster.Proofs.Refusals
import Muster.Proofs.Requests
import Muster.Proofs.Retries
import Muster.Proofs.Selectors
/-! Heartbeats that are sent back. A heartbeat is answered by a view of its node, and this view is a
heartbeat itself: besides fields that the intake passes over it has those of the heartbeat, in the form
in which the intake leaves them. -/
namespace Muster

def Text.Tight (s : String) : Prop := s ≠ "" ∧ trim s = s

namespace Announcement
variable {value : Option Json} {body : Json} {a : Announcement}

structure Settled (a : Announcement) : Prop where
  name : Text.Tight a.name
  type : Text.Tight a.type
  key : Text.Tight a.key
  host : ∀ host ∈ a.host, Text.Tight host

theorem saidTight {kept : String} (told : SaysText value kept) : Text.Tight kept := by
  obtain ⟨sent,_,trims,some⟩ := told
  refine ⟨some,?_⟩
  rw [Text.trimsIff.mp trims,Text.trimTrimmed]

theorem takenSettled (read : ofJson body = .ok a) : a.Settled := by
  have reads := takenReads read
  refine ⟨saidTight reads.name,saidTight reads.type,saidTight reads.key,fun host kept => ?_⟩
  rcases reads.host with ⟨_,none⟩ | ⟨said,told,same⟩
  · rw [none] at kept
    cases kept
  · rw [same] at kept
    cases kept
    exact saidTight told

theorem requiredWritten {kept : String} (tight : Text.Tight kept) :
    requiredText (some (.str kept)) = .ok kept :=
  requiredTextOk.mpr ⟨kept,rfl,Text.trimsIff.mpr tight.2.symm,tight.1⟩

theorem hostWritten {host : Option String} (tight : ∀ kept ∈ host, Text.Tight kept) :
    optionalText (some (Json.ofOption .str host)) = .ok host := by
  cases host with
  | none => rfl
  | some kept =>
    have told : SaysText (some (.str kept)) kept :=
      requiredTextOk.mp (requiredWritten (tight kept rfl))
    exact optionalTextOk.mpr (.inr ⟨kept,told,rfl⟩)

theorem portWritten (port : Option UInt16) :
    optionalPort (some (Json.ofOption (fun p => .nat p.toNat) port)) = .ok port := by
  cases port with
  | none => rfl
  | some p => exact optionalPortOk.mpr (.inr ⟨p,rfl,rfl⟩)

theorem additionalWritten (additional : Option Additional) :
    optionalObject (some (Json.ofOption .obj additional)) = .ok additional := by
  cases additional <;> rfl

theorem viewRead {v : NodeView} (settled : v.record.announced.Settled) :
    ofJson v.toJson = .ok v.record.announced := by
  have holds : ∀ f ∈ v.record.toFields,
      Entries.find? f.1 (Entries.ofPairs v.toFields) = some f.2 :=
    fun f mem => NodeView.findField (List.mem_append_left _ mem)
  simp only [NodeRecord.toFields,List.forall_mem_cons] at holds
  obtain ⟨additional,_,_,host,key,_,name,type,port,_⟩ := holds
  change ofJson (.obj (Entries.ofPairs v.toFields)) = _
  rw [objectOk,name,type,key,host,port,additional]
  exact ⟨requiredWritten settled.name,requiredWritten settled.type,requiredWritten settled.key,
    hostWritten settled.host,portWritten _,additionalWritten _⟩

end Announcement

theorem Json.parseSent (text : String) : parseBytes text.toUTF8 = parse text := by
  have read : String.fromUTF8? text.toUTF8 = some text := dif_pos text.isValidUTF8
  rw [parseBytes,read]

theorem Http.Service.nodeAnswered {reg : Registry} {now : Instant} {body : Json} {view : NodeView}
    (accepted : (reg.announceJson now body).1 = .ok view) (s : Service) (r : Request)
    (post : r.method = "POST") (path : r.path = "/v1/imalive") (read : r.json = .ok body) :
    (s.serve reg now r).response.body.bind (Json.field? "node") = some view.toJson := by
  rw [servePosted s reg now r post (imaliveOfPath.mpr path) rfl]
  obtain ⟨a,taken,rfl⟩ := Registry.takenOfAccepted accepted
  simp only [handle,imalive,Request.read,read,Registry.announceJsonTaken taken]
  rfl

namespace Registry
open NodeView (onRecord)
variable {reg : Registry} {now : Instant} {body : Json} {view : NodeView}

theorem announceJsonAgain {a : Announcement} (same : Announcement.ofJson body = .ok a)
    (reg : Registry) (now : Instant) :
    let once := (reg.announce now a).registry
    (once.announceJson now body).1 = .ok ((reg.announce now a).view.onRecord .counted) ∧
      (once.announceJson now body).2.1 = once.mapped (countedUnseen a.key) := by
  intro once
  obtain ⟨registry,answer⟩ := announceAgain reg now a
  rw [announceJsonTaken same once now]
  exact ⟨congrArg _ answer,registry⟩

/-- The view by which a heartbeat is answered is taken as a heartbeat and says the same. Sent at the same
reading of the clock it changes nothing but the count of that node, which is one more if it can be. The
view is a JSON value here, and no text: a long fraction in the additional object may come out of
`Json.render` and `Json.parse` as a number next to it. -/
theorem echoTaken (accepted : (reg.announceJson now body).1 = .ok view) :
    let once := (reg.announceJson now body).2.1
    let again := once.announceJson now view.toJson
    (∃ a, Announcement.ofJson body = .ok a ∧ Announcement.ofJson view.toJson = .ok a) ∧
    again.1 = .ok (view.onRecord .counted) ∧
    again.2.1 = { once with store := again.2.1.store } ∧
    (∀ key, again.2.1.store.get? key =
      (once.store.get? key).map (.countedUnder view.record.key)) ∧
    ∀ (s : Http.Service) (r : Http.Request), r.method = "POST" → r.path = "/v1/imalive" →
      r.json = .ok body →
        (s.serve reg now r).response.body.bind (Json.field? "node") = some view.toJson := by
  intro once again
  have node := Http.Service.nodeAnswered accepted
  obtain ⟨a,read,rfl⟩ := takenOfAccepted accepted
  have same : (reg.announce now a).view.record.announced = a := reg.store.mergedAnnounced a now
  have echoed : Announcement.ofJson (reg.announce now a).view.toJson = .ok a := by
    have settled := Announcement.takenSettled read
    rw [← same] at settled
    rw [Announcement.viewRead settled,same]
  have first : once = (reg.announce now a).registry := by simp only [once,announceJsonTaken read]
  obtain ⟨answer,registry⟩ := announceJsonAgain echoed reg now
  have own : (reg.announce now a).view.record.key = a.key := reg.store.mergedKey (a.toRecord now)
  rw [← first] at answer registry
  refine ⟨⟨a,read,echoed⟩,answer,?_,fun key => ?_,node⟩
  · rw [registry]
    rfl
  · rw [registry,own]
    exact once.store.getMapped (countedUnseen a.key) key

theorem echoTakenMoved :
    let stored : NodeRecord :=
      ⟨"hub","db","k1",some "db-1",some 80,none,.ofMillis 1000,.ofMillis 9000,6⟩
    let reg : Registry := ⟨Store.empty.upsert stored,⟨10,by decide,by decide⟩,[]⟩
    let now : Instant := .ofMillis 2000
    let body : Json := .obj [("additional",.obj [("port",.null)]),("host"," "),
      ("instance_key","k1 "),("node_name"," orb"),("node_type","db")]
    let kept : Announcement := ⟨"orb","db","k1",none,none,some [("port",.null)]⟩
    let view := reg.window.view now { kept.toRecord now with
      firstSeen := .ofMillis 1000,lastSeen := .ofMillis 9000,heartbeats := 7 }
    let once := (reg.announceJson now body).2.1
    let text := "\x7b\"additional\":\x7b\"port\":null\x7d,\"host\":\" \",\"instance_key\":\"k1 \"," ++
      "\"node_name\":\" orb\",\"node_type\":\"db\"\x7d"
    let request : Http.Request := ⟨"POST","/v1/imalive",some "application/json",text.toUTF8⟩
    let service : Http.Service := ⟨⟨.obj [],.empty⟩,"",.epoch,.zero⟩
    (reg.announceJson now body).1 = .ok view ∧ Announcement.ofJson body = .ok kept ∧
      Announcement.ofJson view.toJson = .ok kept ∧
      (once.announceJson now view.toJson).1 = .ok (view.onRecord .counted) ∧
      view.record.counted = { view.record with heartbeats := 8 } ∧
      request.json = .ok body ∧
      (service.serve reg now request).response.body.bind (Json.field? "node") =
        some view.toJson := by
  intro stored reg now body kept view once text request service
  have accepted : (reg.announceJson now body).1 = .ok view := by rfl
  have taken : Announcement.ofJson body = .ok kept := by rfl
  have posted : request.json = .ok body := by
    have typed : (request.contentType.bind Http.MediaType.read?).any Http.MediaType.isJson = true :=
      by decide +kernel
    have short : ¬ Http.bodyLimit < text.toUTF8.size := by decide +kernel
    have read : Json.parse text = some body := by
      simp only [text,body]
      cbv
    have parsed : Json.parseBytes text.toUTF8 = some body := (Json.parseSent text).trans read
    simp only [Http.Request.json,typed,request,short,parsed]
    rfl
  obtain ⟨⟨a,read,echoed⟩,answer,_,_,node⟩ := echoTaken accepted
  cases Except.ok.inj (taken.symm.trans read)
  exact ⟨accepted,taken,echoed,answer,by rfl,posted,node service request rfl (by decide) posted⟩

end Registry
end Muster
