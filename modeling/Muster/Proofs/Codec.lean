import Muster.Node
import Muster.Proofs.Contents
import Muster.Proofs.Intake
import Muster.Proofs.Timestamps
/-! Records and views are read back from the JSON that is written for them. Fields are found by
their names, so that it makes no difference what else an object holds and where. -/
namespace Muster

namespace Json

theorem optionalRead {α : Type} (encode : α → Json) (decode : Json → Option α) (o : Option α)
    (lawful : ∀ a, decode (encode a) = some a) (said : ∀ a, encode a ≠ .null) :
    optional? decode (some (ofOption encode o)) = some o := by
  cases o with
  | none => rfl
  | some a =>
    unfold ofOption optional?
    split
    · contradiction
    · next null => exact absurd (Option.some.inj null) (said a)
    · next written => cases written; rw [lawful]; rfl

theorem withinRead {low high n : Int} (least : low ≤ n) (most : n ≤ high) :
    (int n).within? low high = some n := by
  simp [int,within?,least,most]

theorem countRead (n : UInt64) : (nat n.toNat).count? = some n := by
  have small := n.toNat_lt
  rw [count?,nat,withinRead (by omega) (by simp [UInt64.size]; omega)]
  simp

theorem instantRead {t : Instant} (dated : t.Dated) :
    (str (Rfc3339.zulu t)).instant? = some t := by
  rw [instant?,str?,Option.bind_some,Rfc3339.readZulu dated]

end Json

theorem Status.read (status : Status) : ofJson? status.toJson = some status := by
  cases status <;> rfl

namespace NodeRecord
variable {r : NodeRecord}

theorem fieldsRead {field : String → Option Json} (first : r.firstSeen.Dated)
    (last : r.lastSeen.Dated) (holds : ∀ f ∈ r.toFields, field f.1 = some f.2) :
    ofFields? field = some r := by
  simp only [toFields,List.forall_mem_cons] at holds
  obtain ⟨additional,firstSeen,heartbeats,host,key,lastSeen,name,type,port,_⟩ := holds
  have additionalRead := Json.optionalRead .obj Json.additional? r.additional
    (fun _ => rfl) fun _ => Json.noConfusion
  have hostRead := Json.optionalRead .str Json.str? r.host (fun _ => rfl) fun _ => Json.noConfusion
  have portRead := Json.optionalRead (fun port : UInt16 => .nat port.toNat) Json.port? r.port
    (fun _ => Announcement.portSome.mpr rfl) fun _ => Json.noConfusion
  simp only [ofFields?,bind,Option.bind,additional,firstSeen,heartbeats,host,key,lastSeen,name,type,
    port,additionalRead,hostRead,portRead,Json.instantRead first,Json.instantRead last,
    Json.countRead,Json.str?]

theorem fieldsUnique (r : NodeRecord) : (r.toFields.map Prod.fst).Nodup := by
  change ["additional","first_seen","heartbeats","host","instance_key","last_seen","node_name",
    "node_type","port"].Nodup
  decide

theorem readBack (first : r.firstSeen.Dated) (last : r.lastSeen.Dated) :
    ofJson? r.toJson = some r := by
  have fields : ofFields? (fun name => Entries.find? name r.toFields) = some r :=
    fieldsRead first last fun f mem => Entries.findOfMem r.fieldsUnique mem
  exact fields

end NodeRecord

namespace NodeView
variable {v : NodeView}

def toFields (v : NodeView) : List (String × Json) :=
  v.record.toFields ++ [("status",v.status.toJson),("age_seconds",.int v.ageSeconds)]

theorem fieldsUnique (v : NodeView) : (v.toFields.map Prod.fst).Nodup := by
  rw [toFields,List.map_append,List.nodup_append']
  exact ⟨v.record.fieldsUnique,by simp,by simp [NodeRecord.toFields]⟩

theorem findField {f : String × Json} (mem : f ∈ v.toFields) :
    Entries.find? f.1 (Entries.ofPairs v.toFields) = some f.2 :=
  Entries.findInPairs v.fieldsUnique mem

theorem readBack (first : v.record.firstSeen.Dated) (last : v.record.lastSeen.Dated)
    (least : Int64.minValue.toInt ≤ v.ageSeconds) (most : v.ageSeconds ≤ Int64.maxValue.toInt) :
    ofJson? v.toJson = some v := by
  have record : NodeRecord.ofFields? (fun name => Entries.find? name (Entries.ofPairs v.toFields)) =
      some v.record :=
    NodeRecord.fieldsRead first last fun f mem => findField (List.mem_append_left _ mem)
  have status : Entries.find? "status" (Entries.ofPairs v.toFields) = some v.status.toJson :=
    findField (f := ("status",v.status.toJson)) (by simp [toFields])
  have age : Entries.find? "age_seconds" (Entries.ofPairs v.toFields) = some (.int v.ageSeconds) :=
    findField (f := ("age_seconds",.int v.ageSeconds)) (by simp [toFields])
  change ofJson? (.obj (Entries.ofPairs v.toFields)) = some v
  simp only [ofJson?,record,status,age,bind,Option.bind,Status.read,Json.withinRead least most]

end NodeView

namespace NodeRecord

/-- What is written for a record is read as that record, and what is written for a view of it, at any
status and any age of 64 bits, is read as that view. Both are JSON values, and not texts: a long fraction
in the additional object may come out of `Json.render` and `Json.parse` as a number next to it. -/
theorem writtenReadBack (r : NodeRecord) (first : r.firstSeen.Dated) (last : r.lastSeen.Dated) :
    ofJson? r.toJson = some r ∧ ∀ (status : Status) (age : Int),
      Int64.minValue.toInt ≤ age → age ≤ Int64.maxValue.toInt →
        NodeView.ofJson? (NodeView.toJson ⟨r,status,age⟩) = some ⟨r,status,age⟩ :=
  ⟨readBack first last,fun _ _ least most => NodeView.readBack first last least most⟩

def lasting : NodeRecord where
  name := "sundial"
  type := "clock"
  key := ""
  host := none
  port := some 65535
  additional := some [("status",.str "offline")]
  firstSeen := .ofMillis (-8334601228800000)
  lastSeen := .ofMicros 8210266876799999999
  heartbeats := .ofNat (UInt64.size - 1)

theorem writtenReadBackLasting : lasting.firstSeen.Dated ∧ lasting.lastSeen.Dated ∧
    ofJson? lasting.toJson = some lasting ∧
      NodeView.ofJson? (NodeView.toJson ⟨lasting,.online,Int64.minValue.toInt⟩) =
        some ⟨lasting,.online,Int64.minValue.toInt⟩ := by
  have first : lasting.firstSeen.Dated := ⟨by decide,by decide,by decide⟩
  have last : lasting.lastSeen.Dated := ⟨by decide,by decide,by decide⟩
  obtain ⟨record,view⟩ := writtenReadBack lasting first last
  exact ⟨first,last,record,view .online Int64.minValue.toInt (by decide) (by decide)⟩

end NodeRecord
end Muster
