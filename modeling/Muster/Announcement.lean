import Muster.Fault
import Muster.Node
import Muster.Text.Basic
/-! A heartbeat as a node sends it. All fields are checked before anything is refused, so that a
rejection names every bad field. -/
namespace Muster

structure Announcement where
  name : String
  type : String
  key : String
  host : Option String
  port : Option UInt16
  additional : Option Additional

namespace Announcement

def requiredText : Option Json → Except Problem String
  | none | some .null => .error .missing
  | some (.str s) =>
      match Text.nonBlank? s with
      | some value => .ok value
      | none => .error .missing
  | some _ => .error .notText

def optionalText : Option Json → Except Problem (Option String)
  | none | some .null => .ok none
  | some (.str s) => .ok (Text.nonBlank? s)
  | some _ => .error .notText

def optionalPort : Option Json → Except Problem (Option UInt16)
  | none | some .null => .ok none
  | some value =>
      match value.port? with
      | some port => .ok (some port)
      | none => .error .notPort

def optionalObject : Option Json → Except Problem (Option Additional)
  | none | some .null => .ok none
  | some (.obj fields) => .ok (some fields)
  | some _ => .error .notObject

def problemOf {α : Type} (field : String) : Except Problem α → List FieldProblem
  | .ok _ => []
  | .error problem => [⟨field,problem⟩]

def ofJson (body : Json) : Except ValidationError Announcement :=
  match body with
  | .obj fields =>
      let name := requiredText (Entries.find? "node_name" fields)
      let type := requiredText (Entries.find? "node_type" fields)
      let key := requiredText (Entries.find? "instance_key" fields)
      let host := optionalText (Entries.find? "host" fields)
      let port := optionalPort (Entries.find? "port" fields)
      let additional := optionalObject (Entries.find? "additional" fields)
      match name, type, key, host, port, additional with
      | .ok name, .ok type, .ok key, .ok host, .ok port, .ok additional =>
          .ok ⟨name,type,key,host,port,additional⟩
      | _, _, _, _, _, _ =>
          .error ⟨problemOf "node_name" name ++ problemOf "node_type" type ++
            problemOf "instance_key" key ++ problemOf "host" host ++ problemOf "port" port ++
            problemOf "additional" additional⟩
  | _ => .error (.single "body" .notObject)

def toJson (a : Announcement) : Json :=
  .obj [("additional",Json.ofOption .obj a.additional),
    ("host",Json.ofOption .str a.host),
    ("instance_key",.str a.key),
    ("node_name",.str a.name),
    ("node_type",.str a.type),
    ("port",Json.ofOption (fun port => .nat port.toNat) a.port)]

def toRecord (a : Announcement) (now : Instant) : NodeRecord where
  name := a.name
  type := a.type
  key := a.key
  host := a.host
  port := a.port
  additional := a.additional
  firstSeen := now
  lastSeen := now
  heartbeats := 1

end Announcement
end Muster
