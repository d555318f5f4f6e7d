import Muster.Decimal
import Muster.Event
import Muster.Fault
import Muster.Settings.Codec
import Muster.Settings.Files
import Muster.Settings.Tree
import Muster.Text.Basic
/-! Loading the settings: the standard ones, a file over them, the variables over the file. Single values
are taken leniently, since files and variables do not agree on their kinds; a fault is reported with the
path of its key. -/
namespace Muster.Settings

abbrev Decoded (α : Type) := Except SettingsFault α

def text (key : String) : Json → Decoded String
  | .str value => .ok value
  | .bool value => .ok (if value then "true" else "false")
  | .num (.whole value) => .ok (toString value)
  | .num (.real value) => .ok (Decimal.Style.plain.write value)
  | _ => .error (.wrongType key)

def switch? (s : String) : Option UInt64 :=
  let word := Text.lower s
  if word = "true" || word = "on" || word = "yes" then some 1
  else if word = "false" || word = "off" || word = "no" then some 0
  else none

def count (key : String) : Json → Decoded UInt64
  | .num (.whole value) =>
      if 0 ≤ value && value < UInt64.size then .ok (.ofNat value.toNat) else .error (.wrongType key)
  | .num (.real value) => .ok value.round.toUInt64
  | .bool value => .ok (if value then 1 else 0)
  | .str value =>
      match switch? value with
      | some n => .ok n
      | none =>
          match Decimal.whole? 0 (UInt64.size - 1) value with
          | some n => .ok (.ofNat n.toNat)
          | none => .error (.wrongType key)
  | _ => .error (.wrongType key)

def port (key : String) (value : Json) : Decoded UInt16 := do
  let n ← count key value
  if n < 65536 then .ok n.toUInt16 else .error (.wrongType key)

def place (key : String) (index : Nat) : String := key ++ "[" ++ toString index ++ "]"

def textsFrom (key : String) (index : Nat) : List Json → Decoded (List String)
  | [] => .ok []
  | value :: rest => do
      let first ← text (place key index) value
      let others ← textsFrom key (index + 1) rest
      .ok (first :: others)

def texts (key : String) : Json → Decoded (List String)
  | .arr items => textsFrom key 0 items
  | _ => .error (.wrongShape key)

def path (key : String) : Json → Decoded (Option String)
  | .null => .ok none
  | value => (text key value).map some

def orElse {α : Type} (standard : α) (decode : Json → Decoded α) : Option Json → Decoded α
  | none => .ok standard
  | some value => decode value

def environment (key : String) : Json → Decoded EnvironmentSettings
  | .obj fields => do
      let field (name : String) := Entries.find? name fields
      let clusterFile ← orElse none (path (key ++ ".cluster_config_path")) (field "cluster_config_path")
      let requiredVars ← orElse [] (texts (key ++ ".required_vars")) (field "required_vars")
      let optionalVars ← orElse [] (texts (key ++ ".optional_vars")) (field "optional_vars")
      .ok ⟨clusterFile,requiredVars,optionalVars⟩
  | .arr items => do
      let clusterFile ← orElse none (path (place key 0)) items[0]?
      let requiredVars ← orElse [] (texts (place key 1)) items[1]?
      let optionalVars ← orElse [] (texts (place key 2)) items[2]?
      .ok ⟨clusterFile,requiredVars,optionalVars⟩
  | _ => .error (.wrongShape key)

def decode (tree : Json) : Decoded ServerSettings := do
  let standard := ServerSettings.standard
  let host ← orElse standard.host (text "host") (tree.field? "host")
  let port ← orElse standard.port (port "port") (tree.field? "port")
  let livenessSeconds ←
    orElse standard.livenessSeconds (count "liveness_window_secs") (tree.field? "liveness_window_secs")
  let sweepSeconds ←
    orElse standard.sweepSeconds (count "sweep_interval_secs") (tree.field? "sweep_interval_secs")
  let requiredNodes ← orElse standard.requiredNodes (texts "required_nodes") (tree.field? "required_nodes")
  let environment ← orElse standard.environment (environment "environment") (tree.field? "environment")
  .ok ⟨host,port,livenessSeconds,sweepSeconds,requiredNodes,environment⟩

def standardPath : String := "config/leader"

def fileFields (files : Files) : Option String → Except SettingsFault (List (String × Json))
  | some path => fileLayer files path
  | none => optionalLayer files standardPath

def tree (file : List (String × Json)) (vars : List (String × String)) : Json :=
  layer (layer (.obj []) file) (variableLayer vars)

def load (files : Files) (path : Option String) (vars : List (String × String)) :
    Except SettingsFault ServerSettings := do
  let file ← fileFields files path
  decode (tree file vars)

def events : Except SettingsFault ServerSettings → List Event
  | .ok settings => [.settingsLoaded settings]
  | .error _ => []

end Muster.Settings
