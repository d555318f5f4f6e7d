import Muster.Node
import Muster.Text.Basic
/-! The settings of the service, as the log shows them, and as JSON. Reading is strict in the kinds of its
values; settings that are left out are the standard ones. -/
namespace Muster

structure EnvironmentSettings where
  clusterFile : Option String
  requiredVars : List String
  optionalVars : List String
  deriving DecidableEq

structure ServerSettings where
  host : String
  port : UInt16
  livenessSeconds : UInt64
  sweepSeconds : UInt64
  requiredNodes : List String
  environment : EnvironmentSettings
  deriving DecidableEq

def EnvironmentSettings.standard : EnvironmentSettings := ⟨none,[],[]⟩

def ServerSettings.standard : ServerSettings := ⟨"0.0.0.0",8000,30,5,[],.standard⟩

def ServerSettings.address (s : ServerSettings) : String := s.host ++ ":" ++ toString s.port

def EnvironmentSettings.describe (e : EnvironmentSettings) : String :=
  let file := match e.clusterFile with
    | none => "None"
    | some path => "Some(" ++ Text.quote path ++ ")"
  "EnvironmentConfig \x7b cluster_config_path: " ++ file ++
    ", required_vars: " ++ Text.quoteList e.requiredVars ++
    ", optional_vars: " ++ Text.quoteList e.optionalVars ++ " \x7d"

def ServerSettings.describe (s : ServerSettings) : String :=
  "ServerConfig \x7b host: " ++ Text.quote s.host ++ ", port: " ++ toString s.port ++
    ", liveness_window_secs: " ++ toString s.livenessSeconds ++
    ", sweep_interval_secs: " ++ toString s.sweepSeconds ++
    ", required_nodes: " ++ Text.quoteList s.requiredNodes ++
    ", environment: " ++ s.environment.describe ++ " \x7d"

/- The fields of a structure by name. An object may hold more; a list holds the first ones. -/
def Json.leading? (names : List String) : Json → Option (String → Option Json)
  | .obj fields => some fun name => Entries.find? name fields
  | .arr items =>
      if items.length ≤ names.length then some fun name => Entries.find? name (names.zip items) else none
  | _ => none

def Json.texts? : Json → Option (List String)
  | .arr items => items.mapM Json.str?
  | _ => none

def Json.given? {α : Type} (standard : α) (decode : Json → Option α) : Option Json → Option α
  | none => some standard
  | some value => decode value

def EnvironmentSettings.fieldNames : List String := ["cluster_config_path","required_vars","optional_vars"]

def EnvironmentSettings.ofJson? (value : Json) : Option EnvironmentSettings := do
  let field ← value.leading? fieldNames
  let clusterFile ← Json.optional? Json.str? (field "cluster_config_path")
  let requiredVars ← Json.given? [] Json.texts? (field "required_vars")
  let optionalVars ← Json.given? [] Json.texts? (field "optional_vars")
  some ⟨clusterFile,requiredVars,optionalVars⟩

def EnvironmentSettings.toJson (e : EnvironmentSettings) : Json :=
  .obj [("cluster_config_path",Json.ofOption .str e.clusterFile),
    ("optional_vars",.strings e.optionalVars),
    ("required_vars",.strings e.requiredVars)]

def ServerSettings.fieldNames : List String :=
  ["host","port","liveness_window_secs","sweep_interval_secs","required_nodes","environment"]

def ServerSettings.ofJson? (value : Json) : Option ServerSettings := do
  let standard := ServerSettings.standard
  let field ← value.leading? fieldNames
  let host ← Json.given? standard.host Json.str? (field "host")
  let port ← Json.given? standard.port Json.port? (field "port")
  let livenessSeconds ← Json.given? standard.livenessSeconds Json.count? (field "liveness_window_secs")
  let sweepSeconds ← Json.given? standard.sweepSeconds Json.count? (field "sweep_interval_secs")
  let requiredNodes ← Json.given? standard.requiredNodes Json.texts? (field "required_nodes")
  let environment ← Json.given? standard.environment EnvironmentSettings.ofJson? (field "environment")
  some ⟨host,port,livenessSeconds,sweepSeconds,requiredNodes,environment⟩

end Muster
