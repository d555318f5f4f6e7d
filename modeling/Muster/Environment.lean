import Muster.Event
import Muster.Settings.Files
import Muster.Settings.Tree
/-! What the service reports about its surroundings: the wiring file, and those of the listed
variables that are set and whose names do not look secret. -/
namespace Muster

structure Environment where
  wiring : Json
  reported : Table String

namespace Environment

def secretMarks : List String := ["PASSWORD","SECRET","TOKEN","CREDENTIAL","PRIVATE"]

def looksSecret (name : String) : Bool :=
  let upper := String.ofList (name.toList.map Char.toUpper)
  secretMarks.any (Text.contains upper)

def missing (lookup : String → Option String) (names : List String) : List String :=
  names.filter fun name => (lookup name).isNone

def collect (lookup : String → Option String) (names : List String) : Table String :=
  names.foldl (fun found name =>
    if looksSecret name then found
    else match lookup name with
      | some value => found.insert name value
      | none => found) .empty

def withheld (names : List String) : List Event :=
  (names.filter looksSecret).map .secretWithheld

def wiringFile (files : Settings.Files) : Option String → Except ConfigurationFault Json
  | none => .ok (.obj [])
  | some path =>
      match Settings.fileLayer files path with
      | .ok fields => .ok (Settings.layer (.obj []) fields)
      | .error fault => .error (.clusterFile path (files.words fault))

def load (settings : EnvironmentSettings) (files : Settings.Files) (lookup : String → Option String) :
    Except ConfigurationFault Environment × List Event :=
  match wiringFile files settings.clusterFile with
  | .error fault => (.error fault,[])
  | .ok wiring =>
      match missing lookup settings.requiredVars with
      | [] =>
          let names := settings.requiredVars ++ settings.optionalVars
          let reported := collect lookup names
          (.ok ⟨wiring,reported⟩,
            withheld names ++ [.environmentLoaded reported.size settings.clusterFile])
      | names => (.error (.missingVariables names),[])

def version : String := "0.1.0"

def report (e : Environment) (now : Instant) : Json :=
  .obj [("cfg",e.wiring),("core",.str version),("env",Json.ofTable .str e.reported),
    ("timestamp",.str (Rfc3339.withOffset now))]

end Environment
end Muster
