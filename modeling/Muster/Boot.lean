import Muster.Environment
import Muster.Event
import Muster.Registry.Basic
import Muster.Settings.Load
import Muster.Text.Basic
import Muster.Text.Pattern
import Muster.Variables
/-! Starting the service: from arguments, variables and files to a registry and an environment, or to the
fault that stops it; and which events it shows. A filter is written as directives between commas, each a
level, the name of a part of the service, or both around an equals sign, and behind a slash a pattern
that messages have to match. -/
namespace Muster

def Level.rank : Level → Nat
  | .error => 0
  | .warn => 1
  | .info => 2
  | .debug => 3

abbrev Verbosity := Option Level

namespace Verbosity

def shows (v : Verbosity) (level : Level) : Bool :=
  match v with
  | none => false
  | some least => level.rank ≤ least.rank

def full : Verbosity := some .debug

def ofWord? (word : String) : Option Verbosity :=
  match String.ofList (word.toList.map Char.toLower) with
  | "off" => some none
  | "error" => some (some .error)
  | "warn" => some (some .warn)
  | "info" => some (some .info)
  | "debug" | "trace" => some full
  | _ => none

end Verbosity

structure Directive where
  part : Option String
  verbosity : Verbosity
  deriving DecidableEq, Repr

namespace Directive

def read? (s : String) : Option Directive :=
  match Text.splitAt '=' s with
  | [word] =>
      match Verbosity.ofWord? word with
      | some verbosity => some ⟨none,verbosity⟩
      | none => some ⟨some word,.full⟩
  | [part,word] =>
      let word := Text.trim word
      if word.isEmpty then some ⟨some part,.full⟩
      else (Verbosity.ofWord? word).map fun verbosity => ⟨some part,verbosity⟩
  | _ => none

def covers (d : Directive) (source : String) : Bool :=
  match d.part with
  | none => true
  | some part => part.toList.isPrefixOf source.toList

def weight (d : Directive) : Nat := (d.part.getD "").utf8ByteSize

def replace (d : Directive) : List Directive → List Directive
  | [] => [d]
  | e :: rest => if e.part = d.part then d :: rest else e :: replace d rest

/- The directives of a text, those that say most at the end; those that cannot be read do not
count. Without any, errors are shown. -/
def readAll (s : String) : List Directive :=
  let words := ((Text.splitAt ',' s).map Text.trim).filter fun word => !word.isEmpty
  let found := (words.filterMap read?).foldl (fun list d => replace d list) []
  if found.isEmpty then [⟨none,some .error⟩]
  else found.mergeSort fun a b => a.weight ≤ b.weight

end Directive

structure LogFilter where
  directives : List Directive
  pattern : Option Text.Pattern

namespace LogFilter

/- A pattern that cannot be read does not count, and nothing does behind a second slash. -/
def read (s : String) : LogFilter :=
  match Text.splitAt '/' s with
  | [directives] => ⟨Directive.readAll directives,none⟩
  | [directives,pattern] => ⟨Directive.readAll directives,Text.Pattern.read? pattern⟩
  | _ => ⟨Directive.readAll "",none⟩

def ofVariable (value : Option String) : LogFilter := read (value.getD "info")

def verbosity (f : LogFilter) (source : String) : Verbosity :=
  match f.directives.reverse.find? (·.covers source) with
  | some d => d.verbosity
  | none => none

def shows (f : LogFilter) (e : Event) : Bool :=
  (f.verbosity e.source).shows e.level && f.pattern.all (·.isIn e.message)

end LogFilter

structure Launch where
  arguments : List String
  process : Variables
  files : Settings.Files

inductive Stop where
  | settings (fault : SettingsFault)
  | fault (fault : Fault)
  | addressInUse

def Stop.message : Stop → String
  | .settings cause => cause.message
  | .fault cause => cause.message
  | .addressInUse => "Address already in use (os error 98)"

structure Started where
  settings : ServerSettings
  registry : Registry
  environment : Environment

namespace Launch

def settingsPath : List String → Option String
  | flag :: path :: rest => if flag = "--config" then some path else settingsPath (path :: rest)
  | _ => none

def environment (l : Launch) : Variables :=
  match l.files.text? ".env" with
  | some text => VariableFile.load l.process text
  | none => l.process

def logFilter (l : Launch) : LogFilter := .ofVariable (l.environment.get? "RUST_LOG")

def start (l : Launch) : Except Stop Started × List Event :=
  let vars := l.environment
  let loaded := Settings.load l.files (settingsPath l.arguments) vars.pairs
  let began := .starting :: Settings.events loaded
  match loaded with
  | .error fault => (.error (.settings fault),began)
  | .ok settings =>
      match Registry.load settings with
      | (.error fault,events) =>
          let fault := .configuration fault
          (.error (.fault fault),began ++ events ++ [.configurationInvalid fault])
      | (.ok registry,events) =>
          let began := began ++ events
          match Environment.load settings.environment l.files vars.get? with
          | (.error fault,events) =>
              let fault := .configuration fault
              (.error (.fault fault),began ++ events ++ [.environmentInvalid fault])
          | (.ok environment,events) =>
              (.ok ⟨settings,registry,environment⟩,
                began ++ events ++ [.sweeperRunning settings.sweepSeconds])

def startOccupied (l : Launch) : Stop × List Event :=
  match l.start with
  | (.error stop,events) => (stop,events)
  | (.ok _,events) => (.addressInUse,events ++ [.stopped])

end Launch
end Muster
