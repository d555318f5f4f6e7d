import Std.Time.DateTime.Timestamp
import Muster.Boot
import Muster.Http.Service
import Muster.Registry.Patrol
/-! The command line. It starts the service from the arguments and from the variables and files at
hand, and then answers requests from standard input, one a line: the method, the path, and the body
where there is one, with blanks between them. -/
namespace Muster.CommandLine

def ownVariables : List String :=
  ["LEADER__HOST","LEADER__PORT","LEADER__LIVENESS_WINDOW_SECS","LEADER__SWEEP_INTERVAL_SECS",
    "LEADER__REQUIRED_NODES","LEADER__ENVIRONMENT__CLUSTER_CONFIG_PATH",
    "LEADER__ENVIRONMENT__REQUIRED_VARS","LEADER__ENVIRONMENT__OPTIONAL_VARS","RUST_LOG"]

def readVariables (found : Table String) (names : List String) : IO (Table String) :=
  names.foldlM (fun found name => do
    match ← IO.getEnv name with
    | some value => pure (found.insert name value)
    | none => pure found) found

def readText? (path : String) : IO (Option String) := do
  try return some (← IO.FS.readFile path) catch _ => return none

def readFiles (found : List (String × String)) (paths : List String) : IO (List (String × String)) :=
  paths.foldlM (fun found path => do
    match ← readText? path with
    | some text => pure (found ++ [(path,text)])
    | none => pure found) found

def filesOf (found : List (String × String)) : Settings.Files :=
  ⟨fun path => (found.find? (·.1 = path)).map (·.2),fun fault => some fault.message⟩

def prepare (arguments : List String) : IO Launch := do
  let path := Launch.settingsPath arguments
  let found ← readFiles [] (".env" :: Settings.candidates (path.getD Settings.standardPath))
  let process ← readVariables .empty ownVariables
  let first : Launch := ⟨arguments,.ofTable process,filesOf found⟩
  match Settings.load first.files path first.environment.pairs with
  | .error _ => return first
  | .ok settings =>
      let wanted := settings.environment
      let process ← readVariables process (wanted.requiredVars ++ wanted.optionalVars)
      let found ← readFiles found ((wanted.clusterFile.map Settings.candidates).getD [])
      return ⟨arguments,.ofTable process,filesOf found⟩

def clockMillis : IO Int := return (← Std.Time.Timestamp.now).toMillisecondsSinceUnixEpoch.val

def newInstanceId : IO String := do
  let bytes ← IO.getRandomBytes 16
  let marked := bytes.toList.zipIdx.map fun (b,i) =>
    if i = 6 then b &&& 0x0F ||| 0x40 else if i = 8 then b &&& 0x3F ||| 0x80 else b
  let written := marked.zipIdx.map fun (b,i) =>
    (if i ∈ [4,6,8,10] then ['-'] else []) ++
      [Text.hexDigit (b.toNat / 16),Text.hexDigit (b.toNat % 16)]
  return String.ofList written.flatten

def log (filter : LogFilter) (events : List Event) : IO Unit := do
  for event in events do
    if filter.shows event then
      IO.eprintln ("[" ++ event.level.word ++ "] " ++ event.message)

def readRequest (line : String) : Http.Request :=
  let word (cs : List Char) : List Char := cs.takeWhile fun c => !Text.isBlank c
  let cs := Text.trimStart line.toList
  let method := word cs
  let rest := Text.trimStart (cs.drop method.length)
  let target := word rest
  let body := Text.trim (String.ofList (rest.drop target.length))
  ⟨String.ofList method,String.ofList target,some "application/json",body.toUTF8⟩

structure Running where
  service : Http.Service
  registry : Registry
  patrol : Patrol
  time : Int

def Running.answer (r : Running) (millis : Int) (line : String) : Http.Response × Running × List Event :=
  let now := Instant.ofMillis millis
  let (patrol,swept) := r.patrol.pass r.registry now r.time.toNat millis.toNat
  let service := { r.service with sweeps := patrol.sweeper.counters }
  let served := service.serve r.registry now (readRequest line)
  (served.response,⟨service,served.registry,patrol,millis⟩,swept ++ served.events)

partial def serve (filter : LogFilter) (running : Running) : IO Unit := do
  let line ← (← IO.getStdin).getLine
  if !line.isEmpty then
    let (response,running,events) := running.answer (← clockMillis) line
    log filter events
    IO.println (toString response.status ++ " " ++ response.text)
    serve filter running

def run (arguments : List String) : IO UInt32 := do
  let launch ← prepare arguments
  let (started,events) := launch.start
  log launch.logFilter events
  match started with
  | .error stop =>
      IO.eprintln ("Error: " ++ stop.message)
      return 1
  | .ok started =>
      let millis ← clockMillis
      let service : Http.Service :=
        ⟨started.environment,← newInstanceId,.ofMillis millis,.zero⟩
      let patrol := Patrol.start .new (started.settings.sweepSeconds.toNat * 1000)
      serve launch.logFilter ⟨service,started.registry,patrol,millis⟩
      log launch.logFilter [.stopped]
      return 0

end Muster.CommandLine

def main (arguments : List String) : IO UInt32 := Muster.CommandLine.run arguments
