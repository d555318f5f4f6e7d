import Muster.Environment
import Muster.Http.Message
import Muster.Registry.Patrol
import Muster.Registry.Queries
/-! The service: which paths it knows, and how it answers a request. Answers are read off the
registry at the time of the request; only an accepted heartbeat changes it. -/
namespace Muster.Http

inductive Endpoint where
  | root
  | health
  | imalive
  | list
  | discover
  | lookup
  | getenv
  | clusterinfo
  | stats
  | ready
  | nodes
  deriving DecidableEq, Repr

namespace Endpoint

def ofPath? (path : String) : Option Endpoint :=
  match path with
  | "/" => some root
  | "/health" => some health
  | "/v1/imalive" => some imalive
  | "/v1/list" => some list
  | "/v1/discover" => some discover
  | "/v1/lookup" => some lookup
  | "/v1/getenv" => some getenv
  | "/v1/clusterinfo" => some clusterinfo
  | "/v1/stats" => some stats
  | "/api/cluster/ready" => some ready
  | "/api/cluster/nodes" => some nodes
  | _ => none

def posted : Endpoint → Bool
  | imalive | discover | lookup => true
  | _ => false

def methods (e : Endpoint) : List String := if e.posted then ["POST"] else ["GET","HEAD"]

def allow (e : Endpoint) : String × String := ("allow",",".intercalate e.methods)

end Endpoint

structure Service where
  environment : Environment
  instanceId : String
  startedAt : Instant
  sweeps : SweepCounters

structure Served where
  response : Response
  registry : Registry
  events : List Event

def views (vs : List NodeView) : Json := .arr (vs.map NodeView.toJson)

def queryOf (body : Json) : Except ValidationError String :=
  match body.field? "query" with
  | some (.str query) => .ok query
  | some _ => .error (.single "query" .notText)
  | none => .error (.single "query" .missing)

def keysOf (body : Json) : Except ValidationError (List String) :=
  match body.field? "instance_keys" with
  | some (.arr items) =>
      match items.mapM Json.str? with
      | some keys => .ok keys
      | none => .error (.single "instance_keys" .notTexts)
  | some _ => .error (.single "instance_keys" .notList)
  | none => .error (.single "instance_keys" .missing)

def Request.read {α : Type} (r : Request) (decode : Json → Except ValidationError α) :
    Except ValidationError α :=
  match r.json with
  | .ok body => decode body
  | .error rejection => .error (.single "body" (.rejected rejection))

def readyLabel (r : Readiness) : Json := .str (if r.ready then "ready" else "not_ready")

namespace Service

def answer (reg : Registry) (body : Json) (events : List Event) : Served := ⟨.json 200 body,reg,events⟩

def refuse (reg : Registry) (error : ValidationError) (events : List Event) : Served :=
  ⟨ofFault (.validation error),reg,events⟩

def imalive (reg : Registry) (now : Instant) (r : Request) : Served :=
  match r.read .ok with
  | .error e => refuse reg e []
  | .ok body =>
      match reg.announceJson now body with
      | (.error e,reg,events) => refuse reg e events
      | (.ok view,reg,events) =>
          answer reg (.obj [("node",view.toJson),("status",.str "received")]) events

def discover (reg : Registry) (now : Instant) (r : Request) : Served :=
  match r.read queryOf with
  | .error e => refuse reg e []
  | .ok query =>
      let results := reg.discover now query
      answer reg (.obj [("query",.str query),("results",views results),
        ("timestamp",.str (Rfc3339.withOffset now)),("total_count",.nat results.length)])
        [.discovered query results.length]

def lookup (reg : Registry) (now : Instant) (r : Request) : Served :=
  match r.read keysOf with
  | .error e => refuse reg e []
  | .ok keys =>
      let results := reg.lookup now keys
      answer reg (.obj [("results",views results),("timestamp",.str (Rfc3339.withOffset now)),
        ("total_count",.nat results.length)]) []

def handle (s : Service) (reg : Registry) (now : Instant) (r : Request) : Endpoint → Served
  | .root =>
      answer reg (.obj [("message",.str "Leader API - Service Discovery and Health Monitoring"),
        ("status",.str "healthy"),("version",.str Environment.version)]) []
  | .health =>
      answer reg (.obj [("instance_id",.str s.instanceId),("status",.str "healthy"),
        ("timestamp",.str (Rfc3339.withOffset now)),
        ("uptime_seconds",.int (s.startedAt.elapsedSeconds now))]) []
  | .imalive => imalive reg now r
  | .list =>
      let services := reg.list now
      answer reg (.obj [("services",views services),("timestamp",.str (Rfc3339.withOffset now)),
        ("total_count",.nat services.length)]) [.listed services.length]
  | .discover => discover reg now r
  | .lookup => lookup reg now r
  | .getenv => answer reg (s.environment.report now) []
  | .clusterinfo =>
      let readiness := reg.readiness now
      answer reg readiness.toJson readiness.events
  | .stats =>
      answer reg (.obj [("liveness_window_secs",.int reg.window.seconds),
        ("registry",(reg.statistics now).toJson),("sweeper",s.sweeps.toJson)]) []
  | .ready =>
      let readiness := reg.readiness now
      answer reg (.obj [("status",readyLabel readiness)]) readiness.events
  | .nodes =>
      let readiness := reg.readiness now
      answer reg (.obj [("data",.obj [
          ("nodes_summary",.object (readiness.summary.map fun (t,p) => (t,.str p.label))),
          ("required_nodes",.strings readiness.required)]),
        ("status",readyLabel readiness)]) readiness.events

def unknown (reg : Registry) (path : String) : Served :=
  ⟨ofFault (.notFound ("Resource not found: " ++ path)),reg,[.unknownPath path]⟩

def route (s : Service) (reg : Registry) (now : Instant) (r : Request) : Served :=
  match Endpoint.ofPath? r.path with
  | none => unknown reg r.path
  | some e =>
      if r.method ∈ e.methods then s.handle reg now r e
      else ⟨.empty 405 [e.allow],reg,[]⟩

def shared : List (String × String) :=
  [("access-control-allow-origin","*"),
    ("vary","origin, access-control-request-method, access-control-request-headers")]

def preflight (path : String) : Response :=
  .empty 200 ([("access-control-allow-methods","*"),("access-control-allow-headers","*")] ++
    match Endpoint.ofPath? path with
    | some e => [e.allow]
    | none => [])

def serve (s : Service) (reg : Registry) (now : Instant) (r : Request) : Served :=
  if r.method = "OPTIONS" then ⟨(preflight r.path).withHeaders shared,reg,[]⟩
  else
    let served := s.route reg now r
    let response := if r.method = "HEAD" then served.response.withoutBody else served.response
    { served with response := response.withHeaders shared }

end Service
end Muster.Http
