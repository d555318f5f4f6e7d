import Muster.Fault
import Muster.Settings.Codec
import Muster.Time.Rfc3339
/-! What the service says about itself in its log. Operations return their events as values, in
the order in which they happened. -/
namespace Muster

inductive Level where
  | error
  | warn
  | info
  | debug
  deriving DecidableEq, Repr

def Level.word : Level → String
  | .error => "ERROR"
  | .warn => "WARN"
  | .info => "INFO"
  | .debug => "DEBUG"

inductive Event where
  | nodeAdded (name key : String)
  | nodeUpdated (name key : String) (heartbeats : UInt64)
  | registered (name type key : String)
  | heartbeat (name type key : String)
  | heartbeatRejected (error : ValidationError)
  | listed (count : Nat)
  | discovered (query : String) (count : Nat)
  | notReady (missing : List String)
  | requirementRepeated (entry : String)
  | skipped (name key : String) (lastSeen : Instant)
  | wentOffline (name type key : String) (lastSeen : Instant)
  | backOnline (name type key : String)
  | swept (checked offline recovered ahead : Nat)
  | secretWithheld (name : String)
  | environmentLoaded (count : Nat) (clusterFile : Option String)
  | settingsLoaded (settings : ServerSettings)
  | registryLoaded (livenessSeconds : UInt64) (requiredNodes : List String)
  | storeOpened
  | unknownPath (path : String)
  | internalError (message : String)
  | starting
  | configurationInvalid (fault : Fault)
  | environmentInvalid (fault : Fault)
  | sweeperRunning (seconds : UInt64)
  | stopped

namespace Event

def level : Event → Level
  | internalError _ | configurationInvalid _ | environmentInvalid _ => .error
  | heartbeatRejected _ | requirementRepeated _ | skipped .. | secretWithheld _ | unknownPath _ => .warn
  | registered .. | wentOffline .. | backOnline .. | environmentLoaded .. | registryLoaded ..
  | starting | sweeperRunning _ | stopped => .info
  | nodeAdded .. | nodeUpdated .. | heartbeat .. | listed _ | discovered .. | notReady _ | swept ..
  | settingsLoaded _ | storeOpened => .debug

def source : Event → String
  | settingsLoaded _ => "cluster_leader::common::config"
  | environmentLoaded .. | secretWithheld _ => "cluster_leader::registry::environment"
  | requirementRepeated _ | discovered .. | notReady _ => "cluster_leader::registry::discovery"
  | registered .. | heartbeat .. | heartbeatRejected _ => "cluster_leader::registry::intake"
  | skipped .. | wentOffline .. | backOnline .. | swept .. => "cluster_leader::registry::sweeper"
  | nodeAdded .. | nodeUpdated .. => "cluster_leader::storage::memory::memory_node_store"
  | listed _ => "cluster_leader::rest::nodes"
  | unknownPath _ => "cluster_leader::rest::service"
  | internalError _ => "cluster_leader::rest::error"
  | registryLoaded .. | storeOpened => "cluster_leader::server::loader"
  | starting | configurationInvalid _ | environmentInvalid _ | sweeperRunning _ | stopped =>
      "cluster_leader::server::server"

def about (type key : String) : String := " (type: " ++ type ++ ", key: " ++ key ++ ")"

def message : Event → String
  | nodeAdded name key => "Added node " ++ name ++ " (" ++ key ++ ")"
  | nodeUpdated name key heartbeats =>
      "Updated node " ++ name ++ " (" ++ key ++ "), heartbeats: " ++ toString heartbeats
  | registered name type key => "New node registered: " ++ name ++ about type key
  | heartbeat name type key => "Heartbeat from " ++ name ++ about type key
  | heartbeatRejected error => "Rejected heartbeat: " ++ error.message
  | listed count => "Listing " ++ toString count ++ " node(s)"
  | discovered query count =>
      "Discovery query " ++ Text.quote query ++ " matched " ++ toString count ++ " node(s)"
  | notReady missing => "Cluster not ready, missing: " ++ Text.quoteList missing
  | requirementRepeated entry => "Ignoring repeated required node entry " ++ Text.quote entry
  | skipped name key lastSeen =>
      "Skipping node " ++ name ++ " (" ++ key ++ "): last_seen " ++ Rfc3339.spoken lastSeen ++
        " is ahead of the clock"
  | wentOffline name type key lastSeen =>
      "Node went offline: " ++ name ++ about type key ++ ", last seen " ++ Rfc3339.spoken lastSeen
  | backOnline name type key => "Node back online: " ++ name ++ about type key
  | swept checked offline recovered ahead =>
      "Sweep checked " ++ toString checked ++ " node(s): " ++ toString offline ++ " went offline, " ++
        toString recovered ++ " recovered, " ++ toString ahead ++ " skipped"
  | secretWithheld name =>
      "Not reporting environment variable " ++ name ++ ": looks like a secret"
  | environmentLoaded count clusterFile =>
      "Environment loaded: " ++ toString count ++ " variable(s), cluster config " ++
        clusterFile.getD "not set"
  | settingsLoaded settings => "Loaded server config: " ++ settings.describe
  | registryLoaded livenessSeconds requiredNodes =>
      "Liveness window " ++ toString livenessSeconds ++ "s, required nodes: " ++
        Text.quoteList requiredNodes
  | storeOpened => "Using in-memory node store"
  | unknownPath path => "404 for path: " ++ path
  | internalError message => message
  | starting => "Starting Leader API service..."
  | configurationInvalid fault => "Invalid configuration: " ++ fault.message
  | environmentInvalid fault => "Invalid environment: " ++ fault.message
  | sweeperRunning seconds => "Expiry sweeper running every " ++ toString seconds ++ "s"
  | stopped => "Leader API service stopped"

end Event
end Muster
