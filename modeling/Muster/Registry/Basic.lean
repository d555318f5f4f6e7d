import Muster.Announcement
import Muster.Node
import Muster.Requirement
import Muster.Store
/-! The membership registry: the store, the window in which a node counts as online, and the required
nodes, as the settings ask for them. Heartbeats come in here; the clock is read by the caller. -/
namespace Muster

structure Registry where
  store : Store
  window : LivenessWindow
  requirements : List Requirement

namespace Registry

def views (reg : Registry) (now : Instant) (records : List NodeRecord) : List NodeView :=
  records.map (reg.window.view now)

structure Written where
  view : NodeView
  registry : Registry
  events : List Event

def announce (reg : Registry) (now : Instant) (a : Announcement) : Written :=
  let record := a.toRecord now
  let stored := reg.store.merged record
  { view := reg.window.view now stored
    registry := { reg with store := reg.store.upsert record }
    events :=
      [reg.store.upsertEvent record,
       if stored.heartbeats = 1 then .registered stored.name stored.type stored.key
       else .heartbeat stored.name stored.type stored.key] }

def announceJson (reg : Registry) (now : Instant) (body : Json) :
    Except ValidationError NodeView × Registry × List Event :=
  match Announcement.ofJson body with
  | .error e => (.error e,reg,[.heartbeatRejected e])
  | .ok a =>
      let written := reg.announce now a
      (.ok written.view,written.registry,written.events)

end Registry

def ServerSettings.validate (s : ServerSettings) : Except ConfigurationFault Unit :=
  if s.livenessSeconds = 0 then .error .livenessZero
  else if s.sweepSeconds = 0 then .error .sweepZero
  else if s.livenessSeconds ≤ s.sweepSeconds then .error (.sweepNotShorter s.sweepSeconds s.livenessSeconds)
  else .ok ()

/- An empty registry. Of several faults the one of the timing is reported first, then the one of
the window, then the one of the first bad requirement. -/
def Registry.load (s : ServerSettings) : Except ConfigurationFault Registry × List Event :=
  match s.validate, LivenessWindow.ofSeconds s.livenessSeconds.toNat with
  | .error fault, _ => (.error fault,[])
  | .ok _, .error fault => (.error fault,[])
  | .ok _, .ok window =>
      let (requirements,events) := Requirement.parseAll s.requiredNodes
      match requirements with
      | .error fault => (.error fault,events)
      | .ok requirements =>
          (.ok ⟨.empty,window,requirements⟩,
            events ++ [.registryLoaded s.livenessSeconds s.requiredNodes,.storeOpened])

end Muster
