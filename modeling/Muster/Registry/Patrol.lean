import Muster.Registry.Basic
/-! The sweeper watches the registry for nodes that cross the window. It never writes to the store: it
remembers the status it last saw under each key and reports the changes. A patrol is a sweeper at regular
times, counted in milliseconds from some start; the first sweep is due as soon as time is let pass, each
further one an interval after the one before. -/
namespace Muster

structure SweepCounters where
  sweeps : UInt64
  offlineTransitions : UInt64
  recoveries : UInt64
  skipped : UInt64
  deriving DecidableEq, Repr

def SweepCounters.zero : SweepCounters := ⟨0,0,0,0⟩

def SweepCounters.toJson (c : SweepCounters) : Json :=
  .obj [("offline_transitions",.nat c.offlineTransitions.toNat),
    ("recoveries",.nat c.recoveries.toNat),
    ("skipped",.nat c.skipped.toNat),
    ("sweeps",.nat c.sweeps.toNat)]

structure SweepReport where
  checked : Nat
  wentOffline : List String
  recovered : List String
  skipped : List String
  deriving DecidableEq, Repr

inductive Sighting where
  | steady
  | wentOffline
  | recovered
  | skipped
  deriving DecidableEq, Repr

/- A record ahead of the clock is skipped. A node is reported when it is offline and was not seen
so before, and when it is online and was last seen offline. -/
def Sighting.of (previous : Option Status) (status : Option Status) : Sighting :=
  match status, previous with
  | none, _ => .skipped
  | some .offline, some .offline => .steady
  | some .offline, _ => .wentOffline
  | some .online, some .offline => .recovered
  | some .online, _ => .steady

def Sighting.events (r : NodeRecord) : Sighting → List Event
  | .steady => []
  | .wentOffline => [.wentOffline r.name r.type r.key r.lastSeen]
  | .recovered => [.backOnline r.name r.type r.key]
  | .skipped => [.skipped r.name r.key r.lastSeen]

structure Sweeper where
  memory : Table Status
  counters : SweepCounters

namespace Sweeper

def new : Sweeper := ⟨.empty,.zero⟩

def observe (window : LivenessWindow) (now : Instant) (r : NodeRecord) : Option Status :=
  if now < r.lastSeen then none else some (window.statusAt r.lastSeen now)

def remember (memory : Table Status) (key : String) : Option Status → Table Status
  | none => memory
  | some status => memory.insert key status

def pass (window : LivenessWindow) (now : Instant) (memory : Table Status) :
    List NodeRecord → List (NodeRecord × Sighting) × Table Status
  | [] => ([],memory)
  | r :: rest =>
      let status := observe window now r
      let sighting := Sighting.of (memory.get? r.key) status
      let (sightings,memory) := pass window now (remember memory r.key status) rest
      ((r,sighting) :: sightings,memory)

def keysOf (sighting : Sighting) (sightings : List (NodeRecord × Sighting)) : List String :=
  (sightings.filter fun (_,s) => s = sighting).map fun (r,_) => r.key

def report (sightings : List (NodeRecord × Sighting)) : SweepReport :=
  ⟨sightings.length,keysOf .wentOffline sightings,keysOf .recovered sightings,
    keysOf .skipped sightings⟩

def count (c : SweepCounters) (r : SweepReport) : SweepCounters :=
  ⟨c.sweeps + 1,c.offlineTransitions + .ofNat r.wentOffline.length,
    c.recoveries + .ofNat r.recovered.length,c.skipped + .ofNat r.skipped.length⟩

def sweepRecords (s : Sweeper) (window : LivenessWindow) (now : Instant)
    (records : List NodeRecord) : SweepReport × Sweeper × List Event :=
  let (sightings,memory) := pass window now s.memory records
  let outcome := report sightings
  let events := sightings.flatMap fun (r,sighting) => sighting.events r
  (outcome,⟨memory,count s.counters outcome⟩,
    events ++ [.swept outcome.checked outcome.wentOffline.length outcome.recovered.length
      outcome.skipped.length])

def sweep (s : Sweeper) (reg : Registry) (now : Instant) : SweepReport × Sweeper × List Event :=
  s.sweepRecords reg.window now reg.store.records

end Sweeper

/- What a patrol waits for: to be given control at all, or the time of its next sweep. A patrol
that could not begin never sweeps. -/
inductive Patrol.Phase where
  | fresh
  | due (time : Nat)
  | failed
  deriving DecidableEq, Repr

structure Patrol where
  sweeper : Sweeper
  interval : Nat
  phase : Patrol.Phase

namespace Patrol

def start (sweeper : Sweeper) (interval : Nat) : Patrol := ⟨sweeper,interval,.fresh⟩

def sweeps (reg : Registry) (now : Instant) : Nat → Sweeper → Sweeper × List Event
  | 0, s => (s,[])
  | n + 1, s =>
      let (_,s,events) := s.sweep reg now
      let (s,later) := sweeps reg now n s
      (s,events ++ later)

def dueUntil (due last interval : Nat) : Nat := if due ≤ last then (last - due) / interval + 1 else 0

def next (p : Patrol) (time : Nat) : Option Nat :=
  match p.phase with
  | .fresh => if p.interval = 0 then none else some time
  | .due next => some next
  | .failed => none

def run (p : Patrol) (reg : Registry) (now : Instant) (time last : Nat) : Patrol × List Event :=
  match p.next time with
  | none => ({ p with phase := .failed },[])
  | some due =>
      let count := dueUntil due last p.interval
      let (sweeper,events) := sweeps reg now count p.sweeper
      ({ p with sweeper := sweeper,phase := .due (due + count * p.interval) },events)

def yield (p : Patrol) (reg : Registry) (now : Instant) (time : Nat) : Patrol × List Event :=
  p.run reg now time time

/- Lets time pass; a sweep due at `finish` itself is left for later. No time gives no control. -/
def pass (p : Patrol) (reg : Registry) (now : Instant) (start finish : Nat) : Patrol × List Event :=
  if finish ≤ start then (p,[]) else p.run reg now start (finish - 1)

def canStop (p : Patrol) : Bool := p.phase != .failed

end Patrol
end Muster
