import Muster.Http.Service
import Muster.Proofs.Run
/-! Requests that come in one after the other while the clock is moved. Of all that a service is
asked, only a heartbeat that is taken leaves a trace in the registry, so that any other request may
be left out without a difference to the answers that remain. -/
namespace Muster.Http

/- The heartbeat of a request: what its body says, if it is posted where heartbeats are taken and
says all that is asked for. -/
def Request.heartbeat? (r : Request) : Option Announcement :=
  if r.method = "POST" ∧ r.path = "/v1/imalive" then
    r.json.toOption.bind fun body => (Announcement.ofJson body).toOption
  else none

theorem toOptionIff {ε α : Type} {result : Except ε α} {a : α} :
    result.toOption = some a ↔ result = .ok a := by
  cases result <;> simp [Except.toOption]

theorem heartbeatIff {r : Request} {a : Announcement} : r.heartbeat? = some a ↔
    r.method = "POST" ∧ r.path = "/v1/imalive" ∧
      ∃ body, r.json = .ok body ∧ Announcement.ofJson body = .ok a := by
  unfold Request.heartbeat?
  split
  · next posted => simp [posted,Option.bind_eq_some_iff,toOptionIff]
  · next other => simpa using fun post path => absurd ⟨post,path⟩ other

inductive Arrival where
  | set (time : Instant)
  | advance (ms : Int)
  | request (r : Request)

namespace Arrival

def heartbeat? : Arrival → Option Announcement
  | request r => r.heartbeat?
  | _ => none

def action? : Arrival → Option Action
  | set time => some (.set time)
  | advance ms => some (.advance ms)
  | request r => r.heartbeat?.map .announce

def essential (a : Arrival) : Bool := a.action?.isSome

theorem essentialActions (arrivals : List Arrival) :
    (arrivals.filter essential).filterMap action? = arrivals.filterMap action? := by
  rw [List.filterMap_filter]
  refine congrArg (List.filterMap · arrivals) (funext fun a => ?_)
  cases found : a.action? <;> simp [essential,found]

end Arrival

theorem imaliveOfPath {path : String} :
    Endpoint.ofPath? path = some .imalive ↔ path = "/v1/imalive" := by
  unfold Endpoint.ofPath?
  split <;> simp_all

namespace Service
variable {s : Service} {reg : Registry} {now : Instant} {r : Request}

theorem handleRegistry {e : Endpoint} (other : e ≠ .imalive) :
    (s.handle reg now r e).registry = reg := by
  cases e with
  | imalive => exact absurd rfl other
  | discover =>
    simp only [handle,discover]
    split <;> rfl
  | lookup =>
    simp only [handle,lookup]
    split <;> rfl
  | _ => rfl

theorem imaliveRegistry : (imalive reg now r).registry =
    match r.json.toOption.bind fun body => (Announcement.ofJson body).toOption with
    | some a => (reg.announce now a).registry
    | none => reg := by
  simp only [imalive,Request.read]
  cases r.json with
  | error rejection => rfl
  | ok body =>
    simp only [Registry.announceJson,Except.toOption,Option.bind_some]
    cases Announcement.ofJson body <;> rfl

theorem routeRegistry : (s.route reg now r).registry =
    if r.method = "POST" ∧ Endpoint.ofPath? r.path = some .imalive then
      (imalive reg now r).registry
    else reg := by
  unfold route
  cases found : Endpoint.ofPath? r.path with
  | none => simp [unknown]
  | some e =>
    by_cases here : e = .imalive
    · subst here
      by_cases post : r.method = "POST" <;>
        simp [post,Endpoint.methods,Endpoint.posted,handle]
    · simp only [here,Option.some.injEq,and_false,if_false]
      split
      · exact handleRegistry here
      · rfl

theorem serveRegistry (s : Service) (reg : Registry) (now : Instant) (r : Request) :
    (s.serve reg now r).registry = match r.heartbeat? with
      | some a => (reg.announce now a).registry
      | none => reg := by
  have routed : (s.route reg now r).registry = match r.heartbeat? with
      | some a => (reg.announce now a).registry
      | none => reg := by
    rw [routeRegistry]
    simp only [imaliveOfPath,Request.heartbeat?]
    split
    · exact imaliveRegistry
    · rfl
  unfold serve
  split
  · next options => simp [Request.heartbeat?,options]
  · exact routed

end Service

def withoutField (name : String) : Json → Json
  | .obj fields => .obj (fields.filter fun e => e.1 ≠ name)
  | other => other

/- An answer without the identity of the service that gives it. -/
def Response.masked (response : Response) : Response :=
  { response with body := response.body.map (withoutField "instance_id") }

def Service.renamed (s : Service) (id : String) : Service := { s with instanceId := id }

namespace Service
variable (s : Service) (id : String) (reg : Registry) (now : Instant) (r : Request)

theorem handleMasked (e : Endpoint) : (s.handle reg now r e).response.masked =
    ((s.renamed id).handle reg now r e).response.masked := by
  cases e with
  | health => simp [handle,answer,renamed,Response.masked,Response.json,withoutField]
  | _ => rfl

theorem routeMasked : (s.route reg now r).response.masked =
    ((s.renamed id).route reg now r).response.masked := by
  unfold route
  cases Endpoint.ofPath? r.path with
  | none => rfl
  | some e =>
    simp only
    split
    · exact handleMasked s id reg now r e
    · rfl

theorem maskedWithoutBody {a b : Response} (same : a.masked = b.masked) :
    a.withoutBody = b.withoutBody := by
  have bare := congrArg Response.withoutBody same
  exact bare

theorem maskedWithHeaders {a b : Response} (same : a.masked = b.masked)
    (headers : List (String × String)) :
    (a.withHeaders headers).masked = (b.withHeaders headers).masked :=
  congrArg (Response.withHeaders · headers) same

theorem serveMasked : (s.serve reg now r).response.masked =
    ((s.renamed id).serve reg now r).response.masked := by
  have routed := routeMasked s id reg now r
  unfold serve
  split
  · rfl
  · refine maskedWithHeaders ?_ shared
    split
    · exact congrArg Response.masked (maskedWithoutBody routed)
    · exact routed

def step (s : Service) (w : Watch) : Arrival → Option Response × Watch
  | .set time => (none,(w.step (.set time)).2)
  | .advance ms => (none,(w.step (.advance ms)).2)
  | .request r =>
      let served := { s with sweeps := w.sweeper.counters }.serve w.registry w.now r
      (some served.response,{ w with registry := served.registry })

def after (s : Service) (w : Watch) (arrivals : List Arrival) : Watch :=
  arrivals.foldl (fun w a => (s.step w a).2) w

def exchanges (s : Service) (w : Watch) : List Arrival → List (Arrival × Option Response)
  | [] => []
  | a :: rest => (a,(s.step w a).1.map Response.masked) :: exchanges s (s.step w a).2 rest

variable {s id} {w : Watch}

theorem stepAction (s : Service) (w : Watch) (a : Arrival) :
    (s.step w a).2 = match a.action? with
      | some action => (w.step action).2
      | none => w := by
  cases a with
  | request r =>
    simp only [step,serveRegistry,Arrival.action?]
    cases r.heartbeat? <;> rfl
  | _ => rfl

theorem stepIdle {a : Arrival} (idle : a.essential = false) : (s.step w a).2 = w := by
  rw [stepAction,Option.isSome_eq_false_iff.mp idle |> Option.isNone_iff_eq_none.mp]

theorem afterActions (s : Service) (w : Watch) (arrivals : List Arrival) :
    s.after w arrivals = w.after (arrivals.filterMap Arrival.action?) := by
  induction arrivals generalizing w with
  | nil => rfl
  | cons a rest ih =>
    change s.after (s.step w a).2 rest = _
    rw [ih,stepAction]
    cases found : a.action? <;> simp [found,Watch.after]

theorem stepMasked (s : Service) (id : String) (w : Watch) (a : Arrival) :
    (s.step w a).1.map Response.masked = ((s.renamed id).step w a).1.map Response.masked := by
  cases a with
  | request r => exact congrArg some (serveMasked _ id w.registry w.now r)
  | _ => rfl

theorem exchangesEssential (s : Service) (id : String) (w : Watch) (arrivals : List Arrival) :
    (s.renamed id).exchanges w (arrivals.filter Arrival.essential) =
      (s.exchanges w arrivals).filter (·.1.essential) := by
  induction arrivals generalizing w with
  | nil => rfl
  | cons a rest ih =>
    cases kept : a.essential with
    | true =>
      have same : ((s.renamed id).step w a).2 = (s.step w a).2 := by rw [stepAction,stepAction]
      simp only [List.filter_cons,kept,if_true,exchanges,← stepMasked,same,ih]
    | false =>
      simp only [List.filter_cons,kept,Bool.false_eq_true,if_false,exchanges,stepIdle kept,ih]

/-- However requests and moves of the clock follow one another, the registry changes only at a
posted heartbeat that is taken, and then by one announcement. To leave out all other requests
changes neither what is stored nor any answer that remains, and no answer that could be asked for
in the end. -/
theorem onlyHeartbeatsCount (s : Service) (id : String) (w : Watch) (arrivals : List Arrival) :
    let essential := arrivals.filter Arrival.essential
    let other := s.renamed id
    (∀ before a, (s.step (s.after w before) a).2.registry = match a.heartbeat? with
      | some heartbeat =>
          ((s.after w before).registry.announce (s.after w before).now heartbeat).registry
      | none => (s.after w before).registry) ∧
    (∀ r heartbeat, (Arrival.request r).heartbeat? = some heartbeat ↔
      r.method = "POST" ∧ r.path = "/v1/imalive" ∧
        ∃ body, r.json = .ok body ∧ Announcement.ofJson body = .ok heartbeat) ∧
    other.after w essential = s.after w arrivals ∧
    other.exchanges w essential = (s.exchanges w arrivals).filter (·.1.essential) ∧
    ∀ r, (other.step (other.after w essential) (.request r)).1.map Response.masked =
      (s.step (s.after w arrivals) (.request r)).1.map Response.masked := by
  intro essential other
  have same : other.after w essential = s.after w arrivals := by
    rw [afterActions,afterActions,Arrival.essentialActions]
  refine ⟨fun before a => ?_,fun r heartbeat => heartbeatIff,same,
    exchangesEssential s id w arrivals,fun r => ?_⟩
  · rw [stepAction]
    cases a with
    | request r =>
      simp only [Arrival.action?,Arrival.heartbeat?]
      cases r.heartbeat? <;> rfl
    | _ => rfl
  · rw [same]
    exact (stepMasked s id _ _).symm

end Service
end Muster.Http
