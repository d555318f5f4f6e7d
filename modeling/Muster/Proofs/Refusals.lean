import Muster.Http.Service
import Muster.Proofs.Intake
/-! Which requests are answered with results, and what the others are told. Whatever is wrong with a
request comes down to fields and their problems, which are said one by one and once more in one
line; nothing that a request says makes the service fail. -/
namespace Muster.Http

/- The bodies that are taken where something is posted. -/
inductive Takes : Endpoint → Json → Prop where
  | heartbeat {body : Json} (a : Announcement) (read : Announcement.ofJson body = .ok a) :
      Takes .imalive body
  | query {fields : List (String × Json)} (query : String)
      (said : Entries.find? "query" fields = some (.str query)) : Takes .discover (.obj fields)
  | keys {fields : List (String × Json)} (keys : List String)
      (said : Entries.find? "instance_keys" fields = some (.arr (keys.map .str))) :
      Takes .lookup (.obj fields)

structure Explains (entries : List (String × String)) (response : Response) : Prop where
  status : response.status = 400
  stated : entries ≠ []
  body : response.body = some (.obj
    [("detail",.str ("Invalid request: " ++ "; ".intercalate (entries.map fun e => e.1 ++ ": " ++ e.2))),
     ("fields",.arr (entries.map fun e => .obj [("field",.str e.1),("problem",.str e.2)]))])

theorem Explains.withHeaders {entries : List (String × String)} {response : Response}
    (explains : Explains entries response) (headers : List (String × String)) :
    Explains entries (response.withHeaders headers) :=
  ⟨explains.status,explains.stated,explains.body⟩

theorem explainsFault {error : ValidationError} (stated : error.fields ≠ []) :
    Explains (error.fields.map fun p => (p.field,p.problem.text)) (ofFault (.validation error)) where
  status := rfl
  stated := by simpa using stated
  body := by
    rw [List.map_map,List.map_map]
    rfl

theorem explainsUnread (rejection : BodyRejection) : Explains [("body",rejection.text)]
    (ofFault (.validation (.single "body" (.rejected rejection)))) := by
  have stated : (ValidationError.single "body" (.rejected rejection)).fields ≠ [] :=
    List.cons_ne_nil _ _
  exact explainsFault stated

theorem heartbeatTaken {body : Json} :
    (∃ a, Announcement.ofJson body = .ok a) ↔ Takes .imalive body := by
  constructor
  · rintro ⟨a,read⟩
    exact .heartbeat a read
  · rintro ⟨a,read⟩
    exact ⟨a,read⟩

theorem queryTaken {body : Json} : (∃ query, queryOf body = .ok query) ↔ Takes .discover body := by
  constructor
  · rintro ⟨query,read⟩
    unfold queryOf at read
    split at read
    · next said =>
      cases body with
      | obj fields => exact .query _ said
      | _ => simp [Json.field?] at said
    · cases read
    · cases read
  · rintro (_ | ⟨query,said⟩)
    exact ⟨query,by simp [queryOf,Json.field?,said]⟩

theorem textsRead {items : List Json} {keys : List String} :
    items.mapM Json.str? = some keys ↔ items = keys.map .str := by
  have text {item : Json} {key : String} : item.str? = some key ↔ item = .str key := by
    cases item <;> simp [Json.str?]
  induction items generalizing keys with
  | nil => simp [eq_comm]
  | cons item rest ih =>
    simp only [List.mapM_cons,bind,Option.bind_eq_some_iff,text]
    constructor
    · rintro ⟨key,rfl,tail,read,last⟩
      cases Option.some.inj last
      rw [ih.mp read,List.map_cons]
    · intro split
      obtain ⟨key,tail,rfl,rfl,rfl⟩ := List.map_eq_cons_iff.mp split.symm
      exact ⟨key,rfl,tail,ih.mpr rfl,rfl⟩

theorem keysTaken {body : Json} : (∃ keys, keysOf body = .ok keys) ↔ Takes .lookup body := by
  constructor
  · rintro ⟨keys,read⟩
    unfold keysOf at read
    split at read
    · next items said =>
      split at read
      · next found texts =>
        rw [textsRead.mp texts] at said
        cases body with
        | obj fields => exact .keys _ said
        | _ => simp [Json.field?] at said
      · cases read
    · cases read
    · cases read
  · rintro (_ | _ | ⟨keys,said⟩)
    have texts := textsRead.mpr (rfl : keys.map Json.str = keys.map .str)
    exact ⟨keys,by simp only [keysOf,Json.field?,said,texts]⟩

theorem heartbeatStated {body : Json} {error : ValidationError}
    (refused : Announcement.ofJson body = .error error) : error.fields ≠ [] := by
  cases body with
  | obj fields =>
    intro none
    rw [Announcement.objectError refused] at none
    obtain ⟨a,taken⟩ := Announcement.problemsNone.mp none
    rw [refused] at taken
    cases taken
  | _ => cases refused; simp [ValidationError.single]

theorem queryStated {body : Json} {error : ValidationError}
    (refused : queryOf body = .error error) : error.fields ≠ [] := by
  unfold queryOf at refused
  split at refused <;> cases refused <;> simp [ValidationError.single]

theorem keysStated {body : Json} {error : ValidationError}
    (refused : keysOf body = .error error) : error.fields ≠ [] := by
  unfold keysOf at refused
  split at refused
  · split at refused <;> cases refused
    simp [ValidationError.single]
  · cases refused
    simp [ValidationError.single]
  · cases refused
    simp [ValidationError.single]

/- How a request is answered where something is posted: with results, if its body is read and
taken, and otherwise with a refusal. -/
inductive Judged (r : Request) (e : Endpoint) : Response → Prop where
  | taken {said : Json} (read : r.json = .ok said) (takes : Takes e said) (body : Json) :
      Judged r e (.json 200 body)
  | refused {said : Json} (read : r.json = .ok said) (other : ¬ Takes e said)
      {error : ValidationError} (stated : error.fields ≠ []) :
      Judged r e (ofFault (.validation error))
  | unread {rejection : BodyRejection} (rejected : r.json = .error rejection) :
      Judged r e (ofFault (.validation (.single "body" (.rejected rejection))))

def respond {α : Type} (results : α → Json) : Except ValidationError α → Response
  | .ok a => .json 200 (results a)
  | .error error => ofFault (.validation error)

theorem judgedRead {α : Type} {e : Endpoint} {decode : Json → Except ValidationError α}
    (taken : ∀ body, (∃ a, decode body = .ok a) ↔ Takes e body)
    (stated : ∀ body error, decode body = .error error → error.fields ≠ [])
    (results : α → Json) (r : Request) : Judged r e (respond results (r.read decode)) := by
  unfold Request.read
  cases read : r.json with
  | error rejection => exact .unread read
  | ok said =>
    cases decoded : decode said with
    | ok a =>
      simp only [decoded]
      exact .taken read ((taken said).mp ⟨a,decoded⟩) (results a)
    | error error =>
      have other : ¬ Takes e said := by
        intro takes
        obtain ⟨a,ok⟩ := (taken said).mpr takes
        rw [decoded] at ok
        cases ok
      simp only [decoded]
      exact .refused read other (stated said error decoded)

namespace Service
variable (s : Service) (reg : Registry) (now : Instant) (r : Request)

theorem heartbeatJudged : Judged r .imalive (imalive reg now r).response := by
  let results (a : Announcement) : Json :=
    .obj [("node",(reg.announce now a).view.toJson),("status",.str "received")]
  have same : (imalive reg now r).response = respond results (r.read Announcement.ofJson) := by
    unfold imalive Request.read
    cases r.json with
    | error rejection => rfl
    | ok body =>
      simp only [Registry.announceJson]
      cases Announcement.ofJson body <;> rfl
  rw [same]
  exact judgedRead (fun _ => heartbeatTaken) (fun _ _ => heartbeatStated) results r

theorem queryJudged : Judged r .discover (discover reg now r).response := by
  let results (query : String) : Json :=
    .obj [("query",.str query),("results",views (reg.discover now query)),
      ("timestamp",.str (Rfc3339.withOffset now)),
      ("total_count",.nat (reg.discover now query).length)]
  have same : (discover reg now r).response = respond results (r.read queryOf) := by
    unfold discover
    cases r.read queryOf <;> rfl
  rw [same]
  exact judgedRead (fun _ => queryTaken) (fun _ _ => queryStated) results r

theorem keysJudged : Judged r .lookup (lookup reg now r).response := by
  let results (keys : List String) : Json :=
    .obj [("results",views (reg.lookup now keys)),("timestamp",.str (Rfc3339.withOffset now)),
      ("total_count",.nat (reg.lookup now keys).length)]
  have same : (lookup reg now r).response = respond results (r.read keysOf) := by
    unfold lookup
    cases r.read keysOf <;> rfl
  rw [same]
  exact judgedRead (fun _ => keysTaken) (fun _ _ => keysStated) results r

theorem handleJudged {e : Endpoint} (posted : e.posted = true) :
    Judged r e (s.handle reg now r e).response := by
  cases e with
  | imalive => exact heartbeatJudged reg now r
  | discover => exact queryJudged reg now r
  | lookup => exact keysJudged reg now r
  | _ => cases posted

theorem handleGiven {e : Endpoint} (read : e.posted = false) :
    (s.handle reg now r e).response.status = 200 := by
  cases e with
  | imalive | discover | lookup => cases read
  | _ => rfl

end Service

namespace Judged
variable {r : Request} {e : Endpoint} {response : Response}

theorem status (judged : Judged r e response) : response.status = 200 ∨ response.status = 400 := by
  cases judged with
  | taken => exact .inl rfl
  | refused => exact .inr rfl
  | unread => exact .inr rfl

theorem taken200 (judged : Judged r e response) :
    response.status = 200 ↔ ∃ said, r.json = .ok said ∧ Takes e said := by
  cases judged with
  | taken read takes body => exact iff_of_true rfl ⟨_,read,takes⟩
  | refused read other =>
    refine iff_of_false (by simp [ofFault,Response.json]) ?_
    rintro ⟨said,also,takes⟩
    cases read.symm.trans also
    exact other takes
  | unread rejected =>
    refine iff_of_false (by simp [ofFault,Response.json]) ?_
    rintro ⟨said,read,_⟩
    cases rejected.symm.trans read

theorem explained (judged : Judged r e response) (refused : response.status = 400) :
    ∃ entries, Explains entries response := by
  cases judged with
  | taken => cases refused
  | refused _ _ stated => exact ⟨_,explainsFault stated⟩
  | unread => exact ⟨_,explainsUnread _⟩

theorem unreadBody (judged : Judged r e response) {rejection : BodyRejection}
    (rejected : r.json = .error rejection) : Explains [("body",rejection.text)] response := by
  cases judged with
  | taken read => cases rejected.symm.trans read
  | refused read => cases rejected.symm.trans read
  | unread also =>
    cases rejected.symm.trans also
    exact explainsUnread rejection

end Judged

namespace Service
variable (s : Service) (reg : Registry) (now : Instant) (r : Request)

theorem handleStatus (e : Endpoint) : (s.handle reg now r e).response.status = 200 ∨
    (s.handle reg now r e).response.status = 400 := by
  cases posted : e.posted with
  | true => exact (s.handleJudged reg now r posted).status
  | false => exact .inl (s.handleGiven reg now r posted)

theorem servePosted {e : Endpoint} (post : r.method = "POST")
    (found : Endpoint.ofPath? r.path = some e) (posted : e.posted = true) :
    (s.serve reg now r).response = (s.handle reg now r e).response.withHeaders shared := by
  have allowed : "POST" ∈ e.methods := by simp [Endpoint.methods,posted]
  simp [serve,route,post,found,allowed]

theorem routeCases :
    (∃ e : Endpoint, e.posted = true ∧ r.method = "POST" ∧ Endpoint.ofPath? r.path = some e) ∨
      (s.route reg now r).response.status ∈ [200,404,405] := by
  unfold route
  cases found : Endpoint.ofPath? r.path with
  | none => exact .inr (by simp [unknown,ofFault,Response.json])
  | some e =>
    by_cases allowed : r.method ∈ e.methods
    · cases posted : e.posted with
      | true =>
        have post : r.method = "POST" := by simpa [Endpoint.methods,posted] using allowed
        exact .inl ⟨e,posted,post,rfl⟩
      | false =>
        have given := s.handleGiven reg now r posted
        exact .inr (by simp [allowed,given])
    · exact .inr (by simp [allowed,Response.empty])

theorem serveCases :
    (∃ e : Endpoint, e.posted = true ∧ r.method = "POST" ∧ Endpoint.ofPath? r.path = some e) ∨
      (s.serve reg now r).response.status ∈ [200,404,405] := by
  rcases s.routeCases reg now r with post | others
  · exact .inl post
  · refine .inr ?_
    unfold serve
    split
    · simp [preflight,Response.empty,Response.withHeaders]
    · simp only [Response.withHeaders]
      split <;> exact others

theorem serveStatus : (s.serve reg now r).response.status ∈ [200,400,404,405] := by
  rcases s.serveCases reg now r with ⟨e,posted,post,found⟩ | others
  · have same := congrArg Response.status (s.servePosted reg now r post found posted)
    rcases (s.handleJudged reg now r posted).status with given | refused
    · simp [same.trans given]
    · simp [same.trans refused]
  · have also : [200,404,405] ⊆ [200,400,404,405] := by simp
    exact also others

theorem handleConfigured (e : Endpoint) (fault : ConfigurationFault) :
    (s.handle reg now r e).response ≠ ofFault (.configuration fault) := by
  intro same
  have status := s.handleStatus reg now r e
  rw [same] at status
  simp [ofFault,Response.json] at status

theorem serveExplained (refused : (s.serve reg now r).response.status = 400) :
    ∃ entries, Explains entries (s.serve reg now r).response := by
  rcases s.serveCases reg now r with ⟨e,posted,post,found⟩ | others
  · rw [s.servePosted reg now r post found posted] at refused ⊢
    obtain ⟨entries,explains⟩ := (s.handleJudged reg now r posted).explained refused
    exact ⟨entries,explains.withHeaders shared⟩
  · rw [refused] at others
    simp at others

/-- Every request is answered, and never with a failure of the service. What is posted is answered
with results exactly where its body is read and taken there; all other bodies are refused, and a
refusal says of fields what is wrong with them, which is the body itself if it cannot be read. -/
theorem answersOrExplains (s : Service) (reg : Registry) (now : Instant) (r : Request) :
    let response := (s.serve reg now r).response
    response.status ∈ [200,400,404,405] ∧
    (∀ e fault, (s.handle reg now r e).response ≠ ofFault (.configuration fault)) ∧
    (∀ e, (r.path,e) ∈ [("/v1/imalive",Endpoint.imalive),("/v1/discover",.discover),
        ("/v1/lookup",.lookup)] → r.method = "POST" →
      (response.status = 200 ∨ response.status = 400) ∧
      (response.status = 200 ↔ ∃ body, r.json = .ok body ∧ Takes e body) ∧
      ∀ rejection, r.json = .error rejection → Explains [("body",rejection.text)] response) ∧
    (response.status = 400 → ∃ entries, Explains entries response) := by
  intro response
  refine ⟨s.serveStatus reg now r,s.handleConfigured reg now r,fun e listed post => ?_,
    s.serveExplained reg now r⟩
  have found : e.posted = true ∧ Endpoint.ofPath? r.path = some e := by
    simp only [List.mem_cons,List.not_mem_nil,or_false,Prod.mk.injEq] at listed
    rcases listed with ⟨path,rfl⟩ | ⟨path,rfl⟩ | ⟨path,rfl⟩ <;> rw [path] <;> exact ⟨rfl,rfl⟩
  have told := s.handleJudged reg now r found.1
  have same : response = _ := s.servePosted reg now r post found.2 found.1
  rw [same]
  exact ⟨told.status,told.taken200,fun rejection unread => (told.unreadBody unread).withHeaders shared⟩

end Service
end Muster.Http
