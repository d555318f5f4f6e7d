import Muster.Fault
import Muster.Json
/-! Requests and responses, as far as the service looks at the ones and writes the others. A media type
is a type, a subtype with an optional suffix, and parameters. -/
namespace Muster.Http

structure MediaType where
  type : String
  subtype : String
  suffix : Option String
  deriving DecidableEq, Repr

namespace MediaType

def isToken (c : Char) : Bool :=
  c.isAlphanum || c ∈ ['!','#','$','%','&','\'','*','+','-','.','^','_','\x60','|','~']

def suffixed (cs : List Char) : List Char × Option (List Char) :=
  let after := cs.reverse.takeWhile (· != '+')
  match cs.reverse.drop after.length with
  | _ :: before => if before.isEmpty then (cs,none) else (before.reverse,some after.reverse)
  | [] => (cs,none)

def pastQuoted? (cs : List Char) : Option (List Char) :=
  let allowed (c : Char) : Bool := 0x1F < c.toNat && c.toNat < 0x7F
  match cs with
  | first :: rest =>
      let content := rest.takeWhile fun c => allowed c && c != '"'
      match rest.drop content.length with
      | '"' :: rest => if allowed first then some rest else none
      | _ => none
  | [] => none

/- Parameters, behind a semicolon. Only behind the last one may the text end without another. -/
def parametersEnd : Nat → List Char → Bool
  | 0, _ => false
  | fuel + 1, cs =>
      let cs := cs.dropWhile (· = ' ')
      if cs.isEmpty then true
      else
        let name := cs.takeWhile isToken
        match cs.drop name.length with
        | '=' :: '"' :: rest =>
            if name.isEmpty then false
            else match (pastQuoted? rest).map (·.dropWhile (· = ' ')) with
              | some [] => true
              | some (';' :: rest) => parametersEnd fuel rest
              | _ => false
        | '=' :: rest =>
            let value := rest.takeWhile isToken
            if name.isEmpty then false
            else match rest.drop value.length with
              | [] => true
              | ';' :: rest => !value.isEmpty && parametersEnd fuel rest
              | _ => false
        | _ => false

def lowered (cs : List Char) : String := String.ofList (cs.map Char.toLower)

/- Letters count in either case. The subtype begins behind the first slash and is not empty where
parameters follow. -/
def read? (s : String) : Option MediaType :=
  let cs := s.toList
  let type := cs.takeWhile isToken
  match cs.drop type.length with
  | '/' :: rest =>
      let full := rest.takeWhile isToken
      let (subtype,suffix) := suffixed full
      let found := some ⟨lowered type,lowered subtype,suffix.map lowered⟩
      if type.isEmpty then none
      else match rest.drop full.length with
        | [] => found
        | ';' :: rest => if !full.isEmpty && parametersEnd (rest.length + 1) rest then found else none
        | _ => none
  | _ => none

def isJson (m : MediaType) : Bool :=
  m.type = "application" && (m.subtype = "json" || m.suffix = some "json")

end MediaType

/- What comes of a body: its bytes, with what a reader of JSON says against them should they be none, or
why they could not be read. -/
inductive Body where
  | bytes (content : ByteArray) (complaint : Option String)
  | broken (cause : Option String)

instance : Coe ByteArray Body := ⟨fun content => .bytes content none⟩

structure Request where
  method : String
  -- What is asked for: a path, or a whole address, with a query as sent.
  target : String
  contentType : Option String
  body : Body

def isSchemeChar (c : Char) : Bool := c.isAlphanum || c = '+' || c = '-' || c = '.'

def pastScheme? (cs : List Char) : Option (List Char) :=
  match cs.dropWhile isSchemeChar with
  | ':' :: '/' :: '/' :: rest => some rest
  | _ => none

def beforeQuery (cs : List Char) : List Char := cs.takeWhile fun c => c != '?' && c != '#'

/- The path of a target without its query; nothing in it is decoded. An address without a path asks
for the root, a host alone has none at all. -/
def Request.path (r : Request) : String :=
  match r.target.toList with
  | '/' :: rest => String.ofList ('/' :: beforeQuery rest)
  | ['*'] => "*"
  | cs =>
      match pastScheme? cs with
      | none => ""
      | some rest =>
          let path := beforeQuery (rest.dropWhile fun c => c != '/' && c != '?' && c != '#')
          if path.isEmpty then "/" else String.ofList path

def bodyLimit : Nat := 2097152

def Request.json (r : Request) : Except BodyRejection Json :=
  if !(r.contentType.bind MediaType.read?).any MediaType.isJson then .error .contentType
  else match r.body with
    | .broken cause => .error (.broken cause)
    | .bytes content complaint =>
        if bodyLimit < content.size then .error .tooLong
        else match Json.parseBytes content with
          | some value => .ok value
          | none => .error (.malformed complaint)

structure Response where
  status : Nat
  headers : List (String × String)
  body : Option Json

namespace Response

def text (r : Response) : String :=
  match r.body with
  | some value => value.render
  | none => ""

def json (status : Nat) (body : Json) : Response := ⟨status,[("content-type","application/json")],some body⟩

def empty (status : Nat) (headers : List (String × String)) : Response := ⟨status,headers,none⟩

def withoutBody (r : Response) : Response := { r with body := none }

def withHeaders (r : Response) (headers : List (String × String)) : Response :=
  { r with headers := r.headers ++ headers }

end Response

def FieldProblem.toJson (p : FieldProblem) : Json :=
  .obj [("field",.str p.field),("problem",.str p.problem.text)]

def ofFault : Fault → Response
  | .validation error =>
      .json 400 (.obj [("detail",.str (Fault.validation error).message),
        ("fields",.arr (error.fields.map FieldProblem.toJson))])
  | .configuration fault => .json 500 (.obj [("detail",.str (Fault.configuration fault).message)])
  | .notFound message => .json 404 (.obj [("detail",.str message)])

end Muster.Http
