import Muster.Text.Basic
/-! What can be wrong with a request or a configuration. Causes are kept apart from their wording, which
is given once per cause. -/
namespace Muster

inductive SettingsFault where
  -- A single value of the wrong kind or out of range.
  | wrongType (key : String)
  -- No list where a list, or no table where a table is needed.
  | wrongShape (key : String)
  -- A file that does not parse, or whose top level is no table. What its parser says is left out.
  | unreadable (path : String)
  | notFound (path : String)
  | unsupported (path : String)
  deriving DecidableEq, Repr

def SettingsFault.message : SettingsFault → String
  | wrongType key => "invalid type of value for key " ++ Text.quote key
  | wrongShape key => "invalid shape of value for key " ++ Text.quote key
  | unreadable path => "configuration file \"" ++ path ++ "\" cannot be read"
  | notFound path => "configuration file \"" ++ path ++ "\" not found"
  | unsupported path => "configuration file \"" ++ path ++ "\" is not of a supported file format"

/- A cause that a library gives is in its own words; `none` leaves them out. -/
def withCause (text : String) : Option String → String
  | some cause => text ++ ": " ++ cause
  | none => text

inductive BodyRejection where
  | contentType
  | tooLong
  | broken (cause : Option String)
  | malformed (cause : Option String)
  deriving DecidableEq, Repr

def BodyRejection.text : BodyRejection → String
  | contentType => "Expected request with \x60Content-Type: application/json\x60"
  | tooLong => "Failed to buffer the request body: length limit exceeded"
  | broken cause => withCause "Failed to buffer the request body" cause
  | malformed cause => withCause "Failed to parse the request body as JSON" cause

inductive Problem where
  | missing
  | notText
  | notPort
  | notObject
  | notList
  | notTexts
  | rejected (reason : BodyRejection)
  | stated (text : String)
  deriving DecidableEq, Repr

def Problem.text : Problem → String
  | missing => "missing"
  | notText => "expected a string"
  | notPort => "expected an integer between 0 and 65535"
  | notObject => "expected a JSON object"
  | notList => "expected an array"
  | notTexts => "expected strings only"
  | rejected reason => reason.text
  | stated text => text

structure FieldProblem where
  field : String
  problem : Problem
  deriving DecidableEq, Repr

def FieldProblem.text (p : FieldProblem) : String := p.field ++ ": " ++ p.problem.text

structure ValidationError where
  fields : List FieldProblem
  deriving DecidableEq, Repr

namespace ValidationError

def single (field : String) (problem : Problem) : ValidationError := ⟨[⟨field,problem⟩]⟩

def push (e : ValidationError) (field : String) (problem : Problem) : ValidationError :=
  ⟨e.fields ++ [⟨field,problem⟩]⟩

def isEmpty (e : ValidationError) : Bool := e.fields.isEmpty

def fieldNames (e : ValidationError) : List String := e.fields.map (·.field)

def message (e : ValidationError) : String := "; ".intercalate (e.fields.map (·.text))

end ValidationError

inductive ConfigurationFault where
  | windowOutOfRange
  | windowNotPositive
  | emptyRequirement (entry : String)
  | unknownSelector (selector entry : String)
  | livenessZero
  | sweepZero
  | sweepNotShorter (sweep liveness : UInt64)
  | missingVariables (names : List String)
  | clusterFile (path : String) (cause : Option String)
  | stated (text : String)
  deriving DecidableEq, Repr

def ConfigurationFault.text : ConfigurationFault → String
  | windowOutOfRange =>
      "liveness window: Source duration value is out of range for the target type"
  | windowNotPositive => "liveness window must be greater than zero"
  | emptyRequirement entry => "empty required node entry: " ++ Text.quote entry
  | unknownSelector selector entry =>
      "unknown required node selector " ++ Text.quote selector ++ " in " ++ Text.quote entry
  | livenessZero => "liveness_window_secs must be greater than zero"
  | sweepZero => "sweep_interval_secs must be greater than zero"
  | sweepNotShorter sweep liveness =>
      "sweep_interval_secs (" ++ toString sweep ++ ") must be shorter than liveness_window_secs (" ++
        toString liveness ++ ")"
  | missingVariables names =>
      "missing required environment variable(s): " ++ ", ".intercalate names
  | clusterFile path cause => withCause ("cannot load cluster config " ++ path) cause
  | stated text => text

inductive Fault where
  | validation (error : ValidationError)
  | configuration (fault : ConfigurationFault)
  | notFound (message : String)
  deriving DecidableEq, Repr

def Fault.message : Fault → String
  | validation error => "Invalid request: " ++ error.message
  | configuration fault => "Configuration error: " ++ fault.text
  | notFound message => message

end Muster
