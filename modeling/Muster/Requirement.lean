import Muster.Event
import Muster.Node
import Muster.Text.Basic
/-! The nodes a cluster needs before it is ready, each named by one selector: `type:` and `key:`
pick by type and by instance, `name:` or no selector at all by name. -/
namespace Muster

inductive Requirement where
  | name (value : String)
  | type (value : String)
  | key (value : String)
  deriving DecidableEq, Repr

namespace Requirement

def matchedBy (r : NodeRecord) : Requirement → Bool
  | name value => Text.lower r.name == Text.lower value
  | type value => Text.lower r.type == Text.lower value
  | key value => r.key == value

def display : Requirement → String
  | name value => value
  | type value => "type:" ++ value
  | key value => "key:" ++ value

def kind : Requirement → String
  | name _ => "name"
  | type _ => "type"
  | key _ => "key"

def value : Requirement → String
  | name value | type value | key value => value

def cut (entry : String) : Option String × String :=
  match Text.cutFirst ':' entry.toList with
  | some (before,after) =>
      (some (Text.trim (String.ofList before)),Text.trim (String.ofList after))
  | none => (none,Text.trim entry)

def parse (entry : String) : Except ConfigurationFault Requirement :=
  let (selector,value) := cut entry
  if value = "" then .error (.emptyRequirement entry)
  else match selector with
    | none => .ok (name value)
    | some selector =>
        if selector = "name" then .ok (name value)
        else if selector = "type" then .ok (type value)
        else if selector = "key" then .ok (key value)
        else .error (.unknownSelector selector entry)

/- Reads on after `seen`. A requirement that is there already is kept at its first place; the
first entry that does not parse ends the reading. -/
def parseAfter (seen : List Requirement) :
    List String → Except ConfigurationFault (List Requirement) × List Event
  | [] => (.ok seen,[])
  | entry :: rest =>
      match parse entry with
      | .error fault => (.error fault,[])
      | .ok r =>
          if r ∈ seen then
            let (result,events) := parseAfter seen rest
            (result,.requirementRepeated entry :: events)
          else parseAfter (seen ++ [r]) rest

def parseAll (entries : List String) : Except ConfigurationFault (List Requirement) × List Event :=
  parseAfter [] entries

end Requirement
end Muster
