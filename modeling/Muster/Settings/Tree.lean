import Muster.Decimal
import Muster.Json
import Muster.Text.Basic
/-! Settings before they are decoded: one tree of tables, lists and scalars, put together from layers.
Each layer is laid over what the layers before it left. The last one comes from environment variables: a
variable counts when its name begins with `LEADER__`, in any case, and two underscores in a row go down
one table. -/
namespace Muster.Settings

/- A step from a table to one of its keys, or from a list to one of its places. Places below zero
count from the end of the list. -/
inductive Step where
  | key (name : String)
  | index (place : Int)
  deriving DecidableEq, Repr

structure Path where
  root : String
  steps : List Step
  deriving DecidableEq, Repr

def isWordChar (c : Char) : Bool := c.isAlphanum || c = '_' || c = '-'

def skipSpace (cs : List Char) : List Char := cs.dropWhile fun c => c = ' ' || c = '\t'

def index? (cs : List Char) : Option (Int × List Char) :=
  let cs := skipSpace cs
  let (negative,rest) := match cs with
    | '-' :: rest => (true,rest)
    | _ => (false,cs)
  let digits := rest.takeWhile Decimal.isDigit
  let size := Decimal.digitsValue digits
  match skipSpace (rest.dropWhile Decimal.isDigit) with
  | ']' :: rest =>
      if digits.isEmpty || Int64.maxValue.toInt < size then none
      else some (if negative then -(size : Int) else size,rest)
  | _ => none

def steps? : Nat → List Char → Option (List Step)
  | _, [] => some []
  | 0, _ => none
  | fuel + 1, '.' :: rest =>
      let word := rest.takeWhile isWordChar
      if word.isEmpty then none
      else (steps? fuel (rest.dropWhile isWordChar)).map (.key (String.ofList word) :: ·)
  | fuel + 1, '[' :: rest =>
      match index? rest with
      | some (place,rest) => (steps? fuel rest).map (.index place :: ·)
      | none => none
  | _, _ => none

def Path.read (key : String) : Path :=
  let cs := key.toList
  let word := cs.takeWhile isWordChar
  match steps? cs.length (cs.dropWhile isWordChar) with
  | some steps => if word.isEmpty then ⟨key,[]⟩ else ⟨String.ofList word,steps⟩
  | none => ⟨key,[]⟩

def tableOf : Json → List (String × Json)
  | .obj fields => fields
  | _ => []

def itemsOf : Json → List Json
  | .arr items => items
  | _ => []

mutual

/- A table goes over a table key by key; everything else replaces what was there. -/
def overlay (below : Json) : Json → Json
  | .obj fields => .obj (overlayFields (tableOf below) fields)
  | value => value

def overlayFields (below : List (String × Json)) : List (String × Json) → List (String × Json)
  | [] => below
  | (key,value) :: rest =>
      let old := (Entries.find? key below).getD .null
      overlayFields (Entries.put key (overlay old value) below) rest

end

def withPlace (items : List Json) (place : Int) : List Json × Nat :=
  if 0 ≤ place then
    (items ++ List.replicate (place.toNat + 1 - items.length) .null,place.toNat)
  else
    let back := place.natAbs
    (List.replicate (back - items.length) .null ++ items,items.length - back)

/- Goes down the steps and lays the value over what is there. What is in the way of a step makes
room for a table or a list. -/
def setAt (value : Json) : List Step → Json → Json
  | [], below => overlay below value
  | .key name :: steps, below =>
      let table := tableOf below
      .obj (Entries.put name (setAt value steps ((Entries.find? name table).getD .null)) table)
  | .index place :: steps, below =>
      let (items,n) := withPlace (itemsOf below) place
      .arr (items.modify n (setAt value steps))

def Path.set (path : Path) (value : Json) (tree : Json) : Json :=
  setAt value (.key path.root :: path.steps) tree

def layer (tree : Json) (fields : List (String × Json)) : Json :=
  fields.foldl (fun tree (key,value) => (Path.read key).set value tree) tree

def variablePrefix : String := "leader__"

def listKeys : List String := ["required_nodes","environment.required_vars","environment.optional_vars"]

def dotted : List Char → List Char
  | '_' :: '_' :: rest => '.' :: dotted rest
  | c :: rest => c :: dotted rest
  | [] => []

def variableKey? (name : String) : Option String :=
  let cs := Text.lowerChars name.toList
  let mark := variablePrefix.toList
  if mark.isPrefixOf cs then some (String.ofList (dotted (cs.drop mark.length))) else none

def variableValue (key value : String) : Json :=
  if Text.lower value = "true" then .bool true
  else if Text.lower value = "false" then .bool false
  else match Decimal.whole? Int64.minValue.toInt Int64.maxValue.toInt value with
    | some n => .int n
    | none =>
        match Decimal.real? value with
        | some x => .num (.real x)
        | none => if key ∈ listKeys then .strings (Text.splitAt ',' value) else .str value

def variableField? (name value : String) : Option (String × Json) :=
  (variableKey? name).map fun key => (key,variableValue key value)

def variableLayer (vars : List (String × String)) : List (String × Json) :=
  Entries.ofPairs (vars.filterMap fun (name,value) => variableField? name value)

end Muster.Settings
