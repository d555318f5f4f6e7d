import Muster.Table
import Muster.Text.Basic
import Muster.Text.Unicode
/-! The variables of a process: a block of entries, each a name, an equals sign and a value. Entries that
were there at the start stand in the order of their names, later ones in the order in which they were
set. A file of variables, one assignment a line, adds to them: a variable that is set already keeps its
value, and the first line that cannot be read ends the reading. -/
namespace Muster

structure Variables where
  entries : List String
  deriving DecidableEq, Repr

namespace Variables

def entry (name value : String) : String := name ++ "=" ++ value

def after? (start cs : List Char) : Option String :=
  if start.isPrefixOf cs then some (String.ofList (cs.drop start.length)) else none

/- The first entry that begins with the name and an equals sign decides; where the name itself
holds such a sign, its first part may be the name that was set. No variable has an empty name. -/
def get? (vars : Variables) (name : String) : Option String :=
  if name.isEmpty || name.toList.contains '\x00' then none
  else vars.entries.findSome? fun e => after? (entry name "").toList e.toList

def cut? (e : String) : Option (String × String) :=
  match e.toList with
  | first :: rest =>
      (Text.cutFirst '=' rest).map fun (name,value) => (String.ofList (first :: name),String.ofList value)
  | [] => none

def pairs (vars : Variables) : List (String × String) := vars.entries.filterMap cut?

def set (vars : Variables) (name value : String) : Variables := ⟨vars.entries ++ [entry name value]⟩

def ofTable (table : Table String) : Variables :=
  ⟨table.entries.map fun (name,value) => entry name value⟩

end Variables

namespace VariableFile

/- How far the reading of a value has come: outside quotes, inside single or double ones, in the
name of a variable to put in, or past the value. -/
inductive Mode where
  | plain
  | single
  | double
  | named (inDouble braced : Bool) (reversed : List Char)
  | past
  deriving DecidableEq, Repr

def isNameChar (c : Char) : Bool :=
  if c.toNat < 0x80 then c.isAlphanum else Text.alphanumericRanges.covers c.toNat

def valueOf (vars : Variables) (reversed : List Char) : List Char :=
  ((vars.get? (String.ofList reversed.reverse)).getD "").toList

def outside (inDouble : Bool) : Mode := if inDouble then .double else .plain

def escape? (c : Char) : Option Char :=
  if c = '\\' || c = '\'' || c = '"' || c = '$' || c = ' ' then some c
  else if c = 'n' then some '\n'
  else none

def step? (vars : Variables) (c : Char) : Mode → Option (List Char × Mode)
  | .plain =>
      some <| if c = '$' then ([],.named false false [])
        else if c = '\'' then ([],.single)
        else if c = '"' then ([],.double)
        else if c = ' ' || c = '\t' then ([],.past)
        else ([c],.plain)
  | .single => some (if c = '\'' then ([],.plain) else ([c],.single))
  | .double =>
      some <| if c = '$' then ([],.named true false [])
        else if c = '"' then ([],.plain)
        else ([c],.double)
  | .named inDouble false reversed =>
      some <| if isNameChar c then ([],.named inDouble false (c :: reversed))
        else if c = '\x7b' && reversed.isEmpty then ([],.named inDouble true [])
        else
          let value := valueOf vars reversed
          if c = '$' then (value,.named inDouble false []) else (value ++ [c],outside inDouble)
  | .named inDouble true reversed =>
      some <| if c = '\x7d' then (valueOf vars reversed,outside inDouble)
        else ([],.named inDouble true (c :: reversed))
  | .past => if c = ' ' || c = '\t' then some ([],.past) else none

def close? (vars : Variables) : Mode → Option (List Char)
  | .plain | .past => some []
  | .named false false reversed => some (valueOf vars reversed)
  | _ => none

def takesEscape : Mode → Bool
  | .plain | .double => true
  | _ => false

def value? (vars : Variables) (mode : Mode) : List Char → Option (List Char)
  | [] => close? vars mode
  | '\\' :: rest =>
      if takesEscape mode then
        match rest with
        | [] => close? vars mode
        | c :: rest =>
            match escape? c with
            | some c => (value? vars mode rest).map (c :: ·)
            | none => none
      else
        match step? vars '\\' mode with
        | some (read,mode) => (value? vars mode rest).map (read ++ ·)
        | none => none
  | c :: rest =>
      if mode = .past && c = '#' then some []
      else match step? vars c mode with
        | some (read,mode) => (value? vars mode rest).map (read ++ ·)
        | none => none

def isKeyStart (c : Char) : Bool := c.isAlpha || c = '_'

def isKeyChar (c : Char) : Bool := c.isAlphanum || c = '_' || c = '.'

def key? (cs : List Char) : Option (String × List Char) :=
  if cs.head?.any isKeyStart then
    some (String.ofList (cs.takeWhile isKeyChar),Text.trimStart (cs.dropWhile isKeyChar))
  else none

def assigned? (cs : List Char) : Option (String × List Char) := do
  let (key,rest) ← key? cs
  match rest with
  | '=' :: rest => some (key,rest)
  | _ =>
      if key = "export" then
        match key? rest with
        | some (key,'=' :: rest) => some (key,rest)
        | _ => none
      else none

inductive Line where
  | nothing
  | assignment (key value : String)
  | unreadable
  deriving DecidableEq, Repr

def readLine (vars : Variables) (line : List Char) : Line :=
  let cs := Text.trimStart (Text.trimEnd line)
  if cs.isEmpty || cs.head? == some '#' then .nothing
  else match assigned? cs with
    | none => .unreadable
    | some (key,rest) =>
        let rest := Text.trimStart rest
        if rest.isEmpty || rest.head? == some '#' then .assignment key ""
        else match value? vars .plain rest with
          | some value => .assignment key (String.ofList value)
          | none => .unreadable

def loadLines (vars : Variables) : List (List Char) → Variables
  | [] => vars
  | line :: rest =>
      match readLine vars line with
      | .nothing => loadLines vars rest
      | .assignment key value =>
          loadLines (if (vars.get? key).isSome then vars else vars.set key value) rest
      | .unreadable => vars

def load (vars : Variables) (text : String) : Variables :=
  loadLines vars (Text.splitChars '\n' text.toList)

end VariableFile
end Muster
