import Muster.Toml.Text
/-! TOML documents: tables built line by line. No key is given twice, no table is opened twice, and
what is written as one value is not added to later. -/
namespace Muster.Toml

/- How a table came to be: under a header of its own, on the way to another one's, or through a
dotted key. -/
inductive Origin where
  | header
  | passed
  | dotted
  deriving DecidableEq, Repr

inductive Node where
  | value (value : Json)
  | table (origin : Origin) (fields : List (String × Node))
  | rows (rows : List (List (String × Node)))

abbrev Fields := List (String × Node)

mutual

def Node.toJson : Node → Json
  | .value json => json
  | .table _ fields => .obj (fieldsToJson fields)
  | .rows list => .arr (rowsToJson list)

def fieldsToJson : List (String × Node) → List (String × Json)
  | [] => []
  | (key,node) :: rest => (key,node.toJson) :: fieldsToJson rest

def rowsToJson : List (List (String × Node)) → List Json
  | [] => []
  | row :: rest => .obj (fieldsToJson row) :: rowsToJson rest

end

def below (change : Fields → Option Fields) : List String → Fields → Option Fields
  | [], fields => change fields
  | key :: path, fields =>
      match Entries.find? key fields with
      | none => (below change path []).map fun inner => Entries.put key (.table .passed inner) fields
      | some (.table origin inner) =>
          (below change path inner).map fun inner => Entries.put key (.table origin inner) fields
      | some (.rows rows) =>
          match rows.getLast? with
          | none => none
          | some row =>
              (below change path row).map fun row => Entries.put key (.rows (rows.dropLast ++ [row])) fields
      | some (.value _) => none

def openTable (key : String) (fields : Fields) : Option Fields :=
  match Entries.find? key fields with
  | none => some (Entries.put key (.table .header []) fields)
  | some (.table .passed inner) => some (Entries.put key (.table .header inner) fields)
  | some _ => none

def openRow (key : String) (fields : Fields) : Option Fields :=
  match Entries.find? key fields with
  | none => some (Entries.put key (.rows [[]]) fields)
  | some (.rows rows) => some (Entries.put key (.rows (rows ++ [[]])) fields)
  | some _ => none

def assignKey (key : String) (value : Json) (fields : Fields) : Option Fields :=
  match Entries.find? key fields with
  | none => some (Entries.put key (.value value) fields)
  | some _ => none

/- Gives a dotted key its value. On its way it goes through tables without a header of their own
and through the last rows of lists, and it ends in a table that a dotted key has made. -/
def assignDotted (value : Json) (key : String) : List String → Origin → Fields → Option Fields
  | [], origin, fields => if origin = .dotted then assignKey key value fields else none
  | part :: path, _, fields =>
      match Entries.find? part fields with
      | none =>
          (assignDotted value key path .dotted []).map fun inner =>
            Entries.put part (.table .dotted inner) fields
      | some (.table .header _) => none
      | some (.table origin inner) =>
          (assignDotted value key path origin inner).map fun inner =>
            Entries.put part (.table origin inner) fields
      | some (.rows rows) =>
          match rows.getLast? with
          | none => none
          | some row =>
              (assignDotted value key path .header row).map fun row =>
                Entries.put part (.rows (rows.dropLast ++ [row])) fields
      | some (.value _) => none

def assign (value : Json) (path : List String) (fields : Fields) : Option Fields :=
  match path.reverse with
  | [] => none
  | [key] => assignKey key value fields
  | key :: before => assignDotted value key before.reverse .header fields

def isKeyChar (c : Char) : Bool := c.isAlphanum || c = '_' || c = '-'

def simpleKey? (cs : List Char) : Option (String × List Char) :=
  match cs with
  | '"' :: rest => (lineText? '"' cs.length rest).map fun (key,rest) => (String.ofList key,rest)
  | '\'' :: rest => (lineText? '\'' cs.length rest).map fun (key,rest) => (String.ofList key,rest)
  | _ =>
      let word := cs.takeWhile isKeyChar
      if word.isEmpty then none else some (String.ofList word,cs.drop word.length)

def depthLimit : Nat := 80

def keyWithin? : Nat → List Char → Option (List String × List Char)
  | 0, _ => none
  | parts + 1, cs =>
      match simpleKey? (skipBlanks cs) with
      | none => none
      | some (key,rest) =>
          match skipBlanks rest with
          | '.' :: rest => (keyWithin? parts rest).map fun (keys,rest) => (key :: keys,rest)
          | rest => some ([key],rest)

def key? (cs : List Char) : Option (List String × List Char) := keyWithin? depthLimit cs

def past? (sign : Char) (cs : List Char) : Option (List Char) :=
  match skipLines? (cs.length + 1) cs with
  | some (c :: rest) => if c = sign then some rest else none
  | _ => none

mutual

def value? (depth : Nat) : Nat → List Char → Option (Json × List Char)
  | 0, _ => none
  | fuel + 1, cs =>
      match cs, depth with
      | '"' :: rest, _ => (text? '"' rest).map fun (text,rest) => (.str text,rest)
      | '\'' :: rest, _ => (text? '\'' rest).map fun (text,rest) => (.str text,rest)
      | '[' :: rest, depth + 1 => items? depth fuel [] rest
      | '\x7b' :: rest, depth + 1 => pairs? depth fuel [] rest
      | _, _ => word? cs

def items? (depth : Nat) : Nat → List Json → List Char → Option (Json × List Char)
  | 0, _, _ => none
  | fuel + 1, items, cs =>
      match past? ']' cs, skipLines? (cs.length + 1) cs with
      | some rest, _ => some (.arr items.reverse,rest)
      | _, none => none
      | _, some rest =>
          match value? depth fuel rest with
          | none => none
          | some (item,rest) =>
              match past? ',' rest, past? ']' rest with
              | some rest, _ => items? depth fuel (item :: items) rest
              | _, some rest => some (.arr (item :: items).reverse,rest)
              | _, _ => none

def pairs? (depth : Nat) : Nat → Fields → List Char → Option (Json × List Char)
  | 0, _, _ => none
  | fuel + 1, fields, cs =>
      match past? '\x7d' cs, (skipLines? (cs.length + 1) cs).bind key? with
      | some rest, _ => some (.obj (fieldsToJson fields),rest)
      | _, none => none
      | _, some (path,rest) =>
          match (past? '=' rest).bind fun rest => skipLines? (rest.length + 1) rest with
          | none => none
          | some rest =>
              match value? depth fuel rest with
              | none => none
              | some (value,rest) =>
                  match assign value path fields, past? ',' rest, past? '\x7d' rest with
                  | some fields, some rest, _ => pairs? depth fuel fields rest
                  | some fields, _, some rest => some (.obj (fieldsToJson fields),rest)
                  | _, _, _ => none

end

structure Draft where
  fields : Fields
  current : List String

def Draft.header (d : Draft) (opening : String → Fields → Option Fields) (path : List String) : Option Draft := do
  let key ← path.getLast?
  let fields ← below (opening key) path.dropLast d.fields
  some ⟨fields,path⟩

def Draft.line? (d : Draft) (cs : List Char) : Option (Draft × List Char) :=
  match cs with
  | '[' :: '[' :: rest =>
      match key? rest with
      | some (path,']' :: ']' :: rest) => (d.header openRow path).map (·,rest)
      | _ => none
  | '[' :: rest =>
      match key? rest with
      | some (path,']' :: rest) => (d.header openTable path).map (·,rest)
      | _ => none
  | _ =>
      match key? cs with
      | some (path,'=' :: rest) => do
          let (value,rest) ← value? depthLimit (cs.length + 1) (skipBlanks rest)
          let fields ← below (assign value path) d.current d.fields
          some (⟨fields,d.current⟩,rest)
      | _ => none

def lines? : Nat → Draft → List Char → Option Draft
  | 0, _, _ => none
  | fuel + 1, draft, cs =>
      match skipLines? (cs.length + 1) cs with
      | none => none
      | some [] => some draft
      | some rest =>
          match draft.line? rest with
          | none => none
          | some (draft,rest) =>
              match endLine? rest with
              | none => none
              | some rest => lines? fuel draft rest

def parse (s : String) : Option Json :=
  let cs := match s.toList with
    | '\uFEFF' :: rest => rest
    | cs => cs
  (lines? (cs.length + 1) ⟨[],[]⟩ cs).map fun draft => .obj (fieldsToJson draft.fields)

end Muster.Toml
