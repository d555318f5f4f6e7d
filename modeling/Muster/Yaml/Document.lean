import Muster.Yaml.Scalar
import Muster.Yaml.Token
/-! YAML documents: the nodes that the tokens of a text make up, before it is known whether they can be
settings. Where a node is left out it is null. -/
namespace Muster.Yaml

/- A missing node is one whose text is not of the kind that its tag names, or that stands for a
node which is not complete. -/
inductive Node where
  | missing
  | scalar (value : Scalar)
  | list (items : List Node)
  | mapping (entries : List (Node × Node))
  deriving BEq

namespace Node

def null : Node := .scalar .null

def ofPlain (tag : Option Tag) (s : String) : Node :=
  match tag with
  | none => .scalar (.ofPlain s)
  | some tag =>
      if tag.handle = Tag.core then
        match Scalar.ofTagged? tag.suffix s with
        | some value => .scalar value
        | none => .missing
      else .scalar (.text s)

/- Takes nodes in turn as keys and values. A missing key is passed over, so that what follows it
becomes the key, and a key without a value does not count. No key is given twice. -/
def pairUp (key : Node) (entries : List (Node × Node)) : List Node → Option Node
  | [] => some (.mapping entries.reverse)
  | node :: rest =>
      if key == .missing then pairUp node entries rest
      else if entries.any (·.1 == key) then none
      else pairUp .missing ((key,node) :: entries) rest

def ofNodes? (nodes : List Node) : Option Node := pairUp .missing [] nodes

def keyText? : Node → Option String
  | .scalar value => value.keyText?
  | _ => none

mutual

/- The value among the settings. A missing one is null. Every key has to have a text; of keys with
the same text the last counts. -/
def toJson? : Node → Option Json
  | .missing => some .null
  | .scalar value => value.toJson?
  | .list items => (itemsToJson? items).map .arr
  | .mapping entries => (entriesToJson? [] entries).map .obj

def itemsToJson? : List Node → Option (List Json)
  | [] => some []
  | item :: rest =>
      match toJson? item, itemsToJson? rest with
      | some value, some values => some (value :: values)
      | _, _ => none

def entriesToJson? (fields : List (String × Json)) : List (Node × Node) → Option (List (String × Json))
  | [] => some fields
  | (key,value) :: rest =>
      match keyText? key, toJson? value with
      | some text, some value => entriesToJson? (Entries.put text value fields) rest
      | _, _ => none

end

end Node

/- The anchors of a document by number, in the order in which they were met, and the nodes of
those that are complete. -/
structure Anchors where
  names : List String
  nodes : List (Nat × Node)

namespace Anchors

def none : Anchors := ⟨[],[]⟩

def number? (anchors : Anchors) (name : String) : Option Nat :=
  (anchors.names.zipIdx.reverse.find? (·.1 = name)).map (·.2)

def add (anchors : Anchors) (name : String) : Anchors × Nat :=
  ({ anchors with names := anchors.names ++ [name] },anchors.names.length)

def complete (anchors : Anchors) (number : Option Nat) (node : Node) : Anchors :=
  match number with
  | some n => { anchors with nodes := (n,node) :: anchors.nodes }
  | .none => anchors

def node? (anchors : Anchors) (name : String) : Option Node :=
  (anchors.number? name).map fun n => ((anchors.nodes.find? (·.1 = n)).map (·.2)).getD .missing

end Anchors

structure Reading where
  tokens : List Token
  anchors : Anchors

namespace Reading

def next (r : Reading) : Option Token := r.tokens.head?

def drop (r : Reading) : Reading := { r with tokens := r.tokens.drop 1 }

def isAt (r : Reading) (tokens : List Token) : Bool := r.next.any tokens.contains

structure Properties where
  anchor : Option Nat
  tag : Option Tag

def Properties.none : Properties := ⟨.none,.none⟩

def anchor (r : Reading) (p : Properties) : Properties × Reading :=
  match r.tokens with
  | .anchor name :: rest =>
      let (anchors,number) := r.anchors.add name
      ({ p with anchor := some number },⟨rest,anchors⟩)
  | _ => (p,r)

def tag? (declared : List (String × String)) (r : Reading) (p : Properties) : Option (Properties × Reading) :=
  match r.tokens with
  | .tag tag :: rest =>
      (Tag.resolve? declared tag).map fun tag => ({ p with tag := some tag },{ r with tokens := rest })
  | _ => some (p,r)

def properties? (declared : List (String × String)) (r : Reading) : Option (Properties × Reading) := do
  let (p,behind) := r.anchor .none
  let (p,behind) ← behind.tag? declared p
  some (if p.anchor.isNone then behind.anchor p else (p,behind))

end Reading

open Reading in
mutual

def node? (declared : List (String × String)) : Nat → Bool → Bool → Reading → Option (Node × Reading)
  | 0, _, _, _ => none
  | fuel + 1, inBlock, hanging, r =>
      match r.tokens with
      | .alias name :: _ => (r.anchors.node? name).map (·,r.drop)
      | _ =>
          match properties? declared r with
          | none => none
          | some (p,r) =>
              let found := match r.next with
                | some (.plain text) => some (Node.ofPlain p.tag text,r.drop)
                | some (.quoted text) => some (.scalar (.text text),r.drop)
                | some .listOpen => flowItems? declared fuel true [] r.drop
                | some .mappingOpen => flowEntries? declared fuel true [] r.drop
                | some .listBlock => if inBlock then items? declared fuel [] r.drop else none
                | some .mappingBlock => if inBlock then entries? declared fuel [] r.drop else none
                | some .item =>
                    if hanging then hangingItems? declared fuel [] r
                    else if p.anchor.isSome || p.tag.isSome then some (Node.ofPlain p.tag "",r) else none
                | _ => if p.anchor.isSome || p.tag.isSome then some (Node.ofPlain p.tag "",r) else none
              found.map fun (node,r) => (node,{ r with anchors := r.anchors.complete p.anchor node })

def nodeOr? (declared : List (String × String)) :
    Nat → Bool → Bool → List Token → Reading → Option (Node × Reading)
  | 0, _, _, _, _ => none
  | fuel + 1, inBlock, hanging, ends, r =>
      if r.isAt ends then some (.null,r) else node? declared fuel inBlock hanging r

def items? (declared : List (String × String)) : Nat → List Node → Reading → Option (Node × Reading)
  | 0, _, _ => none
  | fuel + 1, items, r =>
      match r.next with
      | some .blockEnd => some (.list items.reverse,r.drop)
      | some .item =>
          match nodeOr? declared fuel true false [.item,.blockEnd] r.drop with
          | some (item,r) => items? declared fuel (item :: items) r
          | none => none
      | _ => none

def hangingItems? (declared : List (String × String)) : Nat → List Node → Reading → Option (Node × Reading)
  | 0, _, _ => none
  | fuel + 1, items, r =>
      match r.next with
      | some .item =>
          match nodeOr? declared fuel true false [.item,.key,.value,.blockEnd] r.drop with
          | some (item,r) => hangingItems? declared fuel (item :: items) r
          | none => none
      | _ => some (.list items.reverse,r)

def entries? (declared : List (String × String)) : Nat → List Node → Reading → Option (Node × Reading)
  | 0, _, _ => none
  | fuel + 1, nodes, r =>
      let ends : List Token := [.key,.value,.blockEnd]
      let key := match r.next with
        | some .key => nodeOr? declared fuel true true ends r.drop
        | some .value => some (.null,r)
        | _ => none
      if r.isAt [.blockEnd] then (Node.ofNodes? nodes.reverse).map (·,r.drop)
      else match key with
        | none => none
        | some (key,r) =>
            let value := if r.isAt [.value] then nodeOr? declared fuel true true ends r.drop else some (.null,r)
            match value with
            | some (value,r) => entries? declared fuel (value :: key :: nodes) r
            | none => none

def flowValue? (declared : List (String × String)) : Nat → List Token → Reading → Option (Node × Reading)
  | 0, _, _ => none
  | fuel + 1, ends, r =>
      if r.isAt [.value] then nodeOr? declared fuel false false ends r.drop else some (.null,r)

def flowItems? (declared : List (String × String)) : Nat → Bool → List Node → Reading → Option (Node × Reading)
  | 0, _, _, _ => none
  | fuel + 1, first, items, r =>
      if r.isAt [.listClose] then some (.list items.reverse,r.drop)
      else if !first && !r.isAt [.comma] then none
      else
        let r := if first then r else r.drop
        if r.isAt [.listClose] then some (.list items.reverse,r.drop)
        else
          let item := if r.isAt [.key] then flowPair? declared fuel r.drop else node? declared fuel false false r
          match item with
          | some (item,r) => flowItems? declared fuel false (item :: items) r
          | none => none

def flowPair? (declared : List (String × String)) : Nat → Reading → Option (Node × Reading)
  | 0, _ => none
  | fuel + 1, r =>
      let key := if r.isAt [.value,.comma,.listClose] then some (.null,r.drop) else node? declared fuel false false r
      match key with
      | none => none
      | some (key,r) =>
          match flowValue? declared fuel [.comma,.listClose] r with
          | some (value,r) => (Node.ofNodes? [key,value]).map (·,r)
          | none => none

def flowEntries? (declared : List (String × String)) : Nat → Bool → List Node → Reading → Option (Node × Reading)
  | 0, _, _, _ => none
  | fuel + 1, first, nodes, r =>
      let close (r : Reading) : Option (Node × Reading) := (Node.ofNodes? nodes.reverse).map (·,r.drop)
      if r.isAt [.mappingClose] then close r
      else if !first && !r.isAt [.comma] then none
      else
        let r := if first then r else r.drop
        let ends : List Token := [.comma,.mappingClose]
        if r.isAt [.mappingClose] then close r
        else
          let key := if r.isAt [.key] then nodeOr? declared fuel false false (.value :: ends) r.drop
            else if r.isAt [.value] then some (.null,r)
            else node? declared fuel false false r
          match key with
          | none => none
          | some (key,behind) =>
              let value := if r.isAt [.key,.value] then flowValue? declared fuel ends behind else some (.null,behind)
              match value with
              | some (value,r) => flowEntries? declared fuel false (value :: key :: nodes) r
              | none => none

end

def Token.directive? : Token → Option Directive
  | .directive d => some d
  | _ => none

def declaredBy : List Directive → List (String × String)
  | [] => []
  | [.version] => []
  | [.handle mark start] => [(mark,start)]
  | _ :: rest => declaredBy rest

def isOver (tokens : List Token) : Bool := tokens.all (· == .dots)

def document? (tokens : List Token) : Option (Node × List Token) :=
  let directives := (tokens.takeWhile fun t => t.directive?.isSome).filterMap Token.directive?
  let body := tokens.drop directives.length
  let fuel := 4 * tokens.length + 4
  let read (declared : List (String × String)) (tokens : List Token) : Option (Node × List Token) :=
    (node? declared fuel true false ⟨tokens,.none⟩).map fun (node,r) => (node,r.tokens)
  if 1 < directives.count .version then none
  else match body with
    | .dashes :: rest =>
        if rest.isEmpty || rest.head?.any (fun t => t == .dashes || t == .dots || t.directive?.isSome) then
          some (.null,rest)
        else read (declaredBy directives) rest
    | _ => if directives.isEmpty then read [] body else none

def parse (s : String) : Option Json := do
  let tokens ← Token.readAll s
  let tokens := tokens.dropWhile (· == .dots)
  if tokens.isEmpty then some (.obj [])
  else
    let (node,rest) ← document? tokens
    if isOver rest then node.toJson? else none

end Muster.Yaml
