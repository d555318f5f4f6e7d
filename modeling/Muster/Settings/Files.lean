import Muster.Fault
import Muster.Json
import Muster.Text.Basic
import Muster.Toml.Document
import Muster.Yaml.Document
/-! Settings files: how the file for a name is found below the working directory, and how its top-level
table is read. A path is walked part by part: each part is looked up in a directory, so that what stands
before a slash has to be one. The formats are JSON, TOML and YAML; the other ones that settings may have,
with the endings `ini`, `ron` and `json5`, are left out: such a file is unsupported where it is named, and
not looked for otherwise. -/
namespace Muster.Settings

/- The files at hand, and in which words a fault that is found in one is reported. -/
structure Files where
  text? : String → Option String
  words : SettingsFault → Option String

def Files.nothing : Files := ⟨fun _ => none,fun _ => none⟩

def parts (path : String) : List String := Text.splitAt '/' path

def stays (part : String) : Bool := part = "" || part = "."

/- Where the parts lead from `here`. Two dots go back, but not out of the working directory. -/
def walk (isDirectory : List String → Bool) (here : List String) : List String → Option (List String)
  | [] => some here
  | part :: rest =>
      if !isDirectory here then none
      else if stays part then walk isDirectory here rest
      else if part = ".." then
        if here.isEmpty then none else walk isDirectory here.dropLast rest
      else walk isDirectory (here ++ [part]) rest

def textIn (files : List (String × String)) (path : String) : Option String :=
  let entries := files.map fun (name,text) => ((parts name).filter fun part => !stays part,text)
  let isDirectory (here : List String) : Bool :=
    here.isEmpty || entries.any fun (name,_) => here.isPrefixOf name && here.length < name.length
  if path.startsWith "/" then none
  else match walk isDirectory [] (parts path) with
    | some here => (entries.find? fun (name,_) => name = here).map (·.2)
    | none => none

def Files.ofList (files : List (String × String)) : Files := ⟨textIn files,fun _ => none⟩

def named? (path : String) : Option String :=
  match (parts path).reverse.dropWhile stays with
  | [] => none
  | last :: before => if last = ".." then none else some ("/".intercalate (last :: before).reverse)

def extension (path : String) : String :=
  let name := (path.toList.reverse.takeWhile (· != '/')).reverse
  match Text.cutFirst '.' name.reverse with
  | some (after,before) => if before.isEmpty then "" else String.ofList after.reverse
  | none => ""

inductive Format where
  | json
  | toml
  | yaml
  deriving DecidableEq, Repr

def Format.ofExtension? (extension : String) : Option Format :=
  if extension = "json" then some .json
  else if extension = "toml" then some .toml
  else if extension = "yaml" || extension = "yml" then some .yaml
  else none

def extensions : List String := ["toml","json","yaml","yml"]

def Format.read? : Format → String → Option Json
  | json, s => Json.parse s
  | toml, s => Toml.parse s
  | yaml, s => Yaml.parse s

def Format.table? (format : Format) (s : String) : Option (List (String × Json)) :=
  let text := match s.toList with
    | '\uFEFF' :: rest => String.ofList rest
    | _ => s
  match format.read? text with
  | some (.obj fields) => some fields
  | _ => none

def alternatives (path : String) : List String :=
  match named? path with
  | some name =>
      if (Format.ofExtension? (extension name)).isSome then [] else extensions.map (name ++ "." ++ ·)
  | none => []

def candidates (path : String) : List String := path :: alternatives path

def find (files : Files) (path : String) : Except SettingsFault (Format × String) :=
  match files.text? path with
  | some text =>
      match Format.ofExtension? (extension path) with
      | some format => .ok (format,text)
      | none => .error (.unsupported path)
  | none =>
      let found := (alternatives path).findSome? fun name =>
        match Format.ofExtension? (extension name), files.text? name with
        | some format, some text => some (format,text)
        | _, _ => none
      match found with
      | some found => .ok found
      | none => .error (.notFound path)

def fileLayer (files : Files) (path : String) : Except SettingsFault (List (String × Json)) := do
  let (format,text) ← find files path
  match format.table? text with
  | some fields => .ok fields
  | none => .error (.unreadable path)

def optionalLayer (files : Files) (path : String) : Except SettingsFault (List (String × Json)) :=
  match find files path with
  | .ok _ => fileLayer files path
  | .error _ => .ok []

end Muster.Settings
