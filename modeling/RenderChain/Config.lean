/-
  RenderChain/Config.lean
  =======================
  **Settings of a pipeline**, and reading them from a YAML document.

  The document is a map with the fields `rootdirs` (or `rootdir`), `cachedir`,
  `default_format` and `engines`, all of them optional and no others.  The root
  folders are one path or a list of paths, and a path has to be a text; the
  other fields take the source text of any scalar.

  Fields are read in the order of the document, so the first fault in that order
  is reported.  But a fault is only named in a document that is sound; a document
  that is not, and a text that is no single well-formed document, is malformed as
  a whole.
-/
import RenderChain.Decimal
import RenderChain.Error
import RenderChain.Files.Edit
import RenderChain.Keyed
import RenderChain.Text.Escape
import RenderChain.World
import RenderChain.Yaml.Node

namespace RenderChain

structure Config where
  roots : List String
  cachedir : Option String
  defaultFormat : Option String
  /-- The names of engines by extension. -/
  engines : Keyed String
  deriving DecidableEq, Repr

namespace Config

open Yaml (Pair Node Meaning)

/-- No settings at all. -/
def empty : Config := ⟨[], none, none, []⟩

def withRoot (c : Config) (root : String) : Config := { c with roots := c.roots ++ [root] }

def withCachedir (c : Config) (path : String) : Config := { c with cachedir := some path }

def withDefaultFormat (c : Config) (mimetype : String) : Config :=
  { c with defaultFormat := some mimetype }

def withEngine (c : Config) (extension name : String) : Config :=
  { c with engines := Keyed.put extension name c.engines }

/-! ## What was found -/

/-- A meaning as a message names it. -/
def foundMeaning : Meaning → String
  | .null => "unit value"
  | .bool b => "boolean \x60" ++ (if b then "true" else "false") ++ "\x60"
  | .int n => "integer \x60" ++ toString n ++ "\x60"
  | .float x => "floating point \x60" ++ Decimal.Layout.positional.text x ++ "\x60"
  | .text s => "string " ++ Text.quoted s

/-- A value as a message names it, unless it has no meaning. -/
def found? : Node → Option String
  | .list .. => some "sequence"
  | .map .. => some "map"
  | .scalar text style tag => (Meaning.of? text style tag).map foundMeaning

abbrev Reading (α : Type) := Except DocumentFault α

def wrongType {α : Type} (field expected : String) (n : Node) : Reading α :=
  match found? n with
  | some found => .error (.wrongType field found expected)
  | none => .error .malformed

/-! ## Fields -/

/-- The source text of a scalar. -/
def scalarText (field expected : String) : Node → Reading String
  | .scalar text _ _ => .ok text
  | n => wrongType field expected n

/-- The source text of a scalar, or nothing for a plain one that is null or empty. -/
def optionalText (field expected : String) : Node → Reading (Option String)
  | .scalar text .plain none =>
    .ok (if text.isEmpty || Yaml.isNull text then none else some text)
  | .scalar text .plain (some tag) =>
    if tag ≠ Yaml.coreTag "null" then .ok (some text)
    else if Yaml.isNull text then .ok none
    else .error .malformed
  | .scalar text .quoted _ => .ok (some text)
  | n => wrongType field expected n

mutual

/-- The place of the first value with a tag of the document's own; `place` is
    that of the value itself. -/
def ownTag? (place : String) : Node → Option String
  | .scalar _ _ tag => (Yaml.localTag? tag).map fun _ => place
  | .list tag items =>
    if (Yaml.localTag? tag).isSome then some place else ownTagOfItems? place 0 items
  | .map tag entries =>
    if (Yaml.localTag? tag).isSome then some place else ownTagOfEntries? place entries

def ownTagOfItems? (place : String) (index : Nat) : List Node → Option String
  | [] => none
  | item :: rest =>
    (ownTag? (place ++ "[" ++ toString index ++ "]") item).or
      (ownTagOfItems? place (index + 1) rest)

def ownTagOfEntries? (place : String) : List (Pair Node) → Option String
  | [] => none
  | ⟨label, key, value⟩ :: rest =>
    ((ownTag? place key).or (ownTag? (place ++ "." ++ label) value)).or
      (ownTagOfEntries? place rest)

end

/-- A path, which has to be a text. -/
def path? (n : Node) : Option String :=
  match n.meaning? with
  | some (.text s) => some s
  | _ => none

/-- One path or a list of paths. -/
def paths? : Node → Option (List String)
  | .list _ items => items.mapM path?
  | n => (path? n).map fun path => [path]

def paths (field : String) (n : Node) : Reading (List String) :=
  match ownTag? field n with
  | some place => .error (.taggedValue place)
  | none => (paths? n).elim (.error .notOneOrMany) .ok

/-- The entries of a map; an empty value is an empty map. -/
def entriesOf (field expected : String) (n : Node) : Reading (List (Pair Node)) :=
  match n with
  | .map _ entries => .ok entries
  | n => if n.isEmpty then .ok [] else wrongType field expected n

/-- The table of engines; of two entries for one extension the last one stays. -/
def engineTable (n : Node) : Reading (Keyed String) := do
  let pairs ← (← entriesOf "engines" "a map" n).mapM fun e => do
    let extension ← scalarText "engines" "a string" e.key
    let name ← scalarText ("engines." ++ e.label) "a string" e.value
    return (extension, name)
  return Keyed.ofList pairs

/-! ## Documents -/

/-- The fields of a document, with the other name that one of them has. -/
def field? (name : String) : Option String :=
  if name = "rootdir" then some "rootdirs"
  else [name].find? (· ∈ ["rootdirs", "cachedir", "default_format", "engines"])

/-- Reads the value of a field into the settings; `place` is how a message calls it. -/
def readField (c : Config) (field place : String) (value : Node) : Reading Config := do
  match field with
  | "rootdirs" => return { c with roots := ← paths place value }
  | "cachedir" => return { c with cachedir := ← optionalText place "path string" value }
  | "default_format" => return { c with defaultFormat := ← optionalText place "a string" value }
  | _ => return { c with engines := ← engineTable value }

/-- Reads fields in their order; `before` are the fields before them. -/
def readFields (c : Config) (before : List String) : List (Pair Node) → Reading Config
  | [] => .ok c
  | e :: rest => do
    let name ← scalarText "" "field identifier" e.key
    match field? name with
    | none => throw (.unknownField name)
    | some field =>
      if field ∈ before then throw (.duplicateField field)
      readFields (← c.readField field e.label e.value) (field :: before) rest

/-- The settings of a document. -/
def ofNode (n : Node) : Reading Config := do
  readFields empty [] (← entriesOf "" "struct TplConfig" n)

/-- The settings of a YAML text. -/
def ofYaml (source : String) : Reading Config :=
  match Node.parse source with
  | none => .error .malformed
  | some n =>
    match ofNode n with
    | .ok c => .ok c
    | .error fault => .error (if n.isSound then fault else .malformed)

/-! ## Validation -/

/-- Checks that the root folders are folders, and makes the cache folder. -/
def validate {σ : Type} (c : Config) : Action σ Unit := do
  let files ← Action.files
  match c.roots.find? fun root => !files.isFolder root with
  | some root => throw (.config (.notADirectory root))
  | none =>
    match c.cachedir with
    | none => pure ()
    | some path =>
      match files.makeFolders path with
      | .ok made => modify fun w => { w with files := made }
      | .error fault => throw (.io path fault)

end Config

end RenderChain
