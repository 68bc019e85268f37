/-
  RenderChain/Loader.lean
  =======================
  **Loaders**: where template sources come from.

  A loader is a table in memory, a list of root folders, a chain of loaders, or
  something of the caller's own.  Loading gives a text or the path of a file,
  which is read when it is used.  A chain asks its members in order and goes on
  to the next one only if a member knows no such template; any other failure is
  the chain's failure.

  `paths` lists what a loader offers, `knows` says whether a template can be
  loaded, and `hash` is a digest of what loading gives.
-/
import RenderChain.Digest
import RenderChain.Files.Walk
import RenderChain.Keyed
import RenderChain.Suffixes
import RenderChain.World

namespace RenderChain

/-- What loading a template gives. -/
inductive Loaded
  | inline (content : String)
  | file (path : String)
  deriving DecidableEq, Repr

namespace Loaded

variable {σ : Type}

/-- The template's text; a file is read now. -/
def read : Loaded → Action σ String
  | .inline content => pure content
  | .file path => Action.readText path

/-- The template's bytes; a file is read now. -/
def bytes : Loaded → Action σ (List UInt8)
  | .inline content => pure content.toUTF8.toList
  | .file path => do return (← Action.readBytes path).toList

end Loaded

/-! ## The caller's own loaders -/

/-- A loader that the caller supplies. -/
structure CustomLoader (σ : Type) where
  load : String → Action σ Loaded
  paths : World σ → List String
  knows : String → Action σ Bool
  hash : String → Action σ String

/-- The digest of what `load` gives for a path. -/
def hashOf {σ : Type} (load : String → Action σ Loaded) (path : String) : Action σ String := do
  let loaded ← load path
  return Digest.hex (← loaded.bytes)

/-- A custom loader that knows what it can load, and hashes what it loads. -/
def CustomLoader.ofLoad {σ : Type} (load : String → Action σ Loaded)
    (paths : World σ → List String) : CustomLoader σ :=
  ⟨load, paths, fun path => (load path).succeeds, hashOf load⟩

/-! ## Loaders -/

inductive Loader (σ : Type)
  /-- Texts by path. -/
  | inline (templates : Keyed String)
  /-- Files below root folders, searched in order.  An extension limits what is
      listed, not what can be loaded. -/
  | folders (roots : List String) (extension : Option String)
  | chain (members : List (Loader σ))
  | custom (own : CustomLoader σ)

/-- The file that a template path names below the first of the roots that has it. -/
def Files.find? (fs : Files) (roots : List String) (path : String) : Option String :=
  (roots.filterMap fun root => Path.below root path).find? fs.isFile

namespace Loader

variable {σ : Type}

/-- Whether the last segments of a path are those of `extension`. -/
def endsWith (extension path : String) : Bool :=
  (Text.split '.' extension).isSuffixOf (Suffixes.parse path).segments

/-- The files below the roots that the extension allows, each path once. -/
def filesBelow (fs : Files) (roots : List String) (extension : Option String) : List String :=
  distinct ((roots.flatMap fs.filesBelow).filter fun path => extension.all (endsWith · path))

mutual

def load (path : String) : Loader σ → Action σ Loaded
  | .inline templates =>
    match Keyed.find? path templates with
    | some content => pure (.inline content)
    | none => throw (.templateNotFound path)
  | .folders roots _ => do
    match (← Action.files).find? roots path with
    | some full => return .file full
    | none => throw (.templateNotFound path)
  | .chain members => loadFirst path members
  | .custom own => own.load path

/-- The template of the first loader that knows it. -/
def loadFirst (path : String) : List (Loader σ) → Action σ Loaded
  | [] => throw (.templateNotFound path)
  | l :: rest => (l.load path).orIfNotFound (loadFirst path rest)

end

mutual

def paths (w : World σ) : Loader σ → List String
  | .inline templates => templates.keys
  | .folders roots extension => filesBelow w.files roots extension
  | .chain members => distinct (pathsOfAll w members)
  | .custom own => own.paths w

def pathsOfAll (w : World σ) : List (Loader σ) → List String
  | [] => []
  | l :: rest => l.paths w ++ pathsOfAll w rest

end

mutual

def knows (path : String) : Loader σ → Action σ Bool
  | .inline templates => pure (Keyed.find? path templates).isSome
  | .folders roots extension => (load path (.folders roots extension)).succeeds
  | .chain members => anyKnows path members
  | .custom own => own.knows path

def anyKnows (path : String) : List (Loader σ) → Action σ Bool
  | [] => pure false
  | l :: rest => do
    if ← l.knows path then return true
    anyKnows path rest

end

mutual

def hash (path : String) : Loader σ → Action σ String
  | .inline templates => hashOf (fun path => load path (.inline templates)) path
  | .folders roots extension => hashOf (fun path => load path (.folders roots extension)) path
  | .chain members => hashFirst path members
  | .custom own => own.hash path

/-- The hash of the first loader that knows the template. -/
def hashFirst (path : String) : List (Loader σ) → Action σ String
  | [] => throw (.templateNotFound path)
  | l :: rest => (l.hash path).orIfNotFound (hashFirst path rest)

end

end Loader

end RenderChain
