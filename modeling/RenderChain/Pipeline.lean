/-
  RenderChain/Pipeline.lean
  =========================
  **Resolving a path and rendering it.**

  The suffixes of a path decide everything.  The longest loader key at the end
  selects the loader.  The engine keys found from the right are the chain; if
  there are none and a key selected the loader, that key is cut off and the
  engines are sought in what is left.  The file type is sought in what the
  engines leave, then in all suffixes, and then it is the default one.  This is
  the `Plan` of a path, which needs no renderer; a `Resolution` has the
  renderers too.

  Rendering passes the template through the renderers of the chain and then
  through the post-processors of the file type.
-/
import RenderChain.Engine.Registry
import RenderChain.FileType.Registry
import RenderChain.Loader.Registry

namespace RenderChain

/-- A finished configuration. -/
structure Pipeline (σ : Type) where
  context : EngineContext
  loaders : LoaderIndex σ
  filetypes : FileTypeIndex σ
  engines : EngineIndex σ
  /-- How many configuration calls went into it. -/
  generation : Nat

/-- What the suffixes of a path decide. -/
structure Plan (σ : Type) where
  loader : Option (Loader σ)
  loaderKey : Option String
  filetype : FileType σ
  filetypeKey : Option String
  /-- The keys of the engines, in the order in which they are applied. -/
  engines : List String

/-- A plan with its renderers. -/
structure Resolution (σ : Type) where
  loader : Option (Loader σ)
  loaderKey : Option String
  filetype : FileType σ
  filetypeKey : Option String
  /-- Engine keys and renderers, in the order in which they are applied. -/
  chain : List (String × Renderer σ)

namespace Resolution

variable {σ : Type}

def engineKeys (r : Resolution σ) : List String := r.chain.map Prod.fst

end Resolution

namespace Pipeline

variable {σ : Type}

/-! ## Plans -/

/-- The loader of a path, and the key that selected it. -/
def loaderOf (p : Pipeline σ) (s : Suffixes) : Option (Loader σ) × Option KeyMatch :=
  match p.loaders.resolve s with
  | some (l, found) => (some l, found)
  | none => (none, none)

/-- The engine chain, and the segments in which it was found. -/
def chainOf (p : Pipeline σ) (segments : List String) (loaderMatch : Option KeyMatch) :
    List KeyMatch × List String :=
  match p.engines.resolveChain segments, loaderMatch with
  | [], some found =>
    let rest := before segments found.consumed
    (p.engines.resolveChain rest, rest)
  | matched, _ => (matched, segments)

/-- The file type of a path, and the key that selected it. -/
def filetypeOf (p : Pipeline σ) (remaining all : List String) :
    Option (FileType σ × Option String) :=
  match (p.filetypes.lookup remaining).or (p.filetypes.lookup all) with
  | some (ft, found) => some (ft, some found.key)
  | none => p.filetypes.default.map fun ft => (ft, none)

/-- What the suffixes of a path decide; with `useLoader` unset the path is given
    no loader. -/
def plan (p : Pipeline σ) (path : String) (useLoader : Bool) : Except Error (Plan σ) :=
  let s := Suffixes.parse path
  let (loader, loaderMatch) := if useLoader then p.loaderOf s else (none, none)
  let (matched, segments) := p.chainOf s.segments loaderMatch
  match p.filetypeOf (before segments (consumedBy matched)) s.segments with
  | none => .error (.templateNotFound path)
  | some (ft, key) => .ok ⟨loader, loaderMatch.map (·.key), ft, key, matched.map (·.key)⟩

/-- The mime type that a path renders to. -/
def mimetype (p : Pipeline σ) (path : String) : Except Error String :=
  (p.plan path true).map (·.filetype.mimetype)

/-! ## Resolutions -/

/-- The renderers of engine keys, built or taken from their cells. -/
def renderers (p : Pipeline σ) (ft : FileType σ) :
    List String → Call σ (List (String × Renderer σ))
  | [] => pure []
  | key :: rest => do
    let renderer ← p.engines.renderer key ft p.context
    return (key, renderer) :: (← p.renderers ft rest)

def instantiate (p : Pipeline σ) (plan : Plan σ) : Call σ (Resolution σ) := do
  return ⟨plan.loader, plan.loaderKey, plan.filetype, plan.filetypeKey,
    ← p.renderers plan.filetype plan.engines⟩

/-- The loader, file type and renderers of a path; a path without a loader is
    not found. -/
def resolve (p : Pipeline σ) (path : String) : Call σ (Resolution σ) := do
  match p.plan path true with
  | .error e => throw e
  | .ok plan =>
    if plan.loader.isNone then throw (.templateNotFound path)
    p.instantiate plan

/-! ## Rendering -/

/-- The caller's variables over the globals of the file type. -/
def mergeVariables (ft : FileType σ) (path : String) : Json → Except Error Variables
  | .object fields => .ok ((Keyed.ofList ft.globals).overlay fields)
  | .null => .ok (Keyed.ofList ft.globals)
  | other => .error (.render path ("variables must be a map, got " ++ other.compact))

/-- Passes a text through renderers. -/
def renderAll (path : String) (vars : Variables) (content : String) :
    List (String × Renderer σ) → Action σ String
  | [] => pure content
  | (_, r) :: rest => do
    renderAll path vars (← r.renderString content vars (some path)) rest

/-- Passes what was loaded through the renderers; the first one gets a file as a file. -/
def renderChain (path : String) (vars : Variables) (source : Loaded) :
    List (String × Renderer σ) → Action σ String
  | [] => source.read
  | (_, r) :: rest => do
    let content ← match source with
      | .file file => r.renderFile file vars (some path)
      | .inline content => r.renderString content vars (some path)
    renderAll path vars content rest

/-- The output for what was loaded. -/
def execute (r : Resolution σ) (path : String) (source : Loaded) (vars : Json) :
    Action σ String := do
  let merged ← Action.ofExcept (mergeVariables r.filetype path vars)
  r.filetype.postprocess (← renderChain path merged source r.chain)

/-- Loads the template of a path and renders it. -/
def render (p : Pipeline σ) (path : String) (vars : Json) : Call σ String := do
  let r ← p.resolve path
  match r.loader with
  | none => throw (.templateNotFound path)
  | some loader =>
    Call.ofAction do execute r path (← loader.load path) vars

/-- Renders a text as the template of a path; the loaders are not asked. -/
def renderContent (p : Pipeline σ) (content path : String) (vars : Json) :
    Call σ String := do
  match p.plan path false with
  | .error e => throw e
  | .ok plan =>
    let r ← p.instantiate plan
    Call.ofAction (execute r path (.inline content) vars)

/-! ## Cache keys and listings -/

/-- The eight bytes of `n` below `2 ^ 64`, the least significant one first. -/
def littleEndian64 (n : Nat) : List UInt8 := (Digest.bigEndian64 n).reverse

/-- What a cache key is the digest of. -/
def keyBytes (path : String) (generation : Nat) (mimetype : String) (engines : List String)
    (content : String) : List UInt8 :=
  path.toUTF8.toList ++ 0 :: littleEndian64 generation ++ mimetype.toUTF8.toList ++
    0 :: (Text.join '.' engines).toUTF8.toList ++ 0 :: content.toUTF8.toList

/-- A key for the output of a path: it changes with the template, the file type,
    the engines and the number of configuration calls. -/
def hash (p : Pipeline σ) (path : String) : Action σ String := do
  match p.plan path true with
  | .error e => throw e
  | .ok plan =>
    match plan.loader with
    | none => throw (.templateNotFound path)
    | some loader =>
      let content ← loader.hash path
      return Digest.hex
        (keyBytes path p.generation plan.filetype.mimetype plan.engines content)

/-- Whether some component of a path starts with `_`. -/
def isHidden (path : String) : Bool :=
  (Text.split '/' path).any fun part => part.toList.head? = some '_'

/-- Whether a path has a file type, and the wanted one if one is wanted. -/
def rendersTo (p : Pipeline σ) (wanted : Option String) (path : String) : Bool :=
  match p.mimetype path with
  | .ok mimetype => wanted.all (· = mimetype)
  | .error _ => false

/-- The known paths that render to some file type, or to the wanted one, sorted. -/
def paths (p : Pipeline σ) (wanted : Option String) (includeHidden : Bool) (w : World σ) :
    List String :=
  sorted <| (p.loaders.paths w).filter fun path =>
    (includeHidden || !isHidden path) && p.rendersTo wanted path

end Pipeline

end RenderChain
