/-
  RenderChain/Engine/Registry.lean
  ================================
  **Registering engines under extensions, and building each renderer once.**

  An engine index knows the engine of each extension and the mime types for
  which renderers may be asked.  What it has built is kept in cells: `finalize`
  gives each engine a set of them, with one cell for each mime type, and an
  engine that it has met before under another extension keeps the set that it
  has.  A cell is filled by the first creation that succeeds; one that fails
  leaves the cell empty, and the next request tries again.
-/
import RenderChain.Engine
import RenderChain.Suffixes

namespace RenderChain

/-- Engines by extension, in the order of registration. -/
structure EngineRegistry (σ : Type) where
  engines : List (String × Engine σ)
  /-- No extension has two engines. -/
  nodup : (engines.map Prod.fst).Nodup

namespace EngineRegistry

variable {σ : Type}

def empty : EngineRegistry σ := ⟨[], .nil⟩

def extensions (r : EngineRegistry σ) : List String := r.engines.map Prod.fst

theorem nodup_concat {r : EngineRegistry σ} {extension : String}
    (h : extension ∉ r.extensions) (engine : Engine σ) :
    ((r.engines ++ [(extension, engine)]).map Prod.fst).Nodup := by
  rw [List.map_append, List.nodup_append]
  refine ⟨r.nodup, List.pairwise_singleton _ _, ?_⟩
  intro other hother _ hsame hequal
  rw [hequal, List.mem_singleton.1 hsame] at hother
  exact h hother

/-- Registers an engine for an extension that has none. -/
def add (extension : String) (engine : Engine σ) : Registering (EngineRegistry σ) Unit := do
  Extension.accept extension
  let r ← get
  if h : extension ∈ r.extensions then throw (.duplicateEngine extension)
  else set (⟨r.engines ++ [(extension, engine)], nodup_concat h engine⟩ : EngineRegistry σ)

/-- The registry with one engine more. -/
def register (r : EngineRegistry σ) (extension : String) (engine : Engine σ) :
    Except RegistrationError (EngineRegistry σ) :=
  (add extension engine).outcome r

end EngineRegistry

/-! ## Built renderers -/

/-- The renderers that have been built, by the number of a set of cells and mime type. -/
abbrev Cells (σ : Type) := List ((Nat × String) × Renderer σ)

/-- The state of calls that may build renderers. -/
structure Session (σ : Type) where
  cells : Cells σ
  world : World σ

/-- A computation that may also build and keep renderers. -/
abbrev Call (σ α : Type) := EStateM Error (Session σ) α

namespace Call

variable {σ α : Type}

/-- An action that leaves the cells alone. -/
def ofAction (action : Action σ α) : Call σ α := fun s =>
  match action s.world with
  | .ok a w => .ok a { s with world := w }
  | .error e w => .error e { s with world := w }

def world : Call σ (World σ) := fun s => .ok s.world s

/-- The renderer in a cell, which is filled by `create` if it is empty. -/
def inCell (cell : Nat × String) (create : Action σ (Renderer σ)) : Call σ (Renderer σ) :=
  fun s =>
    match s.cells.lookup cell with
    | some renderer => .ok renderer s
    | none =>
      match create s.world with
      | .ok renderer w => .ok renderer ⟨(cell, renderer) :: s.cells, w⟩
      | .error e w => .error e { s with world := w }

end Call

/-! ## The index -/

/-- An engine, and the number of its set of cells. -/
structure EngineSlot (σ : Type) where
  engine : Engine σ
  cells : Nat

/-- Engines by extension, and the mime types they render for. -/
structure EngineIndex (σ : Type) where
  slots : Keyed (EngineSlot σ)
  mimetypes : List String

namespace EngineIndex

variable {σ : Type}

def containsExtension (index : EngineIndex σ) (extension : String) : Bool :=
  (Keyed.find? extension index.slots).isSome

def extensions (index : EngineIndex σ) : List String := index.slots.keys

/-- The engines of a path with these segments, the last extension's engine first. -/
def resolveChain (index : EngineIndex σ) (segments : List String) : List KeyMatch :=
  chain index.containsExtension segments

/-- The renderer of an extension's engine for a file type; it is built if no
    extension of the engine has asked for it before. -/
def renderer (index : EngineIndex σ) (extension : String) (ft : FileType σ)
    (context : EngineContext) : Call σ (Renderer σ) := do
  match Keyed.find? extension index.slots with
  | none => throw (.config (.noEngine extension))
  | some slot =>
    if ft.mimetype ∈ index.mimetypes then
      Call.inCell (slot.cells, ft.mimetype) (slot.engine.createRenderer context ft)
    else throw (.config (.unregisteredFileType ft.mimetype))

end EngineIndex

/-- Gives sets of cells to engines; `known` are those that have one, each at the place
    that is the number of its set. -/
def EngineIndex.slotsFrom {σ : Type} (known : List EngineId) :
    List (String × Engine σ) → List (String × EngineSlot σ)
  | [] => []
  | (extension, engine) :: rest =>
    match known.idxOf? engine.id with
    | some number => (extension, ⟨engine, number⟩) :: slotsFrom known rest
    | none =>
      (extension, ⟨engine, known.length⟩) :: slotsFrom (known ++ [engine.id]) rest

/-- Freezes the registry, to render for the mime types. -/
def EngineRegistry.finalize {σ : Type} (r : EngineRegistry σ) (mimetypes : List String) :
    EngineIndex σ :=
  ⟨Keyed.ofList (EngineIndex.slotsFrom [] r.engines), mimetypes⟩

end RenderChain
