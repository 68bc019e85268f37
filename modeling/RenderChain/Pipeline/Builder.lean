/-
  RenderChain/Pipeline/Builder.lean
  =================================
  **Configuring a pipeline.**

  A builder holds the three registries.  Every configuration call is counted,
  because the count is part of the cache keys: a call that changes loaders
  counts even if it is refused, a call that registers an engine counts only if
  it is accepted.  `finalize` checks that the parts fit together.
-/
import RenderChain.Pipeline

namespace RenderChain

structure PipelineBuilder (σ : Type) where
  context : EngineContext
  defaultFileType : Option String
  loaders : LoaderRegistry σ
  filetypes : FileTypeRegistry σ
  engines : EngineRegistry σ
  generation : Nat

/-- A configuration call; one that is refused may still have been counted. -/
abbrev Configure (σ α : Type) := Registering (PipelineBuilder σ) α

namespace PipelineBuilder

variable {σ : Type}

/-- Nothing is registered yet; root folders in the context make chains of
    loaders start with their files. -/
def new (context : EngineContext) : PipelineBuilder σ :=
  ⟨context, none, .empty context.roots, .empty, .empty, 0⟩

def count : Configure σ Unit := modify fun b => { b with generation := b.generation + 1 }

/-- The file type of a mime type; it is registered if it was not. -/
def filetype (mimetype : String) : Configure σ (FileType σ) := do
  count
  Registering.onPart (·.filetypes) (fun b filetypes => { b with filetypes := filetypes })
    (FileTypeRegistry.request mimetype)

/-- Changes a file type that was asked for before. -/
def editFileType (mimetype : String) (e : FileType.Edit σ) : Configure σ Unit :=
  Registering.onPart (·.filetypes) (fun b filetypes => { b with filetypes := filetypes })
    (FileTypeRegistry.change mimetype e)

/-- Changes the chain of loaders of an extension. -/
def editLoaders (extension : String) (change : List (Loader σ) → List (Loader σ)) :
    Configure σ Unit := do
  count
  Registering.onPart (·.loaders) (fun b loaders => { b with loaders := loaders })
    (LoaderRegistry.change extension change)

/-- Adds a loader at the end of the chain of an extension. -/
def addLoader (extension : String) (loader : Loader σ) : Configure σ Unit :=
  editLoaders extension (· ++ [loader])

/-- Sets the loader of the paths without a loader key. -/
def setDefaultLoader (loader : Loader σ) : Configure σ Unit := do
  count
  modify fun b => { b with loaders := b.loaders.setDefault loader }

/-- Registers an engine for an extension. -/
def registerEngine (extension : String) (engine : Engine σ) : Configure σ Unit := do
  Registering.onPart (·.engines) (fun b engines => { b with engines := engines })
    (EngineRegistry.add extension engine)
  count

/-- Sets the file type of the paths that no extension gives one. -/
def setDefaultFileType (mimetype : String) : Configure σ Unit := do
  count
  modify fun b => { b with defaultFileType := some mimetype }

/-- Freezes the configuration. -/
def finalize (b : PipelineBuilder σ) : Except RegistrationError (Pipeline σ) := do
  if b.filetypes.types.isEmpty then
    match b.engines.extensions with
    | extension :: _ => throw (.engineWithoutFileTypes extension)
    | [] => pure ()
  let filetypes ← b.filetypes.finalize b.defaultFileType
  let engines := b.engines.finalize b.filetypes.mimetypes
  let loaders := b.loaders.finalize (b.filetypes.extensions ++ b.engines.extensions)
  return ⟨b.context, loaders, filetypes, engines, b.generation⟩

end PipelineBuilder

end RenderChain
