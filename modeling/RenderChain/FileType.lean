/-
  RenderChain/FileType.lean
  =========================
  **File types**: what a template renders to.

  A file type is known by its mime type.  It owns the extensions that select it,
  the globals that its templates see, and the post-processors that a rendered
  text passes in the end, in the order in which they were added.  Adding an
  extension again changes nothing; adding a global again is an error, and the
  first value stays.
-/
import RenderChain.Extension
import RenderChain.Json
import RenderChain.World

namespace RenderChain

/-- A last change to a rendered text. -/
abbrev PostProcessor (σ : Type) := String → Action σ String

structure FileType (σ : Type) where
  mimetype : String
  extensions : List String
  postprocessors : List (PostProcessor σ)
  globals : List (String × Json)

namespace FileType

variable {σ : Type}

/-- A file type without extensions, post-processors and globals. -/
def empty (mimetype : String) : FileType σ := ⟨mimetype, [], [], []⟩

/-- Passes a text through the post-processors, up to the first that fails. -/
def postprocess (ft : FileType σ) (content : String) : Action σ String :=
  ft.postprocessors.foldlM (fun text p => p text) content

/-! ## Edits -/

/-- Takes away the post-processor that was added last, and gives it. -/
def popPostprocessor : Registering (FileType σ) (Option (PostProcessor σ)) :=
  modifyGet fun ft =>
    (ft.postprocessors.getLast?, { ft with postprocessors := ft.postprocessors.dropLast })

/-- A change to a file type while a pipeline is configured. -/
inductive Edit (σ : Type)
  | addExtension (extension : String)
  | addGlobal (name : String) (value : Json)
  | addPostprocessor (p : PostProcessor σ)
  | popPostprocessor

/-- Changes a file type in place. -/
def Edit.run : Edit σ → Registering (FileType σ) Unit
  | .addExtension extension => do
    Extension.accept extension
    if extension ∉ (← get).extensions then
      modify fun ft => { ft with extensions := ft.extensions ++ [extension] }
  | .addGlobal name value => do
    let ft ← get
    if name ∈ ft.globals.map Prod.fst then throw (.duplicateGlobal ft.mimetype name)
    modify fun ft => { ft with globals := ft.globals ++ [(name, value)] }
  | .addPostprocessor p =>
    modify fun ft => { ft with postprocessors := ft.postprocessors ++ [p] }
  | .popPostprocessor => discard FileType.popPostprocessor

/-- The file type that an edit makes. -/
def edit (ft : FileType σ) (e : Edit σ) : Except RegistrationError (FileType σ) :=
  e.run.outcome ft

def addGlobal (ft : FileType σ) (name : String) (value : Json) :
    Except RegistrationError (FileType σ) :=
  ft.edit (.addGlobal name value)

end FileType

end RenderChain
