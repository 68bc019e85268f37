/-
  RenderChain/World.lean
  ======================
  **What rendering reads and changes.**

  Loaders, renderers and post-processors are actions: they may fail with an
  `Error`, they read the files, and they may keep something for later.  What is
  kept is part of the `World`: the template sources that renderers have read,
  the number of renderers made so far, and a state `σ` of the caller's own, for
  loaders, engines and post-processors that the caller supplies.

  A failing action keeps the changes it made before it failed.
-/
import RenderChain.Files.Basic

namespace RenderChain

/-- The state that actions share. -/
structure World (σ : Type) where
  files : Files
  /-- Sources that were read for includes, by renderer number and template name. -/
  sources : List ((Nat × String) × String)
  /-- How many renderers have been numbered. -/
  numbered : Nat
  own : σ

/-- A computation that reads and changes a world and may fail. -/
abbrev Action (σ α : Type) := EStateM Error (World σ) α

namespace Action

variable {σ α : Type}

def files : Action σ Files := do return (← get).files

/-- A result that does not depend on the world. -/
def ofExcept : Except Error α → Action σ α
  | .ok a => pure a
  | .error e => throw e

/-- A number that no earlier renderer has. -/
def freshNumber : Action σ Nat := fun w => .ok w.numbered { w with numbered := w.numbered + 1 }

/-- The result of `first`, or of `second` if `first` found no template. -/
def orIfNotFound (first second : Action σ α) : Action σ α := fun w =>
  match first w with
  | .ok a w' => .ok a w'
  | .error e w' => if e.isNotFound then second w' else .error e w'

/-- Whether `action` succeeds. -/
def succeeds (action : Action σ α) : Action σ Bool := fun w =>
  match action w with
  | .ok _ w' => .ok true w'
  | .error _ w' => .ok false w'

/-- The text of a file. -/
def readText (path : String) : Action σ String := do
  match (← files).readText path with
  | .ok text => return text
  | .error fault => throw (.io path fault)

/-- The bytes of a file. -/
def readBytes (path : String) : Action σ ByteArray := do
  match (← files).readBytes path with
  | .ok bytes => return bytes
  | .error fault => throw (.io path fault)

end Action

end RenderChain
