/-
  RenderChain/Engine.lean
  =======================
  **Engines and the renderers they build.**

  An engine renders nothing itself: for each file type it builds a renderer, so
  that it can, for instance, escape in HTML and not in CSS.  Engines and
  renderers have an identity, because one engine may serve several extensions
  and then builds one renderer for all of them.
-/
import RenderChain.FileType

namespace RenderChain

/-- What every engine is told when it builds a renderer. -/
structure EngineContext where
  roots : List String
  cachedir : Option String
  deriving DecidableEq, Repr

/-- Tells engines apart. -/
inductive EngineId
  /-- An engine that the caller numbered. -/
  | numbered (n : Nat)
  /-- The engine that a configuration names for an extension. -/
  | configured (extension : String)
  deriving DecidableEq, Repr

/-- Tells renderers apart. -/
inductive RendererId
  | numbered (n : Nat)
  /-- The one renderer of an engine that never builds another. -/
  | onlyOf (engine : EngineId)
  deriving DecidableEq, Repr

/-- Renders for one file type.  The path that goes with a template is the name
    under which errors report it. -/
structure Renderer (σ : Type) where
  id : RendererId
  renderString : (content : String) → Variables → (path : Option String) → Action σ String
  renderFile : (file : String) → Variables → (path : Option String) → Action σ String

/-- A renderer that renders a file by rendering its text. -/
def Renderer.ofString {σ : Type} (id : RendererId)
    (renderString : String → Variables → Option String → Action σ String) : Renderer σ where
  id := id
  renderString := renderString
  renderFile := fun file vars path => do
    renderString (← Action.readText file) vars path

structure Engine (σ : Type) where
  id : EngineId
  createRenderer : EngineContext → FileType σ → Action σ (Renderer σ)

end RenderChain
