/-
  RenderChain/Pipeline/Configured.lean
  ====================================
  **A builder from settings.**  The settings are validated first; then their
  engines are registered in the order of their extensions, each counting as one
  configuration call, and the default file type is set.
-/
import RenderChain.Config
import RenderChain.Engine.Builtin
import RenderChain.Pipeline.Builder

namespace RenderChain.PipelineBuilder

variable {σ : Type}

/-- Registers the named engines. -/
def registerBuiltins : List (String × String) → Configure σ Unit
  | [] => pure ()
  | (extension, name) :: rest => do
    match builtinEngine? name (.configured extension) with
    | none => throw (.unknownEngine extension name)
    | some engine => registerEngine extension engine
    registerBuiltins rest

/-- A builder with the settings of a configuration. -/
def ofConfig (c : Config) : Action σ (PipelineBuilder σ) := do
  c.validate
  let set : Configure σ Unit := do
    registerBuiltins c.engines
    match c.defaultFormat with
    | some mimetype => setDefaultFileType mimetype
    | none => pure ()
  match set (.new ⟨c.roots, c.cachedir⟩) with
  | .ok () b => return b
  | .error e _ => throw (.registration e)

end RenderChain.PipelineBuilder
