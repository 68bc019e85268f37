/-
  RenderChain/Proofs/Calls.lean
  =============================
  **What a configuration call does to each part of a builder.**

  Builders are changed by configuration calls, of which some are refused.  A call
  concerns one of the registries and leaves the others alone, so a builder after a
  call can be written down part by part (`after_eq`); a refused call is one that
  changes no part.  What the caller gets, the `outcome`, depends on the same registry
  only (`outcome_eq`).  How the count goes on is said by `isCounted`.

    * `Step`: a configuration call;
    * `Configured`: the builders that configuration calls can make;
    * `filetypes_after`, `engines_after`, `generation_after`: what the parts can
      become.
-/
import RenderChain.Pipeline.Builder
import RenderChain.Proofs.Agreement
import RenderChain.Proofs.Registering

namespace RenderChain

variable {σ : Type}

/-! ## Configuration calls -/

namespace PipelineBuilder

/-- A configuration call with what it is given. -/
inductive Step (σ : Type)
  | filetype (mimetype : String)
  | editFileType (mimetype : String) (e : FileType.Edit σ)
  | editLoaders (extension : String) (change : List (Loader σ) → List (Loader σ))
  | setDefaultLoader (loader : Loader σ)
  | registerEngine (extension : String) (engine : Engine σ)
  | setDefaultFileType (mimetype : String)

def Step.run : Step σ → Configure σ Unit
  | .filetype mimetype => discard (PipelineBuilder.filetype mimetype)
  | .editFileType mimetype e => PipelineBuilder.editFileType mimetype e
  | .editLoaders extension change => PipelineBuilder.editLoaders extension change
  | .setDefaultLoader loader => PipelineBuilder.setDefaultLoader loader
  | .registerEngine extension engine => PipelineBuilder.registerEngine extension engine
  | .setDefaultFileType mimetype => PipelineBuilder.setDefaultFileType mimetype

/-- The builder after a call, whether or not the call was refused. -/
def after (b : PipelineBuilder σ) (step : Step σ) : PipelineBuilder σ :=
  match step.run b with
  | .ok _ b' => b'
  | .error _ b' => b'

end PipelineBuilder

open PipelineBuilder (Step)

/-- A builder that configuration calls can make. -/
inductive Configured : PipelineBuilder σ → Prop
  | new (context : EngineContext) : Configured (.new context)
  | step {b : PipelineBuilder σ} (h : Configured b) (step : Step σ) : Configured (b.after step)

theorem Configured.foldl {b : PipelineBuilder σ} (h : Configured b) (steps : List (Step σ)) :
    Configured (steps.foldl PipelineBuilder.after b) := by
  induction steps generalizing b with
  | nil => exact h
  | cons step rest ih => exact ih (h.step step)

namespace PipelineBuilder

/-! ## What a call does -/

section Calls

variable (b : PipelineBuilder σ)

theorem count_apply : count b = .ok () { b with generation := b.generation + 1 } := rfl

theorem filetype_apply (mimetype : String) :
    filetype mimetype b = .ok (b.filetypes.getOrEmpty mimetype)
      { b with filetypes := b.filetypes.ensure mimetype, generation := b.generation + 1 } :=
  (bind_of_ok (count_apply b)).trans
    (Registering.onPart_of_ok (FileTypeRegistry.request_apply b.filetypes mimetype))

theorem run_filetype (mimetype : String) :
    (Step.filetype mimetype).run b = .ok ()
      { b with filetypes := b.filetypes.ensure mimetype, generation := b.generation + 1 } :=
  bind_of_ok (filetype_apply b mimetype)

theorem editFileType_apply (mimetype : String) (e : FileType.Edit σ) :
    editFileType mimetype e b =
      match b.filetypes.edit mimetype e with
      | .ok filetypes => .ok () { b with filetypes := filetypes }
      | .error fault => .error fault b := by
  unfold editFileType FileTypeRegistry.edit
  rw [(FileTypeRegistry.quits_change mimetype e).onPart_apply]
  cases (FileTypeRegistry.change mimetype e).outcome b.filetypes <;> rfl

/-- A refused change of loaders is counted. -/
theorem editLoaders_apply (extension : String)
    (change : List (Loader σ) → List (Loader σ)) :
    editLoaders extension change b =
      match b.loaders.edit extension change with
      | .ok loaders => .ok () { b with loaders := loaders, generation := b.generation + 1 }
      | .error fault => .error fault { b with generation := b.generation + 1 } := by
  unfold editLoaders LoaderRegistry.edit
  rw [bind_of_ok (count_apply b), (LoaderRegistry.quits_change extension change).onPart_apply]
  cases (LoaderRegistry.change extension change).outcome b.loaders <;> rfl

/-- A refused engine is not counted. -/
theorem registerEngine_apply (extension : String) (engine : Engine σ) :
    registerEngine extension engine b =
      match b.engines.register extension engine with
      | .ok engines => .ok () { b with engines := engines, generation := b.generation + 1 }
      | .error fault => .error fault b := by
  have hadd := (EngineRegistry.quits_add extension engine).apply_eq b.engines
  unfold EngineRegistry.register
  cases houtcome : (EngineRegistry.add extension engine).outcome b.engines with
  | ok engines =>
    rw [houtcome] at hadd
    exact bind_of_ok (Registering.onPart_of_ok hadd)
  | error fault =>
    rw [houtcome] at hadd
    exact bind_of_error (Registering.onPart_of_error hadd)

end Calls

theorem after_of_ok {b b' : PipelineBuilder σ} {step : Step σ} (h : step.run b = .ok () b') :
    b.after step = b' := by
  unfold after
  rw [h]

/-! ## Parts of a builder -/

/-- Whether a configuration call is counted.  An edit of a file type is not, because the call
    that asked for the file type has been; and neither is an engine that is refused. -/
def isCounted (b : PipelineBuilder σ) : Step σ → Bool
  | .editFileType _ _ => false
  | .registerEngine extension engine => (b.engines.register extension engine).isOk
  | .filetype _ | .editLoaders _ _ | .setDefaultLoader _ | .setDefaultFileType _ => true

namespace Step

/-- The file types after a call. -/
def onFiletypes (r : FileTypeRegistry σ) : Step σ → FileTypeRegistry σ
  | .filetype mimetype => r.ensure mimetype
  | .editFileType mimetype e => (r.edit mimetype e).toOption.getD r
  | .editLoaders _ _ | .setDefaultLoader _ | .registerEngine _ _ | .setDefaultFileType _ => r

/-- The loaders after a call. -/
def onLoaders (r : LoaderRegistry σ) : Step σ → LoaderRegistry σ
  | .editLoaders extension change => (r.edit extension change).toOption.getD r
  | .setDefaultLoader loader => r.setDefault loader
  | .filetype _ | .editFileType _ _ | .registerEngine _ _ | .setDefaultFileType _ => r

/-- The engines after a call. -/
def onEngines (r : EngineRegistry σ) : Step σ → EngineRegistry σ
  | .registerEngine extension engine => (r.register extension engine).toOption.getD r
  | .filetype _ | .editFileType _ _ | .editLoaders _ _ | .setDefaultLoader _
  | .setDefaultFileType _ => r

/-- The mime type of the default file type after a call. -/
def onDefault (default : Option String) : Step σ → Option String
  | .setDefaultFileType mimetype => some mimetype
  | .filetype _ | .editFileType _ _ | .editLoaders _ _ | .setDefaultLoader _
  | .registerEngine _ _ => default

end Step

theorem after_eq (b : PipelineBuilder σ) (step : Step σ) :
    b.after step =
      { context := b.context
        defaultFileType := step.onDefault b.defaultFileType
        loaders := step.onLoaders b.loaders
        filetypes := step.onFiletypes b.filetypes
        engines := step.onEngines b.engines
        generation := b.generation + if b.isCounted step then 1 else 0 } := by
  unfold after
  cases step with
  | filetype mimetype =>
    rw [run_filetype]
    rfl
  | editFileType mimetype e =>
    rw [Step.run, editFileType_apply, Step.onFiletypes]
    cases b.filetypes.edit mimetype e <;> rfl
  | editLoaders extension change =>
    rw [Step.run, editLoaders_apply, Step.onLoaders]
    cases b.loaders.edit extension change <;> rfl
  | setDefaultLoader loader => rfl
  | registerEngine extension engine =>
    have hcounted : b.isCounted (.registerEngine extension engine) =
        (b.engines.register extension engine).isOk := rfl
    rw [Step.run, registerEngine_apply, Step.onEngines, hcounted]
    cases b.engines.register extension engine <;> rfl
  | setDefaultFileType mimetype => rfl

/-- A call leaves the file types alone or sets one of them. -/
theorem filetypes_after (b : PipelineBuilder σ) (step : Step σ) :
    (b.after step).filetypes = b.filetypes ∨
      ∃ ft, (b.after step).filetypes = b.filetypes.put ft := by
  rw [after_eq]
  cases step with
  | filetype mimetype => exact .inr ⟨_, rfl⟩
  | editFileType mimetype e =>
    dsimp only [Step.onFiletypes]
    rw [FileTypeRegistry.edit_eq]
    cases (b.filetypes.getOrEmpty mimetype).edit e with
    | ok ft => exact .inr ⟨ft, rfl⟩
    | error fault => exact .inl rfl
  | editLoaders | setDefaultLoader | registerEngine | setDefaultFileType => exact .inl rfl

/-- A call leaves the engines alone or adds the one that it registers. -/
theorem engines_after (b : PipelineBuilder σ) (step : Step σ) :
    (b.after step).engines = b.engines ∨
      ∃ extension engine, step = .registerEngine extension engine ∧
        (b.after step).engines.engines = b.engines.engines ++ [(extension, engine)] := by
  rw [after_eq]
  cases step with
  | registerEngine extension engine =>
    dsimp only [Step.onEngines]
    cases hregister : b.engines.register extension engine with
    | error fault => exact .inl rfl
    | ok engines =>
      exact .inr ⟨extension, engine, rfl, EngineRegistry.engines_of_register hregister⟩
  | filetype | editFileType | editLoaders | setDefaultLoader | setDefaultFileType =>
    exact .inl rfl

theorem generation_after (b : PipelineBuilder σ) (step : Step σ) :
    (b.after step).generation = b.generation + if b.isCounted step then 1 else 0 := by
  rw [after_eq]

theorem context_foldl_after (b : PipelineBuilder σ) (steps : List (Step σ)) :
    (steps.foldl after b).context = b.context := by
  induction steps generalizing b with
  | nil => rfl
  | cons step rest ih => rw [List.foldl_cons, ih, after_eq]

/-! ## Outcomes -/

/-- What an accepted call hands to its caller. -/
inductive Shown (σ : Type)
  /-- The file type that was asked for, or changed. -/
  | filetype (ft : FileType σ)
  /-- The chain of loaders, as the caller gets it in order to change it. -/
  | chain (loaders : List (Loader σ))
  | nothing

/-- What the caller of an accepted call gets. -/
def Step.shown (b : PipelineBuilder σ) (step : Step σ) : Shown σ :=
  match step with
  | .filetype mimetype | .editFileType mimetype _ =>
    .filetype ((b.after step).filetypes.getOrEmpty mimetype)
  | .editLoaders extension _ => .chain (b.loaders.chainOf extension)
  | .setDefaultLoader _ | .registerEngine _ _ | .setDefaultFileType _ => .nothing

/-- What the caller gets, also of a call that is refused. -/
def Step.outcome (b : PipelineBuilder σ) (step : Step σ) : Except RegistrationError (Shown σ) :=
  (seen (step.run b)).map fun _ => step.shown b

theorem Step.outcome_eq (b : PipelineBuilder σ) (step : Step σ) :
    step.outcome b =
      match step with
      | .filetype mimetype => .ok (.filetype ((b.filetypes.ensure mimetype).getOrEmpty mimetype))
      | .editFileType mimetype e =>
        (b.filetypes.edit mimetype e).map fun r => .filetype (r.getOrEmpty mimetype)
      | .editLoaders extension change =>
        (b.loaders.edit extension change).map fun _ => .chain (b.loaders.chainOf extension)
      | .registerEngine extension engine =>
        (b.engines.register extension engine).map fun _ => .nothing
      | .setDefaultLoader _ | .setDefaultFileType _ => .ok .nothing := by
  unfold Step.outcome
  cases step with
  | filetype mimetype =>
    rw [run_filetype, Step.shown, after_eq]
    rfl
  | editFileType mimetype e =>
    have hafter : (b.after (.editFileType mimetype e)).filetypes =
        (b.filetypes.edit mimetype e).toOption.getD b.filetypes := by rw [after_eq]; rfl
    dsimp only
    rw [Step.shown, hafter, Step.run, editFileType_apply]
    cases b.filetypes.edit mimetype e <;> rfl
  | editLoaders extension change =>
    dsimp only
    rw [Step.run, editLoaders_apply]
    cases b.loaders.edit extension change <;> rfl
  | setDefaultLoader loader => rfl
  | registerEngine extension engine =>
    dsimp only
    rw [Step.run, registerEngine_apply]
    cases b.engines.register extension engine <;> rfl
  | setDefaultFileType mimetype => rfl

/-- The outcomes of calls that are made one after the other. -/
def outcomes : PipelineBuilder σ → List (Step σ) → List (Except RegistrationError (Shown σ))
  | _, [] => []
  | b, step :: rest => step.outcome b :: (b.after step).outcomes rest

end PipelineBuilder

end RenderChain
