/-
  RenderChain/Proofs/BuiltinEngines.lean
  ======================================
  **The engines that settings can name are steady.**

  The placeholder language keeps nothing.  The template language gives each
  renderer a new number, and a renderer keeps the sources of its includes under
  that number.  Neither shows: while the files stay as they are, a kept source is
  what would be read again, and then it changes no rendering.  So renderers that
  an engine builds at different times, with other numbers and other sources kept,
  render the same.

    * `Includable`: the worlds in which nothing has been kept but what can be read;
    * `interchangeable_renderer`: renderers in such worlds, if the template language does not
      show what is kept;
    * `Jinja.language_hidesKept`: the language of this library does not;
    * `steady_builtinEngine`: an engine that settings can name builds renderers
      that render the same;
    * `answers_of_named`: the history of a pipeline does not show if its engines
      are named, and its post-processors and the caller's loaders are steady.
-/
import RenderChain.Pipeline.Configured
import RenderChain.Proofs.History
import RenderChain.Proofs.KeptSources
import RenderChain.Proofs.TemplateLaws

namespace RenderChain

variable {σ : Type} {fs : Files} {roots : List String}

/-! ## Kept sources -/

/-- With these files, all sources that have been kept would be read again. -/
structure Includable (fs : Files) (roots : List String) (w : World σ) : Prop where
  files : w.files = fs
  sources : ∀ e ∈ w.sources, fs.includeSource roots e.1.2 = .ok (some e.2)

namespace Includable

open TemplateLanguage (Kept keptBy)

theorem fixesFiles : FixesFiles (Includable fs roots : World σ → Prop) :=
  fun _ _ h h' => h.files.trans h'.files.symm

variable {w : World σ}

theorem of_new (h : w.sources = []) : Includable w.files roots w where
  files := rfl
  sources := by
    intro e he
    rw [h] at he
    cases he

theorem kept (h : Includable fs roots w) (number : Nat) :
    Kept (fs.includeSource roots) (keptBy number w.sources) := by
  intro e he
  obtain ⟨e', he', rfl⟩ := List.mem_map.1 he
  exact h.sources e' (List.mem_of_mem_filter he')

/-- A renderer may replace what it has kept by what would be read again. -/
theorem keep (h : Includable fs roots w) {sources : List (String × String)}
    (hsources : Kept (fs.includeSource roots) sources) (number : Nat) :
    Includable fs roots { w with
      sources := sources.map (fun e => ((number, e.1), e.2)) ++
        w.sources.filter (·.1.1 ≠ number) } where
  files := h.files
  sources := by
    intro e he
    rcases List.mem_append.1 he with hown | hother
    · obtain ⟨e', he', rfl⟩ := List.mem_map.1 hown
      exact hsources e' he'
    · exact h.sources e (List.mem_of_mem_filter hother)

end Includable

/-! ## Renderers -/

namespace TemplateLanguage

variable {L : TemplateLanguage}

/-- A rendering, and what is kept after it, by what the files are. -/
theorem renderSource_apply {number : Nat} {env : L.Environment} {name source : String}
    {vars : Variables} {w : World σ} (h : w.files = fs) :
    L.renderSource number env roots name source vars w =
      let (result, kept) := L.render env (fs.includeSource roots) (keptBy number w.sources) name
        source vars
      let w' := { w with
        sources := kept.map (fun e => ((number, e.1), e.2)) ++
          w.sources.filter (·.1.1 ≠ number) }
      match result with
      | .ok text => .ok text w'
      | .error fault => .error fault.toError w' := by
  subst h
  rfl

/-- The number under which sources are kept does not matter, and neither do they. -/
theorem agree_renderSource (hhides : L.HidesKept) (env : L.Environment) (name source : String)
    (vars : Variables) (number number' : Nat) :
    Agree (Both (Includable fs roots : World σ → Prop)) Eq
      (L.renderSource number env roots name source vars)
      (L.renderSource number' env roots name source vars) := by
  rintro w w' ⟨h, h'⟩
  rw [renderSource_apply h.files, renderSource_apply h'.files]
  have hkept := h.kept number
  have hkept' := h'.kept number'
  obtain ⟨hsame, hafter⟩ := hhides env hkept hkept' name source vars
  obtain ⟨-, hafter'⟩ := hhides env hkept' hkept name source vars
  generalize L.render env _ (keptBy number w.sources) name source vars = out at hsame hafter ⊢
  generalize L.render env _ (keptBy number' w'.sources) name source vars = out'
    at hsame hafter' ⊢
  obtain ⟨result, sources⟩ := out
  obtain ⟨result', sources'⟩ := out'
  obtain rfl : result = result' := hsame
  cases result with
  | ok text => exact .ok rfl ⟨h.keep hafter number, h'.keep hafter' number'⟩
  | error fault => exact .error ⟨h.keep hafter number, h'.keep hafter' number'⟩

theorem interchangeable_renderer (hhides : L.HidesKept) (env : L.Environment) (embedding : Bool)
    (number number' : Nat) :
    (L.renderer number env roots embedding : Renderer σ).Interchangeable (Includable fs roots)
      (L.renderer number' env roots embedding) where
  renderString content vars path := agree_renderSource hhides env _ _ vars number number'
  renderFile file vars path := by
    refine (Includable.fixesFiles.readText file).bind_eq ?_
    intro source
    exact agree_renderSource hhides env _ _ vars number number'

/-- Engines over the language, with the caller's steady change to environments or with
    none. -/
theorem agree_createRenderer (hhides : L.HidesKept) (id : EngineId) {settings : L.Settings σ}
    (hconfigure : ∀ configure, settings.configure = some configure → ∀ ft env,
      Steady (Includable fs roots) (configure ft env))
    {context : EngineContext} (hroots : context.roots = roots) (ft : FileType σ) :
    Agree (Both (Includable fs roots)) (Renderer.Interchangeable (Includable fs roots))
      ((L.engine id settings).createRenderer context ft)
      ((L.engine id settings).createRenderer context ft) := by
  subst hroots
  have hnumber : Agree (Both (Includable fs context.roots : World σ → Prop))
      (fun _ _ => True) Action.freshNumber Action.freshNumber :=
    fun w w' h => .ok trivial ⟨⟨h.1.files, h.1.sources⟩, ⟨h.2.files, h.2.sources⟩⟩
  have henvironment : Steady (Includable fs context.roots) (settings.environment ft) := by
    unfold Settings.environment
    cases hchange : settings.configure with
    | none => exact .pure rfl
    | some configure => exact hconfigure configure hchange ft _
  refine hnumber.bind ?_
  intro number number' _
  refine henvironment.bind_eq ?_
  intro env
  exact .pure (interchangeable_renderer hhides env _ number number')

end TemplateLanguage

namespace Jinja

theorem kept_sourceOf_iff {includes : Includes} {sources : List (String × String)} :
    Kept (sourceOf includes) sources ↔ TemplateLanguage.Kept includes sources := by
  refine forall₂_congr fun e _ => ?_
  unfold sourceOf
  cases includes e.1 <;> simp [Except.mapError]

theorem language_hidesKept : language.HidesKept := by
  intro env includes kept kept' h h' name source vars
  obtain ⟨hsame, hafter⟩ := render_of_kept env (kept_sourceOf_iff.2 h) (kept_sourceOf_iff.2 h')
    name source (valuesOf vars)
  exact ⟨congrArg (·.mapError Fault.toTemplateFault) hsame, kept_sourceOf_iff.1 hafter⟩

end Jinja

/-! ## Named engines -/

theorem builtinEngine?_id {name : String} {id : EngineId} {engine : Engine σ}
    (h : builtinEngine? name id = some engine) : engine.id = id := by
  unfold builtinEngine? at h
  split at h
  · obtain rfl := Option.some.inj h
    rfl
  · split at h
    · obtain rfl := Option.some.inj h
      rfl
    · cases h

/-- An engine that settings can name builds renderers that render the same. -/
theorem steady_builtinEngine {name : String} {id : EngineId} {engine : Engine σ}
    (h : builtinEngine? name id = some engine) (context : EngineContext) (ft : FileType σ) :
    Agree (Both (Includable fs context.roots))
      (Renderer.Interchangeable (Includable fs context.roots))
      (engine.createRenderer context ft) (engine.createRenderer context ft) := by
  unfold builtinEngine? at h
  split at h
  · obtain rfl := Option.some.inj h
    refine TemplateLanguage.agree_createRenderer Jinja.language_hidesKept id ?_ rfl ft
    intro configure hconfigure
    cases hconfigure
  · split at h
    · obtain rfl := Option.some.inj h
      refine .pure (Renderer.interchangeable_ofString Includable.fixesFiles ?_ _ _)
      intro content vars path
      exact Steady.ofExcept _
    · cases h

/-! ## Builders from settings -/

namespace PipelineBuilder

/-- A call that registers no engine, or one under the identity that settings give it. -/
def Step.IsNamed : Step σ → Prop
  | .registerEngine extension engine =>
    ∃ name, builtinEngine? name (.configured extension) = some engine
  | _ => True

theorem exists_steps_of_registerBuiltins {named : List (String × String)}
    {b b' : PipelineBuilder σ} (h : registerBuiltins named b = .ok () b') :
    ∃ steps : List (Step σ), (∀ step ∈ steps, step.IsNamed) ∧ steps.foldl after b = b' := by
  induction named generalizing b with
  | nil =>
    cases h
    exact ⟨[], fun step hstep => absurd hstep List.not_mem_nil, rfl⟩
  | cons entry rest ih =>
    obtain ⟨extension, name⟩ := entry
    unfold registerBuiltins at h
    cases hengine : (builtinEngine? name (.configured extension) : Option (Engine σ)) with
    | none =>
      rw [hengine] at h
      cases h
    | some engine =>
      rw [hengine] at h
      obtain ⟨⟨⟩, b₁, hregister, hrest⟩ := bind_eq_ok_iff.1 h
      obtain ⟨steps, hsteps, hrun⟩ := ih hrest
      have hafter : b.after (.registerEngine extension engine) = b₁ := after_of_ok hregister
      refine ⟨.registerEngine extension engine :: steps, ?_, ?_⟩
      · rintro step (_ | ⟨_, hstep⟩)
        · exact ⟨name, hengine⟩
        · exact hsteps step hstep
      · rw [List.foldl_cons, hafter, hrun]

/-- Settings only stand for configuration calls. -/
theorem exists_steps_of_ofConfig {c : Config} {b : PipelineBuilder σ} {w w' : World σ}
    (h : ofConfig c w = .ok b w') :
    ∃ steps : List (Step σ), (∀ step ∈ steps, step.IsNamed) ∧
      steps.foldl after (.new ⟨c.roots, c.cachedir⟩) = b := by
  unfold ofConfig at h
  obtain ⟨⟨⟩, w₁, -, h⟩ := bind_eq_ok_iff.1 h
  cases hengines : registerBuiltins c.engines
      (.new ⟨c.roots, c.cachedir⟩ : PipelineBuilder σ) with
  | error fault b₂ =>
    rw [bind_of_error hengines] at h
    cases h
  | ok _ b₂ =>
    rw [bind_of_ok hengines] at h
    obtain ⟨steps, hsteps, hrun⟩ := exists_steps_of_registerBuiltins hengines
    cases hformat : c.defaultFormat with
    | none =>
      rw [hformat] at h
      cases h
      exact ⟨steps, hsteps, hrun⟩
    | some mimetype =>
      rw [hformat] at h
      cases h
      refine ⟨steps ++ [.setDefaultFileType mimetype], ?_, ?_⟩
      · intro step hstep
        rcases List.mem_append.1 hstep with hearlier | hlast
        · exact hsteps step hearlier
        · rw [List.mem_singleton.1 hlast]
          trivial
      · rw [List.foldl_append, hrun]
        rfl

end PipelineBuilder

theorem Configured.ofConfig {c : Config} {b : PipelineBuilder σ} {w w' : World σ}
    (h : PipelineBuilder.ofConfig c w = .ok b w') : Configured b := by
  obtain ⟨steps, -, hrun⟩ := PipelineBuilder.exists_steps_of_ofConfig h
  rw [← hrun]
  exact (Configured.new _).foldl steps

/-! ## Pipelines with named engines -/

namespace PipelineBuilder

/-- All engines of a builder are engines that settings can name. -/
def HasNamedEngines (b : PipelineBuilder σ) : Prop :=
  ∀ e ∈ b.engines.engines, ∃ name, builtinEngine? name (.configured e.1) = some e.2

theorem HasNamedEngines.after {b : PipelineBuilder σ} (h : b.HasNamedEngines) {step : Step σ}
    (hstep : step.IsNamed) : (b.after step).HasNamedEngines := by
  intro e he
  rcases b.engines_after step with hsame | ⟨extension, engine, rfl, hadded⟩
  · rw [hsame] at he
    exact h e he
  · rw [hadded] at he
    rcases List.mem_append.1 he with hold | hnew
    · exact h e hold
    · rw [List.mem_singleton.1 hnew]
      exact hstep

theorem HasNamedEngines.foldl {steps : List (Step σ)} (hsteps : ∀ step ∈ steps, step.IsNamed)
    {b : PipelineBuilder σ} (h : b.HasNamedEngines) :
    (steps.foldl PipelineBuilder.after b).HasNamedEngines := by
  induction steps generalizing b with
  | nil => exact h
  | cons step rest ih =>
    refine ih ?_ (h.after (hsteps step List.mem_cons_self))
    exact fun later hlater => hsteps later (List.mem_cons_of_mem _ hlater)

theorem HasNamedEngines.ofConfig {c : Config} {b : PipelineBuilder σ} {w w' : World σ}
    (h : ofConfig c w = .ok b w') : b.HasNamedEngines := by
  obtain ⟨steps, hsteps, hrun⟩ := exists_steps_of_ofConfig h
  rw [← hrun]
  refine foldl hsteps ?_
  exact fun e he => absurd he List.not_mem_nil

end PipelineBuilder

namespace Pipeline

variable {b : PipelineBuilder σ} {p : Pipeline σ}

/-- Named engines, steady post-processors and steady loaders make a steady pipeline. -/
theorem isSteady_of_named (hb : b.Finalized p) (hnamed : b.HasNamedEngines)
    (hpost : ∀ ft ∈ b.filetypes.types, ∀ post ∈ ft.postprocessors, ∀ text,
      Steady (Includable fs p.context.roots) (post text))
    (hloaders : ∀ l ∈ p.loaders.all, ∀ own ∈ l.customs,
      own.IsSteady (Includable fs p.context.roots)) :
    p.IsSteady (Includable fs p.context.roots) where
  files := Includable.fixesFiles
  identity := by
    -- Settings give engines the identity of their extension, so this is one slot.
    intro key key' slot slot' hslot hslot' hid
    rw [hb.engines] at hslot hslot'
    obtain ⟨name, hname⟩ := hnamed _ (EngineIndex.mem_engines hslot)
    obtain ⟨name', hname'⟩ := hnamed _ (EngineIndex.mem_engines hslot')
    rw [builtinEngine?_id hname, builtinEngine?_id hname'] at hid
    obtain rfl : key = key' := EngineId.configured.inj hid
    obtain rfl : slot = slot' := Option.some.inj (hslot.symm.trans hslot')
    rfl
  engines := by
    intro key slot ft hslot _
    rw [hb.engines] at hslot
    obtain ⟨name, hname⟩ := hnamed _ (EngineIndex.mem_engines hslot)
    exact steady_builtinEngine hname p.context ft
  postprocessors := by
    intro mimetype ft hft
    exact hpost ft (hb.filetypes.mem_of_find? hft).1
  loaders := hloaders

/-- **Named engines hide their history.**  In a world in which no source has been kept but
    what the files hold, questions to a pipeline with named engines get the answers that
    each would get as the first one, in a world with the same files and nothing kept. -/
theorem answers_of_named (hb : Configured b) (hnamed : b.HasNamedEngines)
    (h : b.finalize = .ok p) {w w' : World σ} (hw : Includable w'.files p.context.roots w)
    (hw' : w'.sources = [])
    (hpost : ∀ ft ∈ b.filetypes.types, ∀ post ∈ ft.postprocessors, ∀ text,
      Steady (Includable w'.files p.context.roots) (post text))
    (hloaders : ∀ l ∈ p.loaders.all, ∀ own ∈ l.customs,
      own.IsSteady (Includable w'.files p.context.roots))
    (queries : List Query) :
    p.answers queries ⟨[], w⟩ = queries.map fun q => seen (p.ask q ⟨[], w'⟩) := by
  have hfinal := PipelineBuilder.finalized h
  have hsteady := isSteady_of_named hfinal hnamed hpost hloaders
  exact answers_of_ready hfinal hb.nodup_mimetypes hsteady queries (p.ready_empty hw)
    (p.ready_empty (.of_new hw'))

end Pipeline

end RenderChain
