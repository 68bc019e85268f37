/-
  RenderChain/Proofs/LoaderKey.lean
  =================================
  **What the key of a loader decides besides the loader.**

  A loader is selected by a key of the path, and this key has a second use: if
  the path ends in no engine key, engines and file type are sought in front of
  it.  So loaders can change what is rendered, but only of paths that end in no
  engine key.  A text that is rendered without loaders has no such key, and its
  path is always read as a whole.

    * `plan_output`: file type and engines of a plan are those of the segments
      and the loader key;
    * `output_of_endsInKey`: of a path that ends in an engine key, no loader
      changes them;
    * `keyIdle_iff`: when the key has changed neither of them;
    * `render_eq_renderContent`: then a text is rendered as if it had been loaded;
    * `renderContent_misses_engine`: else it may not be.
-/
import RenderChain.Proofs.Configuration
import RenderChain.Proofs.Execution

namespace RenderChain

open PipelineBuilder (Step)

variable {σ : Type}

/-! ## The output of a plan -/

/-- What a plan says about the output of its path: all but the loader and its key. -/
def Plan.output (plan : Plan σ) : FileType σ × Option String × List String :=
  (plan.filetype, plan.filetypeKey, plan.engines)

namespace Pipeline

/-- The output of a path with these segments, given the match of its loader. -/
def outputOf (p : Pipeline σ) (segments : List String) (loaderMatch : Option KeyMatch) :
    Option (FileType σ × Option String × List String) :=
  let found := p.chainOf segments loaderMatch
  (p.filetypeOf (before found.2 (consumedBy found.1)) segments).map fun choice =>
    (choice.1, choice.2, found.1.map (·.key))

/-- The match of the loader of a path, if the path is given one. -/
def matchOf (p : Pipeline σ) (s : Suffixes) (useLoader : Bool) : Option KeyMatch :=
  if useLoader then (p.loaderOf s).2 else none

section Output

variable {p : Pipeline σ} {path : String} {useLoader : Bool} {plan : Plan σ}

/-- All that a plan takes from its loader, for the output, is the match. -/
theorem plan_output (p : Pipeline σ) (path : String) (useLoader : Bool) :
    (p.plan path useLoader).map Plan.output =
      match p.outputOf (Suffixes.parse path).segments
        (p.matchOf (Suffixes.parse path) useLoader) with
      | none => .error (.templateNotFound path)
      | some output => .ok output := by
  have hmatch : (if useLoader then p.loaderOf (Suffixes.parse path) else (none, none)).2 =
      p.matchOf (Suffixes.parse path) useLoader := by
    unfold matchOf
    split <;> rfl
  unfold plan outputOf
  dsimp only
  rw [hmatch]
  generalize p.chainOf (Suffixes.parse path).segments _ = found
  cases p.filetypeOf (before found.2 (consumedBy found.1)) (Suffixes.parse path).segments with
  | none => rfl
  | some choice => rfl

theorem outputOf_of_plan (h : p.plan path useLoader = .ok plan) :
    p.outputOf (Suffixes.parse path).segments (p.matchOf (Suffixes.parse path) useLoader) =
      some plan.output := by
  have houtput := plan_output p path useLoader
  rw [h] at houtput
  cases hfound : p.outputOf (Suffixes.parse path).segments
      (p.matchOf (Suffixes.parse path) useLoader) with
  | none =>
    rw [hfound] at houtput
    cases houtput
  | some output =>
    rw [hfound] at houtput
    exact congrArg some (Except.ok.inj houtput).symm

/-- The plan of a path without loaders is all output. -/
theorem plan_false_of_outputOf {ft : FileType σ} {key : Option String} {engines : List String}
    (h : p.outputOf (Suffixes.parse path).segments none = some (ft, key, engines)) :
    p.plan path false = .ok ⟨none, none, ft, key, engines⟩ := by
  obtain ⟨⟨ft', key'⟩, hft, hchoice⟩ := Option.map_eq_some_iff.1 h
  obtain ⟨rfl, hrest⟩ := Prod.mk.inj hchoice
  obtain ⟨rfl, rfl⟩ := Prod.mk.inj hrest
  exact plan_eq_ok_iff.2 ⟨rfl, rfl, rfl, hft⟩

/-- The loader key is not cut off a path that ends in an engine key. -/
theorem outputOf_of_endsInKey {segments : List String}
    (h : EndsInKey p.engines.containsExtension segments) (loaderMatch : Option KeyMatch) :
    p.outputOf segments loaderMatch = p.outputOf segments none := by
  unfold outputOf
  rw [chainOf_of_endsInKey h, chainOf_of_endsInKey h]

/-- Without a key to cut off, such a path has no engines, and the file type is that of
    all its segments. -/
theorem outputOf_none {s : Suffixes} (h : ¬ EndsInKey p.engines.containsExtension s.segments) :
    p.outputOf s.segments none =
      (p.filetypes.resolve s).map fun choice => (choice.1, choice.2.map (·.key), []) := by
  unfold outputOf
  rw [chainOf_none h]
  show (p.filetypeOf (before s.segments 0) s.segments).map _ = _
  rw [before_zero, filetypeOf_eq_resolve (.inl rfl), Option.map_map]
  rfl

theorem output_of_resolve {s s' : Session σ} {r : Resolution σ}
    (h : p.resolve path s = .ok r s') :
    ∃ plan, p.plan path true = .ok plan ∧ plan.loaderKey = r.loaderKey ∧
      plan.output = (r.filetype, r.filetypeKey, r.engineKeys) := by
  obtain ⟨plan, chain, hplan, -, hchain, rfl⟩ := resolve_eq_ok h
  refine ⟨plan, hplan, rfl, ?_⟩
  unfold Plan.output Resolution.engineKeys
  rw [renderers_keys hchain]

end Output

/-! ## Pipelines with other loaders -/

/-- Two pipelines that may differ in their loaders, and in how often they were configured,
    but in nothing else. -/
structure SameButLoaders (p q : Pipeline σ) : Prop where
  context : q.context = p.context
  filetypes : q.filetypes = p.filetypes
  engines : q.engines = p.engines

namespace SameButLoaders

variable {p q : Pipeline σ}

theorem outputOf (h : p.SameButLoaders q) : q.outputOf = p.outputOf := by
  unfold Pipeline.outputOf chainOf filetypeOf
  rw [h.filetypes, h.engines]

/-- Without loaders they plan alike. -/
theorem plan_false (h : p.SameButLoaders q) (path : String) :
    q.plan path false = p.plan path false := by
  unfold plan chainOf filetypeOf
  rw [h.filetypes, h.engines]
  rfl

theorem renderers (h : p.SameButLoaders q) (ft : FileType σ) (keys : List String) :
    q.renderers ft keys = p.renderers ft keys := by
  induction keys with
  | nil => rfl
  | cons key rest ih =>
    unfold Pipeline.renderers
    rw [ih, h.engines, h.context]

theorem renderContent (h : p.SameButLoaders q) (content path : String) (vars : Json) :
    q.renderContent content path vars = p.renderContent content path vars := by
  unfold Pipeline.renderContent instantiate
  rw [h.plan_false]
  simp only [h.renderers]

end SameButLoaders

end Pipeline

/-! ### Calls that change loaders -/

namespace PipelineBuilder

/-- A configuration call that concerns loaders. -/
def Step.OfLoaders : Step σ → Prop
  | .editLoaders _ _ | .setDefaultLoader _ => True
  | .filetype _ | .editFileType _ _ | .registerEngine _ _ | .setDefaultFileType _ => False

theorem after_ofLoaders {step : Step σ} (h : step.OfLoaders) (b : PipelineBuilder σ) :
    ∃ loaders generation,
      b.after step = { b with loaders := loaders, generation := generation } := by
  unfold after
  cases step with
  | editLoaders extension change =>
    rw [Step.run, editLoaders_apply]
    cases b.loaders.edit extension change <;> exact ⟨_, _, rfl⟩
  | setDefaultLoader loader => exact ⟨_, _, rfl⟩
  | filetype | editFileType | registerEngine | setDefaultFileType => exact h.elim

theorem foldl_after_ofLoaders {steps : List (Step σ)} (h : ∀ step ∈ steps, step.OfLoaders)
    (b : PipelineBuilder σ) :
    ∃ loaders generation,
      steps.foldl after b = { b with loaders := loaders, generation := generation } := by
  induction steps generalizing b with
  | nil => exact ⟨b.loaders, b.generation, rfl⟩
  | cons step rest ih =>
    obtain ⟨loaders, generation, hstep⟩ := after_ofLoaders (h step List.mem_cons_self) b
    obtain ⟨loaders', generation', hrest⟩ :=
      ih (fun later hlater => h later (List.mem_cons_of_mem _ hlater)) (b.after step)
    rw [List.foldl_cons, hrest, hstep]
    exact ⟨loaders', generation', rfl⟩

end PipelineBuilder

/-- Calls that concern loaders change nothing else of the pipeline. -/
theorem Pipeline.sameButLoaders_after {b : PipelineBuilder σ} {steps : List (Step σ)}
    (hsteps : ∀ step ∈ steps, step.OfLoaders) {p q : Pipeline σ} (hp : b.finalize = .ok p)
    (hq : (steps.foldl PipelineBuilder.after b).finalize = .ok q) : p.SameButLoaders q := by
  obtain ⟨loaders, generation, hafter⟩ := PipelineBuilder.foldl_after_ofLoaders hsteps b
  rw [hafter] at hq
  have hb := PipelineBuilder.finalized hp
  have hb' := PipelineBuilder.finalized hq
  exact ⟨hb'.context.trans hb.context.symm, hb'.filetypes.unique hb.filetypes,
    hb'.engines.trans hb.engines.symm⟩

namespace Pipeline

/-! ## Paths that end in an engine key -/

section AtEnd

variable {p q : Pipeline σ} {path : String}

/-- The output of such a path is one of the engines and file types alone. -/
theorem plan_output_of_endsInKey (h : p.SameButLoaders q)
    (hend : EndsInKey p.engines.containsExtension (Suffixes.parse path).segments)
    (useLoader useLoader' : Bool) :
    (q.plan path useLoader').map Plan.output = (p.plan path useLoader).map Plan.output := by
  rw [plan_output, plan_output, h.outputOf, outputOf_of_endsInKey hend,
    outputOf_of_endsInKey hend (p.matchOf _ _)]

theorem mimetype_eq_output (p : Pipeline σ) (path : String) :
    p.mimetype path = ((p.plan path true).map Plan.output).map (·.1.mimetype) := by
  unfold mimetype
  cases p.plan path true <;> rfl

theorem mimetype_eq_error {e : Error} (h : p.mimetype path = .error e) :
    e = .templateNotFound path := by
  unfold mimetype at h
  cases hplan : p.plan path true with
  | ok plan =>
    rw [hplan] at h
    cases h
  | error fault =>
    rw [hplan] at h
    cases h
    exact plan_eq_error hplan

end AtEnd

namespace Notes

/-- The notes with other loaders. -/
def withLoaders (loaders : LoaderIndex Unit) (generation : Nat) : Pipeline Unit :=
  { pipeline with loaders := loaders, generation := generation }

def sheets : Loader Unit := .inline [("a.css.tpl", "x")]

def anyPath : Pipeline Unit := withLoaders ⟨[("txt", templates)], some sheets⟩ 5

def specific : Pipeline Unit :=
  withLoaders ⟨[("css.tpl", sheets), ("txt", templates)], some sheets⟩ 6

theorem finalize_specific :
    ∃ b : PipelineBuilder Unit, b.finalize = .ok anyPath ∧
      (b.after (.editLoaders "css.tpl" (· ++ [sheets]))).finalize = .ok specific := by
  let b : PipelineBuilder Unit :=
    match (do settings; PipelineBuilder.setDefaultLoader sheets : Configure Unit Unit)
      (.new ⟨[], none⟩) with
    | .ok _ b => b
    | .error _ b => b
  exact ⟨b, rfl, rfl⟩

theorem endsInKey_css_tpl :
    EndsInKey pipeline.engines.containsExtension (Suffixes.parse "a.css.tpl").segments := by
  have hparse : Suffixes.parse "a.css.tpl" = ⟨"a", ["css", "tpl"]⟩ := by cbv
  rw [hparse]
  exact ⟨["tpl"], by simp, ⟨["css"], rfl⟩, rfl⟩

/-- With any loader, the engine of the path and the extension in front of it are found. -/
theorem resolve_css_tpl {loaders : LoaderIndex Unit} {loader : Loader Unit}
    {found : Option KeyMatch} (generation : Nat)
    (hloader : loaders.resolve ⟨"a", ["css", "tpl"]⟩ = some (loader, found)) :
    (withLoaders loaders generation).resolve "a.css.tpl" session =
      .ok ⟨some loader, found.map (·.key), styleSheet, some "css", [("tpl", bracket)]⟩
        ⟨[((0, "text/css"), bracket)], session.world⟩ := by
  have hparse : Suffixes.parse "a.css.tpl" = ⟨"a", ["css", "tpl"]⟩ := by cbv
  have hchain : (withLoaders loaders generation).chainOf ["css", "tpl"] found =
      ([⟨"tpl", 1⟩], ["css", "tpl"]) := by
    have hfound : longestKey pipeline.engines.containsExtension ["css", "tpl"] =
        some ⟨"tpl", 1⟩ := rfl
    have hends : EndsInKey (withLoaders loaders generation).engines.containsExtension
        ["css", "tpl"] := by
      have hpath := endsInKey_css_tpl
      rwa [hparse] at hpath
    rw [chainOf_of_endsInKey hends]
    show (chain pipeline.engines.containsExtension ["css", "tpl"], _) = _
    rw [chain_of_some hfound]
    show ([_] ++ chain pipeline.engines.containsExtension ["css"], _) = _
    rw [chain_of_none rfl]
    rfl
  have hloaderOf : (withLoaders loaders generation).loaderOf ⟨"a", ["css", "tpl"]⟩ =
      (some loader, found) := by
    have hresolve : (withLoaders loaders generation).loaders.resolve ⟨"a", ["css", "tpl"]⟩ =
      some (loader, found) := hloader
    unfold loaderOf
    rw [hresolve]
  have hplan : (withLoaders loaders generation).plan "a.css.tpl" true =
      .ok ⟨some loader, found.map (·.key), styleSheet, some "css", ["tpl"]⟩ := by
    unfold plan
    simp only [hparse, if_true, hloaderOf, hchain]
    rfl
  rw [resolve_of_plan hplan rfl]
  rfl

theorem resolve_anyPath : anyPath.resolve "a.css.tpl" session =
    .ok ⟨some sheets, none, styleSheet, some "css", [("tpl", bracket)]⟩
      ⟨[((0, "text/css"), bracket)], session.world⟩ := by
  have hloader : anyPath.loaders.resolve ⟨"a", ["css", "tpl"]⟩ = some (sheets, none) := rfl
  exact resolve_css_tpl 5 hloader

theorem resolve_specific : specific.resolve "a.css.tpl" session =
    .ok ⟨some sheets, some "css.tpl", styleSheet, some "css", [("tpl", bracket)]⟩
      ⟨[((0, "text/css"), bracket)], session.world⟩ := by
  have hloader : specific.loaders.resolve ⟨"a", ["css", "tpl"]⟩ =
    some (sheets, some ⟨"css.tpl", 2⟩) := rfl
  exact resolve_css_tpl 6 hloader

end Notes

/-- **No loader changes the output of a path that ends in an engine key.**  Pipelines that
    differ only in their loaders give such a path the same engines, file type and
    extension, if it has a loader in both; it has the same mime type in both or is found
    in neither; and a text is rendered for it in the same way, by the plan that the
    path is resolved with. -/
theorem output_of_endsInKey {p q : Pipeline σ} (h : p.SameButLoaders q) {path : String}
    (hend : EndsInKey p.engines.containsExtension (Suffixes.parse path).segments) :
    (∀ s t r r' s' t', p.resolve path s = .ok r s' → q.resolve path t = .ok r' t' →
      r'.engineKeys = r.engineKeys ∧ r'.filetype = r.filetype ∧
        r'.filetypeKey = r.filetypeKey) ∧
    q.mimetype path = p.mimetype path ∧
    (∀ e, p.mimetype path = .error e → e = .templateNotFound path) ∧
    q.plan path false = p.plan path false ∧
    (∀ s r s', p.resolve path s = .ok r s' →
      p.plan path false = .ok ⟨none, none, r.filetype, r.filetypeKey, r.engineKeys⟩) ∧
    ∀ content vars, q.renderContent content path vars = p.renderContent content path vars := by
  have hplans : (q.plan path true).map Plan.output = (p.plan path true).map Plan.output :=
    plan_output_of_endsInKey h hend true true
  refine ⟨?_, ?_, fun e => mimetype_eq_error, h.plan_false path, ?_, ?_⟩
  · intro s t r r' s' t' hr hr'
    obtain ⟨plan, hplan, -, houtput⟩ := output_of_resolve hr
    obtain ⟨plan', hplan', -, houtput'⟩ := output_of_resolve hr'
    rw [hplan, hplan'] at hplans
    have hsame : plan'.output = plan.output := Except.ok.inj hplans
    rw [houtput, houtput'] at hsame
    obtain ⟨hft, hrest⟩ := Prod.mk.inj hsame
    obtain ⟨hkey, hengines⟩ := Prod.mk.inj hrest
    exact ⟨hengines, hft, hkey⟩
  · rw [mimetype_eq_output, mimetype_eq_output, hplans]
  · intro s r s' hr
    obtain ⟨plan, hplan, -, houtput⟩ := output_of_resolve hr
    refine plan_false_of_outputOf ?_
    rw [← houtput, ← outputOf_of_plan hplan, outputOf_of_endsInKey hend (p.matchOf _ _)]
  · intro content vars
    exact h.renderContent content path vars

/-- A more specific loader is found, and the rest is as before. -/
theorem output_of_endsInKey_tpl :
    ∃ r r' s', Notes.anyPath.resolve "a.css.tpl" Notes.session = .ok r s' ∧
      Notes.specific.resolve "a.css.tpl" Notes.session = .ok r' s' ∧
      r.loaderKey = none ∧ r'.loaderKey = some "css.tpl" ∧
      r'.engineKeys = r.engineKeys ∧ r'.filetype = r.filetype ∧
      r'.filetypeKey = r.filetypeKey := by
  obtain ⟨b, hb, hb'⟩ := Notes.finalize_specific
  have hsteps : ∀ step ∈ [Step.editLoaders "css.tpl" (· ++ [Notes.sheets])],
      step.OfLoaders := by
    intro step hstep
    rw [List.mem_singleton.1 hstep]
    trivial
  have hsame : Notes.anyPath.SameButLoaders Notes.specific := sameButLoaders_after hsteps hb hb'
  exact ⟨_, _, _, Notes.resolve_anyPath, Notes.resolve_specific, rfl, rfl,
    (output_of_endsInKey hsame Notes.endsInKey_css_tpl).1 _ _ _ _ _ _
      Notes.resolve_anyPath Notes.resolve_specific⟩

/-! ## Renderers that were given are given again -/

section Again

variable {p : Pipeline σ} {ft : FileType σ} {keys : List String}
  {chain : List (String × Renderer σ)} {s s' : Session σ}

/-- A run of requests takes nothing out of the cells. -/
theorem stored_renderers_of_stored (h : p.renderers ft keys s = .ok chain s')
    {extension mimetype : String} {renderer : Renderer σ}
    (hstored : p.engines.stored s.cells extension mimetype = some renderer) :
    p.engines.stored s'.cells extension mimetype = some renderer := by
  induction keys generalizing chain s with
  | nil =>
    cases h
    exact hstored
  | cons key rest ih =>
    unfold renderers at h
    obtain ⟨first, s₁, hfirst, h⟩ := bind_eq_ok_iff.1 h
    obtain ⟨others, s₂, hothers, h⟩ := bind_eq_ok_iff.1 h
    cases h
    have hanswer : p.engines.answer s.cells ⟨key, ft, p.context, s.world⟩ = .ok first s₁ :=
      hfirst
    have hnext := EngineIndex.stored_answer_of_stored hstored ⟨key, ft, p.context, s.world⟩
    rw [hanswer] at hnext
    exact ih hothers hnext

/-- The renderers of a chain are in their cells. -/
theorem stored_of_mem_renderers (h : p.renderers ft keys s = .ok chain s')
    {link : String × Renderer σ} (hlink : link ∈ chain) :
    ft.mimetype ∈ p.engines.mimetypes ∧
      p.engines.stored s'.cells link.1 ft.mimetype = some link.2 := by
  induction keys generalizing chain s with
  | nil =>
    cases h
    cases hlink
  | cons key rest ih =>
    unfold renderers at h
    obtain ⟨first, s₁, hfirst, h⟩ := bind_eq_ok_iff.1 h
    obtain ⟨others, s₂, hothers, h⟩ := bind_eq_ok_iff.1 h
    cases h
    rcases List.mem_cons.1 hlink with rfl | hlink
    · have hanswer : p.engines.answer s.cells ⟨key, ft, p.context, s.world⟩ = .ok first s₁ :=
        hfirst
      obtain ⟨hmime, hstored⟩ := EngineIndex.stored_of_ok hanswer
      exact ⟨hmime, stored_renderers_of_stored hothers hstored⟩
    · exact ih hothers hlink

/-- As long as the cells are as a chain left them, the chain is given again, in any world. -/
theorem renderers_again (h : p.renderers ft keys s = .ok chain s') (w : World σ) :
    p.renderers ft keys ⟨s'.cells, w⟩ = .ok chain ⟨s'.cells, w⟩ := by
  have hall : ∀ link ∈ chain, ft.mimetype ∈ p.engines.mimetypes ∧
      p.engines.stored s'.cells link.1 ft.mimetype = some link.2 :=
    fun link hlink => stored_of_mem_renderers h hlink
  rw [← renderers_keys h]
  clear h
  induction chain with
  | nil => rfl
  | cons link rest ih =>
    obtain ⟨hmime, hstored⟩ := hall link List.mem_cons_self
    have hanswer : p.engines.answer s'.cells ⟨link.1, ft, p.context, w⟩ =
        .ok link.2 ⟨s'.cells, w⟩ := EngineIndex.answer_of_stored hmime hstored
    have hfirst : p.engines.renderer link.1 ft p.context ⟨s'.cells, w⟩ = _ := hanswer
    have hrest := ih fun other hother => hall other (List.mem_cons_of_mem _ hother)
    rw [List.map_cons, renderers, bind_of_ok hfirst, bind_of_ok hrest]
    rfl

end Again

/-! ## Texts that are rendered without loaders -/

/-- The key that selected the loader has changed neither the engines nor the file type. -/
inductive KeyIdle (p : Pipeline σ) (path : String) (r : Resolution σ) : Prop
  | engineAtEnd (h : EndsInKey p.engines.containsExtension (Suffixes.parse path).segments)
  | noKey (h : r.loaderKey = none)
  /-- There are no engines in front of the key either, and the file type is that of all
      segments. -/
  | nothingInFront (hengines : r.engineKeys = [])
      (hft : (p.filetypes.resolve (Suffixes.parse path)).map Prod.fst = some r.filetype)

section Content

variable {p : Pipeline σ} {path content : String} {vars : Json} {s s₁ : Session σ}
  {r : Resolution σ}

/-- The key is idle exactly if the path has the same engines and file type without it. -/
theorem keyIdle_iff (hr : p.resolve path s = .ok r s₁) :
    p.KeyIdle path r ↔ ∃ plan, p.plan path false = .ok plan ∧
      plan.filetype = r.filetype ∧ plan.engines = r.engineKeys := by
  obtain ⟨plan, hplan, hkey, houtput⟩ := output_of_resolve hr
  have hwith := outputOf_of_plan hplan
  rw [houtput] at hwith
  by_cases hend : EndsInKey p.engines.containsExtension (Suffixes.parse path).segments
  · rw [outputOf_of_endsInKey hend] at hwith
    exact ⟨fun _ => ⟨_, plan_false_of_outputOf hwith, rfl, rfl⟩, fun _ => .engineAtEnd hend⟩
  · have hnone := outputOf_none hend
    constructor
    · rintro (hend' | hnokey | ⟨hengines, hft⟩)
      · exact absurd hend' hend
      · have hmatch : p.matchOf (Suffixes.parse path) true = none := by
          rw [← hkey, (plan_eq_ok_iff.1 hplan).loaderKey] at hnokey
          exact Option.map_eq_none_iff.1 hnokey
        rw [hmatch] at hwith
        exact ⟨_, plan_false_of_outputOf hwith, rfl, rfl⟩
      · obtain ⟨⟨ft, found⟩, hfound, hsame⟩ := Option.map_eq_some_iff.1 hft
        rw [hfound] at hnone
        exact ⟨_, plan_false_of_outputOf hnone, hsame, hengines.symm⟩
    · rintro ⟨plan', hplan', hft, hengines⟩
      have hwithout := outputOf_of_plan hplan'
      rw [show p.matchOf (Suffixes.parse path) false = none from rfl, hnone] at hwithout
      obtain ⟨choice, hchoice, hsame⟩ := Option.map_eq_some_iff.1 hwithout
      obtain ⟨hft', hrest⟩ := Prod.mk.inj hsame
      obtain ⟨-, hengines'⟩ := Prod.mk.inj hrest
      refine .nothingInFront (hengines.symm.trans hengines'.symm) ?_
      rw [hchoice, Option.map_some, hft', hft]

theorem renderContent_of_renderers {plan : Plan σ} (hplan : p.plan path false = .ok plan)
    (hchain : p.renderers plan.filetype plan.engines s = .ok r.chain s₁)
    (hft : plan.filetype = r.filetype) (content : String) (vars : Json) :
    p.renderContent content path vars s =
      keepCells s₁.cells (execute r path (.inline content) vars s₁.world) := by
  have hexecute :
      execute ⟨plan.loader, plan.loaderKey, plan.filetype, plan.filetypeKey, r.chain⟩ path
        (.inline content) vars = execute r path (.inline content) vars := by
    unfold execute
    rw [← hft]
  unfold renderContent
  rw [hplan]
  dsimp only
  rw [bind_of_ok (instantiate_eq_ok_iff.2 ⟨_, hchain, rfl⟩), Call.ofAction_apply, hexecute]

/-- **When a text is rendered as if it had been loaded.**  A path is resolved, and its
    loader gives a text.  If the key that selected the loader is idle, rendering the path
    is rendering the text for it in the session that resolving and loading leave behind;
    this is also rendering it in the session of the beginning, if loading changes
    nothing. -/
theorem render_eq_renderContent {loader : Loader σ} {w : World σ}
    (hr : p.resolve path s = .ok r s₁) (hloader : r.loader = some loader)
    (hload : loader.load path s₁.world = .ok (.inline content) w)
    (hidle : p.KeyIdle path r) (vars : Json) :
    p.render path vars s = p.renderContent content path vars ⟨s₁.cells, w⟩ ∧
    (w = s₁.world → p.render path vars s = p.renderContent content path vars s) := by
  obtain ⟨plan, hplan, hft, hengines⟩ := (keyIdle_iff hr).1 hidle
  have hchain : p.renderers plan.filetype plan.engines s = .ok r.chain s₁ := by
    obtain ⟨plan', chain, -, -, hrenderers, rfl⟩ := resolve_eq_ok hr
    rw [hft, hengines]
    unfold Resolution.engineKeys
    rw [renderers_keys hrenderers]
    exact hrenderers
  rw [render_of_load hr hloader hload]
  constructor
  · rw [renderContent_of_renderers hplan (renderers_again hchain w) hft]
  · rintro rfl
    rw [renderContent_of_renderers hplan hchain hft]

end Content

/-- The path ends in an engine key, so its loader may have a key. -/
theorem render_eq_renderContent_css :
    ∃ r s₁, Notes.specific.resolve "a.css.tpl" Notes.session = .ok r s₁ ∧
      r.loaderKey = some "css.tpl" ∧
      Notes.sheets.load "a.css.tpl" s₁.world = .ok (.inline "x") s₁.world ∧
      Notes.specific.KeyIdle "a.css.tpl" r ∧
      Notes.specific.render "a.css.tpl" .null Notes.session =
        Notes.specific.renderContent "x" "a.css.tpl" .null Notes.session := by
  have hload : Notes.sheets.load "a.css.tpl" Notes.session.world =
      .ok (.inline "x") Notes.session.world := rfl
  refine ⟨_, _, Notes.resolve_specific, rfl, hload, .engineAtEnd Notes.endsInKey_css_tpl, ?_⟩
  exact (render_eq_renderContent Notes.resolve_specific rfl hload
    (.engineAtEnd Notes.endsInKey_css_tpl) .null).2 rfl

/-- A key that is not idle makes a difference: the engine in front of it renders what is
    loaded, and leaves a text that is not loaded as it is. -/
theorem renderContent_misses_engine :
    ¬ ∀ (b : PipelineBuilder Unit) (p : Pipeline Unit) (path content : String) (vars : Json)
      (s s₁ : Session Unit) (r : Resolution Unit) (loader : Loader Unit) (w : World Unit),
      b.finalize = .ok p → p.resolve path s = .ok r s₁ → r.loader = some loader →
      loader.load path s₁.world = .ok (.inline content) w →
      ∀ text s', p.render path vars s = .ok text s' →
        ∃ s'', p.renderContent content path vars s = .ok text s'' := by
  intro h
  obtain ⟨b, -, hb⟩ := Notes.finalize_settings
  have hload : Notes.templates.load "a.tpl.txt" Notes.session.world =
      .ok (.inline "y") Notes.session.world := rfl
  have hrender : Notes.pipeline.render "a.tpl.txt" .null Notes.session =
      .ok "<y>" ⟨[((0, "text/plain"), Notes.bracket)], Notes.session.world⟩ := by
    rw [render_of_load Notes.resolve_tpl rfl hload]
    rfl
  have hparse : Suffixes.parse "a.tpl.txt" = ⟨"a", ["tpl", "txt"]⟩ := by cbv
  have hplan : Notes.pipeline.plan "a.tpl.txt" false =
      .ok ⟨none, none, Notes.plainText, some "txt", []⟩ := by
    refine plan_false_of_outputOf ?_
    rw [hparse, outputOf_none (s := ⟨"a", ["tpl", "txt"]⟩) ?_]
    · rfl
    · exact longestKey_eq_none_iff.1 rfl
  have hcontent : Notes.pipeline.renderContent "y" "a.tpl.txt" .null Notes.session =
      .ok "y" Notes.session := by
    unfold renderContent
    rw [hplan]
    rfl
  obtain ⟨s'', hsame⟩ :=
    h b _ _ _ .null _ _ _ _ _ hb Notes.resolve_tpl rfl hload _ _ hrender
  rw [hcontent] at hsame
  injection hsame with htext
  exact absurd htext (by decide)

end Pipeline

end RenderChain
