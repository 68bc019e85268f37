/-
  RenderChain/Proofs/Configuration.lean
  =====================================
  **What a finished configuration knows.**

  `finalize` makes a pipeline of a builder.  A pipeline finds file types by
  extension and engines by key; whatever a plan finds in it was registered with
  the builder, and renderers may be asked for all of it.

    * `Configured.nodup_mimetypes`: no builder has two file types of one mime type;
    * `finalize_eq`: a builder is finished part by part;
    * `mem_types_of_plan`, `exists_slot_of_plan`: the file type and the engines
      of a plan are registered ones;
    * `only_engines_refuse`: so the chain of a path is instantiated, unless one
      of its engines fails.
-/
import RenderChain.Proofs.Calls
import RenderChain.Proofs.Cells
import RenderChain.Proofs.Owners

namespace RenderChain

variable {σ : Type}

/-! ## Builders -/

/-- No configuration gives two file types one mime type. -/
theorem Configured.nodup_mimetypes {b : PipelineBuilder σ} (h : Configured b) :
    b.filetypes.mimetypes.Nodup := by
  induction h with
  | new context => exact .nil
  | @step b h step ih =>
    rcases b.filetypes_after step with hsame | ⟨ft, hput⟩
    · rw [hsame]
      exact ih
    · rw [hput]
      exact FileTypeRegistry.nodup_put ih ft

/-! ## Finished file types -/

namespace FileTypeRegistry

variable {r : FileTypeRegistry σ} {default : Option String} {index : FileTypeIndex σ}

/-- What a finished registry consists of. -/
structure Finalized (r : FileTypeRegistry σ) (default : Option String)
    (index : FileTypeIndex σ) : Prop where
  byExtension : FileTypeIndex.claimAll [] r.types = .ok index.byExtension
  byMimetype : index.byMimetype = Keyed.ofList (r.types.map fun ft => (ft.mimetype, ft))
  default_eq : index.default = default.bind index.find?

theorem finalized (h : r.finalize default = .ok index) : r.Finalized default index := by
  obtain ⟨byExtension, hclaim, h⟩ := except_bind_eq_ok_iff.1 h
  cases default with
  | none =>
    cases h
    exact ⟨hclaim, rfl, rfl⟩
  | some mimetype =>
    dsimp only at h
    split at h
    next => cases h
    next ft hfind =>
      cases h
      exact ⟨hclaim, rfl, hfind.symm⟩

theorem Finalized.unique {index' : FileTypeIndex σ} (h : r.Finalized default index)
    (h' : r.Finalized default index') : index = index' := by
  obtain ⟨byMimetype, byExtension, fallback⟩ := index
  obtain ⟨byMimetype', byExtension', fallback'⟩ := index'
  obtain rfl : byMimetype = byMimetype' := h.byMimetype.trans h'.byMimetype.symm
  obtain rfl : byExtension = byExtension' :=
    Except.ok.inj (h.byExtension.symm.trans h'.byExtension)
  obtain rfl : fallback = fallback' := h.default_eq.trans h'.default_eq.symm
  rfl

/-- A file type that the index finds by a mime type is registered, and has it. -/
theorem Finalized.mem_of_find? (h : r.Finalized default index) {mimetype : String}
    {ft : FileType σ} (hfind : index.find? mimetype = some ft) :
    ft ∈ r.types ∧ ft.mimetype = mimetype := by
  unfold FileTypeIndex.find? at hfind
  rw [h.byMimetype, Keyed.find?_ofList, List.lookup_eq_some_iff] at hfind
  obtain ⟨front, back, hsplit, -⟩ := hfind
  have hmem : (mimetype, ft) ∈ (r.types.map fun ft => (ft.mimetype, ft)).reverse := by
    rw [hsplit]
    simp
  obtain ⟨ft', hft', hpair⟩ := List.mem_map.1 (List.mem_reverse.1 hmem)
  obtain ⟨rfl, rfl⟩ := Prod.mk.inj hpair
  exact ⟨hft', rfl⟩

/-- If no mime type is registered twice, each file type is found by its own. -/
theorem Finalized.find?_mimetype (h : r.Finalized default index) (hnodup : r.mimetypes.Nodup)
    {ft : FileType σ} (hft : ft ∈ r.types) : index.find? ft.mimetype = some ft := by
  unfold FileTypeIndex.find?
  rw [h.byMimetype, Keyed.find?_ofList_eq_some_iff]
  · exact List.mem_map.2 ⟨ft, hft, rfl⟩
  · rwa [List.map_map]

theorem Finalized.mem_of_lookup (h : r.Finalized default index) {segments : List String}
    {ft : FileType σ} {found : KeyMatch} (hlookup : index.lookup segments = some (ft, found)) :
    ft ∈ r.types := by
  obtain ⟨m, -, hft⟩ := Option.bind_eq_some_iff.1 hlookup
  obtain ⟨owner, howner, hequal⟩ := Option.bind_eq_some_iff.1 hft
  obtain ⟨rfl, rfl⟩ := Prod.mk.inj (Option.some.inj hequal)
  rcases (FileTypeIndex.find?_claimAll_iff h.byExtension).1 howner with hnone | ⟨hmem, -⟩
  · cases hnone
  · exact hmem

theorem Finalized.mem_of_default (h : r.Finalized default index) {ft : FileType σ}
    (hdefault : index.default = some ft) : ft ∈ r.types := by
  rw [h.default_eq] at hdefault
  obtain ⟨mimetype, -, hfind⟩ := Option.bind_eq_some_iff.1 hdefault
  exact (h.mem_of_find? hfind).1

end FileTypeRegistry

/-! ## Finished builders -/

/-- What a finished builder consists of. -/
structure PipelineBuilder.Finalized (b : PipelineBuilder σ) (p : Pipeline σ) : Prop where
  /-- Without file types there are no engines. -/
  populated : b.filetypes.types = [] → b.engines.extensions = []
  context : p.context = b.context
  filetypes : b.filetypes.Finalized b.defaultFileType p.filetypes
  engines : p.engines = b.engines.finalize b.filetypes.mimetypes
  loaders : p.loaders = b.loaders.finalize (b.filetypes.extensions ++ b.engines.extensions)
  generation : p.generation = b.generation

namespace PipelineBuilder

/-- A builder is finished part by part too, unless it has engines and no file type. -/
theorem finalize_eq (b : PipelineBuilder σ) :
    b.finalize =
      match b.filetypes.types, b.engines.extensions with
      | [], extension :: _ => .error (.engineWithoutFileTypes extension)
      | _, _ =>
        (b.filetypes.finalize b.defaultFileType).map fun filetypes =>
          { context := b.context
            loaders := b.loaders.finalize (b.filetypes.extensions ++ b.engines.extensions)
            filetypes := filetypes
            engines := b.engines.finalize b.filetypes.mimetypes
            generation := b.generation } := by
  unfold finalize
  cases htypes : b.filetypes.types <;> cases hextensions : b.engines.extensions <;>
    cases b.filetypes.finalize b.defaultFileType <;> rfl

theorem finalized {b : PipelineBuilder σ} {p : Pipeline σ} (h : b.finalize = .ok p) :
    b.Finalized p := by
  rw [finalize_eq] at h
  split at h
  next => cases h
  next hengines =>
    have hpopulated : b.filetypes.types = [] → b.engines.extensions = [] := by
      intro hempty
      cases hextensions : b.engines.extensions with
      | nil => rfl
      | cons extension rest => exact absurd hextensions (hengines extension rest hempty)
    cases hfiletypes : b.filetypes.finalize b.defaultFileType with
    | error fault =>
      rw [hfiletypes] at h
      cases h
    | ok filetypes =>
      rw [hfiletypes] at h
      cases h
      exact ⟨hpopulated, rfl, FileTypeRegistry.finalized hfiletypes, rfl, rfl, rfl⟩

theorem finalize_eq_ok_iff {b : PipelineBuilder σ} {p : Pipeline σ} :
    b.finalize = .ok p ↔
      (b.filetypes.types = [] → b.engines.extensions = []) ∧
        b.filetypes.finalize b.defaultFileType = .ok p.filetypes ∧
        p.context = b.context ∧
        p.loaders = b.loaders.finalize (b.filetypes.extensions ++ b.engines.extensions) ∧
        p.engines = b.engines.finalize b.filetypes.mimetypes ∧ p.generation = b.generation := by
  constructor
  · intro h
    have hfinal := finalized h
    refine ⟨hfinal.populated, ?_, hfinal.context, hfinal.loaders, hfinal.engines,
      hfinal.generation⟩
    rw [finalize_eq] at h
    split at h
    · cases h
    · cases hfiletypes : b.filetypes.finalize b.defaultFileType with
      | error fault =>
        rw [hfiletypes] at h
        cases h
      | ok filetypes =>
        rw [hfiletypes] at h
        cases h
        rfl
  · rintro ⟨hpopulated, hfiletypes, hcontext, hloaders, hengines, hgeneration⟩
    obtain ⟨context, loaders, filetypes, engines, generation⟩ := p
    obtain rfl : context = _ := hcontext
    obtain rfl : loaders = _ := hloaders
    obtain rfl : engines = _ := hengines
    obtain rfl : generation = _ := hgeneration
    rw [finalize_eq, hfiletypes]
    split
    next extension rest htypes hextensions =>
      rw [hpopulated htypes] at hextensions
      cases hextensions
    next => rfl

end PipelineBuilder

/-! ## What a plan refers to -/

namespace Pipeline

section Plans

variable {b : PipelineBuilder σ} {p : Pipeline σ} {path : String} {useLoader : Bool}
  {plan : Plan σ}

/-- The file type of a plan is a registered one. -/
theorem mem_types_of_plan (h : b.Finalized p) (hplan : p.plan path useLoader = .ok plan) :
    plan.filetype ∈ b.filetypes.types := by
  have hft := (plan_eq_ok_iff.1 hplan).filetype
  unfold filetypeOf at hft
  split at hft
  next ft found hfound =>
    obtain ⟨rfl, -⟩ := Prod.mk.inj (Option.some.inj hft)
    rcases Option.or_eq_some_iff.1 hfound with hremaining | ⟨-, hall⟩
    · exact h.filetypes.mem_of_lookup hremaining
    · exact h.filetypes.mem_of_lookup hall
  next =>
    obtain ⟨ft, hdefault, hequal⟩ := Option.map_eq_some_iff.1 hft
    obtain ⟨rfl, -⟩ := Prod.mk.inj hequal
    exact h.filetypes.mem_of_default hdefault

/-- The engines of a plan are in the index. -/
theorem exists_slot_of_plan (hplan : p.plan path useLoader = .ok plan) {key : String}
    (hkey : key ∈ plan.engines) : ∃ slot, Keyed.find? key p.engines.slots = some slot := by
  rw [(plan_eq_ok_iff.1 hplan).engines, chainOf_fst] at hkey
  obtain ⟨m, hm, rfl⟩ := List.mem_map.1 hkey
  exact Option.isSome_iff_exists.1 (isKey_of_mem_chain hm)

/-- Renderers may be asked for the file type of a plan. -/
theorem mimetype_mem_of_plan (h : b.Finalized p) (hplan : p.plan path useLoader = .ok plan) :
    plan.filetype.mimetype ∈ p.engines.mimetypes := by
  rw [h.engines]
  exact List.mem_map.2 ⟨_, mem_types_of_plan h hplan, rfl⟩

end Plans

end Pipeline

/-! ## Instantiation -/

theorem EngineIndex.renderer_of_slot {index : EngineIndex σ} {extension : String}
    {slot : EngineSlot σ} {ft : FileType σ}
    (h : Keyed.find? extension index.slots = some slot)
    (hmime : ft.mimetype ∈ index.mimetypes) (context : EngineContext) :
    index.renderer extension ft context =
      Call.inCell (slot.cells, ft.mimetype) (slot.engine.createRenderer context ft) := by
  unfold renderer
  rw [h]
  simp only [if_pos hmime]

theorem Call.inCell_eq_error {cell : Nat × String} {create : Action σ (Renderer σ)}
    {s s' : Session σ} {e : Error} (h : inCell cell create s = .error e s') :
    create s.world = .error e s'.world := by
  cases hcell : s.cells.lookup cell with
  | some renderer =>
    rw [inCell_of_some hcell] at h
    cases h
  | none =>
    cases hcreate : create s.world with
    | ok renderer w =>
      rw [inCell_of_ok hcell hcreate] at h
      cases h
    | error fault w =>
      rw [inCell_of_error hcell hcreate] at h
      cases h
      rfl

namespace Pipeline

/-- Renderers fail as the first request that fails. -/
theorem renderers_eq_error {p : Pipeline σ} {ft : FileType σ} {keys : List String}
    {s s' : Session σ} {e : Error} (h : p.renderers ft keys s = .error e s') :
    ∃ key ∈ keys, ∃ s₁, p.engines.renderer key ft p.context s₁ = .error e s' := by
  induction keys generalizing s with
  | nil => cases h
  | cons key rest ih =>
    unfold renderers at h
    rcases bind_eq_error_iff.1 h with hfirst | ⟨renderer, s₁, -, h⟩
    · exact ⟨key, List.mem_cons_self, s, hfirst⟩
    · rcases bind_eq_error_iff.1 h with hrest | ⟨others, s₂, -, h⟩
      · obtain ⟨key', hkey', hfail⟩ := ih hrest
        exact ⟨key', List.mem_cons_of_mem _ hkey', hfail⟩
      · cases h

theorem instantiate_eq_error_iff {p : Pipeline σ} {plan : Plan σ} {s s' : Session σ}
    {e : Error} :
    p.instantiate plan s = .error e s' ↔
      p.renderers plan.filetype plan.engines s = .error e s' := by
  unfold instantiate
  rw [bind_eq_error_iff]
  constructor
  · rintro (h | ⟨_, _, -, h⟩)
    · exact h
    · cases h
  · exact .inl

/-- Why a path is not resolved in the session `s`, with or without its loader. -/
inductive Unresolved (b : PipelineBuilder σ) (p : Pipeline σ) (path : String)
    (useLoader : Bool) (s : Session σ) : Error → Session σ → Prop
  /-- It has no file type, or should have a loader and has none. -/
  | notFound
      (h : ∀ plan, p.plan path useLoader = .ok plan → useLoader = true ∧ plan.loader = none) :
      Unresolved b p path useLoader s (.templateNotFound path) s
  /-- An engine that was registered under a key of its chain has failed. -/
  | engineFailed {plan : Plan σ} {key : String} {engine : Engine σ} {w : World σ} {e : Error}
      {s' : Session σ} (hplan : p.plan path useLoader = .ok plan) (hkey : key ∈ plan.engines)
      (hengine : (key, engine) ∈ b.engines.engines)
      (hfailed : engine.createRenderer p.context plan.filetype w = .error e s'.world) :
      Unresolved b p path useLoader s e s'

section Instantiation

variable {b : PipelineBuilder σ} {p : Pipeline σ} {path : String} {useLoader : Bool}
  {plan : Plan σ}

/-- For each engine of a plan the registered engine is asked, if its cell is empty. -/
theorem renderer_of_plan (h : b.Finalized p) (hplan : p.plan path useLoader = .ok plan)
    {key : String} (hkey : key ∈ plan.engines) :
    ∃ engine cell, (key, engine) ∈ b.engines.engines ∧
      p.engines.renderer key plan.filetype p.context =
        Call.inCell cell (engine.createRenderer p.context plan.filetype) := by
  obtain ⟨slot, hslot⟩ := exists_slot_of_plan hplan hkey
  refine ⟨slot.engine, (slot.cells, plan.filetype.mimetype), ?_,
    EngineIndex.renderer_of_slot hslot (mimetype_mem_of_plan h hplan) p.context⟩
  rw [h.engines] at hslot
  exact EngineIndex.mem_engines hslot

theorem unresolved_of_instantiate (h : b.Finalized p)
    (hplan : p.plan path useLoader = .ok plan) {s s' : Session σ} {e : Error}
    (hfail : p.instantiate plan s = .error e s') : Unresolved b p path useLoader s e s' := by
  obtain ⟨key, hkey, s₁, hrequest⟩ := renderers_eq_error (instantiate_eq_error_iff.1 hfail)
  obtain ⟨engine, cell, hengine, hask⟩ := renderer_of_plan h hplan hkey
  rw [hask] at hrequest
  exact .engineFailed hplan hkey hengine (Call.inCell_eq_error hrequest)

theorem plan_eq_error {e : Error} (h : p.plan path useLoader = .error e) :
    e = .templateNotFound path := by
  unfold plan at h
  dsimp only at h
  split at h
  · cases h
    rfl
  · cases h

theorem unresolved_of_resolve (h : b.Finalized p) {s s' : Session σ} {e : Error}
    (hfail : p.resolve path s = .error e s') : Unresolved b p path true s e s' := by
  cases hplan : p.plan path true with
  | error fault =>
    unfold resolve at hfail
    rw [hplan] at hfail
    cases hfail
    rw [plan_eq_error hplan]
    refine .notFound ?_
    intro plan hok
    rw [hplan] at hok
    cases hok
  | ok plan =>
    cases hloader : plan.loader with
    | none =>
      unfold resolve at hfail
      rw [hplan] at hfail
      simp only [hloader, Option.isNone_none, if_true] at hfail
      cases hfail
      refine .notFound ?_
      intro plan' hok
      rw [hplan] at hok
      cases hok
      exact ⟨rfl, hloader⟩
    | some loader =>
      rw [resolve_of_plan hplan (by simp [hloader])] at hfail
      exact unresolved_of_instantiate h hplan hfail

/-- A render fails because its path is not resolved, or after that. -/
theorem render_eq_error (h : b.Finalized p) {vars : Json} {s s' : Session σ} {e : Error}
    (hfail : p.render path vars s = .error e s') :
    Unresolved b p path true s e s' ∨
      ∃ r s₁ loader, p.resolve path s = .ok r s₁ ∧ r.loader = some loader ∧
        Call.ofAction (do execute r path (← loader.load path) vars) s₁ = .error e s' := by
  unfold render at hfail
  rcases bind_eq_error_iff.1 hfail with hresolve | ⟨r, s₁, hr, hrest⟩
  · exact .inl (unresolved_of_resolve h hresolve)
  · obtain ⟨plan, chain, -, hsome, -, rfl⟩ := resolve_eq_ok hr
    obtain ⟨loader, hloader⟩ := Option.isSome_iff_exists.1 hsome
    dsimp only at hrest
    rw [hloader] at hrest
    exact .inr ⟨_, s₁, loader, hr, hloader, hrest⟩

theorem renderContent_eq_error (h : b.Finalized p) {content : String} {vars : Json}
    {s s' : Session σ} {e : Error} (hfail : p.renderContent content path vars s = .error e s') :
    Unresolved b p path false s e s' ∨
      ∃ plan r s₁, p.plan path false = .ok plan ∧ p.instantiate plan s = .ok r s₁ ∧
        Call.ofAction (execute r path (.inline content) vars) s₁ = .error e s' := by
  unfold renderContent at hfail
  cases hplan : p.plan path false with
  | error fault =>
    rw [hplan] at hfail
    cases hfail
    rw [plan_eq_error hplan]
    refine .inl (.notFound ?_)
    intro plan hok
    rw [hplan] at hok
    cases hok
  | ok plan =>
    rw [hplan] at hfail
    rcases bind_eq_error_iff.1 hfail with hinstantiate | ⟨r, s₁, hr, hrest⟩
    · exact .inl (unresolved_of_instantiate h hplan hinstantiate)
    · exact .inr ⟨plan, r, s₁, rfl, hr, hrest⟩

end Instantiation

/-- **Only engines can refuse a chain.**  In a finished pipeline, whatever calls configured
    it, a plan only asks for renderers that its index knows: each request either finds a
    cell filled or is passed to the engine that was registered under the key.  So a path is
    found, or it has no loader or no file type, or what it fails with is what one of these
    engines has failed with; all else that a rendering fails with comes after that, from
    loading or from passing the text through the chain. -/
theorem only_engines_refuse {b : PipelineBuilder σ} {p : Pipeline σ} (h : b.finalize = .ok p)
    (path : String) :
    (∀ useLoader plan, p.plan path useLoader = .ok plan → ∀ key ∈ plan.engines,
      ∃ engine cell, (key, engine) ∈ b.engines.engines ∧
        p.engines.renderer key plan.filetype p.context =
          Call.inCell cell (engine.createRenderer p.context plan.filetype)) ∧
    (∀ s e s', p.resolve path s = .error e s' → Unresolved b p path true s e s') ∧
    (∀ vars s e s', p.render path vars s = .error e s' →
      Unresolved b p path true s e s' ∨
        ∃ r s₁ loader, p.resolve path s = .ok r s₁ ∧ r.loader = some loader ∧
          Call.ofAction (do execute r path (← loader.load path) vars) s₁ = .error e s') ∧
    (∀ content vars s e s', p.renderContent content path vars s = .error e s' →
      Unresolved b p path false s e s' ∨
        ∃ plan r s₁, p.plan path false = .ok plan ∧ p.instantiate plan s = .ok r s₁ ∧
          Call.ofAction (execute r path (.inline content) vars) s₁ = .error e s') := by
  have hfinal : b.Finalized p := PipelineBuilder.finalized h
  refine ⟨?_, ?_, ?_, ?_⟩
  · intro useLoader plan hplan key hkey
    exact renderer_of_plan hfinal hplan hkey
  · intro s e s' hfail
    exact unresolved_of_resolve hfinal hfail
  · intro vars s e s' hfail
    exact render_eq_error hfinal hfail
  · intro content vars s e s' hfail
    exact renderContent_eq_error hfinal hfail

/-- The one engine of the path is the registered one. -/
theorem only_engines_refuse_tpl :
    ∃ (b : PipelineBuilder Unit) (plan : Plan Unit) (engine : Engine Unit) (cell : Nat × String),
      b.finalize = .ok Notes.pipeline ∧ Notes.pipeline.plan "a.tpl.txt" true = .ok plan ∧
      plan.engines = ["tpl"] ∧
      ("tpl", engine) ∈ b.engines.engines ∧
      Notes.pipeline.engines.renderer "tpl" plan.filetype Notes.pipeline.context =
        Call.inCell cell (engine.createRenderer Notes.pipeline.context plan.filetype) := by
  obtain ⟨b, -, hb⟩ := Notes.finalize_settings
  obtain ⟨plan, chain, hplan, -, hchain, hr⟩ := resolve_eq_ok Notes.resolve_tpl
  have hengines : plan.engines = ["tpl"] := by
    have hlinks : [("tpl", Notes.bracket)] = chain := congrArg Resolution.chain hr
    rw [← renderers_keys hchain, ← hlinks]
    rfl
  obtain ⟨engine, cell, hengine, hask⟩ :=
    (only_engines_refuse hb "a.tpl.txt").1 true plan hplan "tpl" (by simp [hengines])
  exact ⟨b, plan, engine, cell, hb, hplan, hengines, hengine, hask⟩

end Pipeline

end RenderChain
