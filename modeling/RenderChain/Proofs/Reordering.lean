/-
  RenderChain/Proofs/Reordering.lean
  ==================================
  **The order of independent registrations does not matter.**

  Reordered histories end in builders that hold the same of every target, though
  in lists of another order.  What is made of these lists depends on the order
  nowhere: tables find the same, an extension that is owned twice is refused
  wherever it stands, and only the numbers of the engines' cells come out
  differently.  But numbers are only compared with each other, and the same ones
  are equal.

    * `finalize_of_similar`: similar builders are finished to pipelines that differ
      in their numbers of cells only;
    * `agree_ask_of_renumbered`: such pipelines answer every question alike, if what they have
      in their cells is the same up to the numbers;
    * `answers_of_reordered`: so the pipelines of reordered histories cannot be
      told apart.
-/
import RenderChain.Proofs.FileTypeIndex
import RenderChain.Proofs.History
import RenderChain.Proofs.Independence

namespace RenderChain

open PipelineBuilder (Step Similar Reordered callsOn)

variable {σ : Type}

/-! ## Engine indexes with other numbers -/

namespace EngineIndex

/-- Indexes with the same engines, in which the same extensions share their cells. -/
structure Renumbered (i i' : EngineIndex σ) : Prop where
  mimetypes : ∀ mimetype, mimetype ∈ i.mimetypes ↔ mimetype ∈ i'.mimetypes
  engine : ∀ extension, (Keyed.find? extension i.slots).map (·.engine) =
    (Keyed.find? extension i'.slots).map (·.engine)
  cells : ∀ extension other slot otherSlot slot' otherSlot',
    Keyed.find? extension i.slots = some slot → Keyed.find? other i.slots = some otherSlot →
    Keyed.find? extension i'.slots = some slot' → Keyed.find? other i'.slots = some otherSlot' →
    (otherSlot.cells = slot.cells ↔ otherSlot'.cells = slot'.cells)

theorem map_engine_find? (r : EngineRegistry σ) (mimetypes : List String) (extension : String) :
    (Keyed.find? extension (r.finalize mimetypes).slots).map (·.engine) =
      r.find? extension := by
  cases hslot : Keyed.find? extension (r.finalize mimetypes).slots with
  | some slot => exact (EngineRegistry.find?_eq_some_iff.2 (mem_engines hslot)).symm
  | none =>
    cases hengine : r.find? extension with
    | none => rfl
    | some engine =>
      obtain ⟨slot, hsome, -⟩ :=
        exists_slot (EngineRegistry.find?_eq_some_iff.1 hengine) mimetypes
      rw [hslot] at hsome
      cases hsome

/-- Registries with the same engines, in whichever order, are finished to such indexes. -/
theorem renumbered {r r' : EngineRegistry σ}
    (h : ∀ extension, r.find? extension = r'.find? extension) {mimetypes mimetypes' : List String}
    (hmimetypes : ∀ mimetype, mimetype ∈ mimetypes ↔ mimetype ∈ mimetypes') :
    (r.finalize mimetypes).Renumbered (r'.finalize mimetypes') := by
  have hengine : ∀ extension,
      (Keyed.find? extension (r.finalize mimetypes).slots).map (·.engine) =
        (Keyed.find? extension (r'.finalize mimetypes').slots).map (·.engine) := by
    intro extension
    rw [map_engine_find?, map_engine_find?, h]
  refine ⟨hmimetypes, hengine, ?_⟩
  intro extension other slot otherSlot slot' otherSlot' hslot hother hslot' hother'
  have hsame := hengine extension
  rw [hslot, hslot'] at hsame
  have hsame' := hengine other
  rw [hother, hother'] at hsame'
  have hengines : slot.engine = slot'.engine := Option.some.inj hsame
  have hengines' : otherSlot.engine = otherSlot'.engine := Option.some.inj hsame'
  rw [cells_eq_iff hother hslot, cells_eq_iff hother' hslot', hengines, hengines']

/-- Sessions with the same world, and the same renderers in the cells of the same engines. -/
structure SameCells (i i' : EngineIndex σ) (s s' : Session σ) : Prop where
  world : s.world = s'.world
  cells : ∀ extension slot slot', Keyed.find? extension i.slots = some slot →
    Keyed.find? extension i'.slots = some slot' → ∀ mimetype : String,
      s.cells.lookup (slot.cells, mimetype) = s'.cells.lookup (slot'.cells, mimetype)

section Cells

variable {i i' : EngineIndex σ}

/-- Actions leave the cells as they are. -/
theorem agree_ofAction {α : Type} (action : Action σ α) :
    Agree (SameCells i i') Eq (Call.ofAction action) (Call.ofAction action) := by
  intro s s' hs
  rw [Call.ofAction_apply, Call.ofAction_apply, ← hs.world]
  cases action s.world with
  | ok a w => exact .ok rfl ⟨rfl, hs.cells⟩
  | error e w => exact .error ⟨rfl, hs.cells⟩

/-- The cells of one extension are filled alike. -/
theorem agree_inCell (hi : i.Renumbered i') {extension : String} {slot slot' : EngineSlot σ}
    (hslot : Keyed.find? extension i.slots = some slot)
    (hslot' : Keyed.find? extension i'.slots = some slot') (mimetype : String)
    (create : Action σ (Renderer σ)) :
    Agree (SameCells i i') Eq (Call.inCell (slot.cells, mimetype) create)
      (Call.inCell (slot'.cells, mimetype) create) := by
  intro s s' hs
  have hsame := hs.cells extension slot slot' hslot hslot' mimetype
  cases hcell : s.cells.lookup (slot.cells, mimetype) with
  | some renderer =>
    rw [hcell] at hsame
    rw [Call.inCell_of_some hcell, Call.inCell_of_some hsame.symm]
    exact .ok rfl hs
  | none =>
    rw [hcell] at hsame
    cases hcreate : create s.world with
    | error e w =>
      rw [Call.inCell_of_error hcell hcreate,
        Call.inCell_of_error hsame.symm (hs.world ▸ hcreate)]
      exact .error ⟨rfl, hs.cells⟩
    | ok renderer w =>
      rw [Call.inCell_of_ok hcell hcreate, Call.inCell_of_ok hsame.symm (hs.world ▸ hcreate)]
      refine .ok rfl ⟨rfl, ?_⟩
      intro other otherSlot otherSlot' hother hother' mimetype'
      have hcells := hi.cells extension other slot otherSlot slot' otherSlot' hslot hother
        hslot' hother'
      -- the cell that was filled is the same one under both numbers
      have hiff : (otherSlot.cells, mimetype') = (slot.cells, mimetype) ↔
          (otherSlot'.cells, mimetype') = (slot'.cells, mimetype) := by
        rw [Prod.mk.injEq, Prod.mk.injEq, hcells]
      by_cases hfilled : (otherSlot.cells, mimetype') = (slot.cells, mimetype)
      · rw [hfilled, hiff.1 hfilled, List.lookup_cons_self, List.lookup_cons_self]
      · rw [List.lookup_cons, List.lookup_cons, beq_false_of_ne hfilled,
          beq_false_of_ne (mt hiff.2 hfilled)]
        exact hs.cells other otherSlot otherSlot' hother hother' mimetype'

theorem agree_renderer (hi : i.Renumbered i') (extension : String) (ft : FileType σ)
    (context : EngineContext) :
    Agree (SameCells i i') Eq (i.renderer extension ft context)
      (i'.renderer extension ft context) := by
  have hengine := hi.engine extension
  unfold renderer
  cases hslot : Keyed.find? extension i.slots with
  | none =>
    rw [hslot] at hengine
    rw [Option.map_eq_none_iff.1 hengine.symm]
    exact .throw _
  | some slot =>
    rw [hslot] at hengine
    obtain ⟨slot', hslot', hsame⟩ := Option.map_eq_some_iff.1 hengine.symm
    rw [hslot']
    dsimp only
    by_cases hmime : ft.mimetype ∈ i.mimetypes
    · rw [if_pos hmime, if_pos ((hi.mimetypes _).1 hmime), hsame]
      exact agree_inCell hi hslot hslot' ft.mimetype _
    · rw [if_neg hmime, if_neg (mt (hi.mimetypes _).2 hmime)]
      exact .throw _

theorem Renumbered.containsExtension (hi : i.Renumbered i') :
    i'.containsExtension = i.containsExtension := by
  funext extension
  have hengine := congrArg Option.isSome (hi.engine extension)
  rw [Option.isSome_map, Option.isSome_map] at hengine
  exact hengine.symm

end Cells

end EngineIndex

/-! ## Pipelines with other numbers -/

namespace Pipeline

/-- Pipelines that are the same but for the numbers of their cells. -/
structure Renumbered (p p' : Pipeline σ) : Prop where
  context : p'.context = p.context
  loaders : p'.loaders = p.loaders
  filetypes : p'.filetypes = p.filetypes
  generation : p'.generation = p.generation
  engines : p.engines.Renumbered p'.engines

section Renumbered

variable {p p' : Pipeline σ}

theorem Renumbered.plan (h : p.Renumbered p') : p'.plan = p.plan := by
  funext path useLoader
  unfold Pipeline.plan chainOf filetypeOf loaderOf EngineIndex.resolveChain
  rw [h.loaders, h.filetypes, h.engines.containsExtension]

theorem agree_renderers_of_renumbered (h : p.Renumbered p') (ft : FileType σ)
    (keys : List String) :
    Agree (EngineIndex.SameCells p.engines p'.engines) Eq (p.renderers ft keys)
      (p'.renderers ft keys) := by
  induction keys with
  | nil => exact .pure rfl
  | cons key rest ih =>
    unfold renderers
    rw [h.context]
    refine (EngineIndex.agree_renderer h.engines key ft p.context).bind_eq ?_
    intro renderer
    exact ih.bind_eq fun others => .pure rfl

theorem agree_instantiate_of_renumbered (h : p.Renumbered p') (plan : Plan σ) :
    Agree (EngineIndex.SameCells p.engines p'.engines) Eq (p.instantiate plan)
      (p'.instantiate plan) := by
  unfold instantiate
  exact (agree_renderers_of_renumbered h plan.filetype plan.engines).bind_eq fun chain =>
    .pure rfl

theorem agree_resolve_of_renumbered (h : p.Renumbered p') (path : String) :
    Agree (EngineIndex.SameCells p.engines p'.engines) Eq (p.resolve path) (p'.resolve path) := by
  unfold resolve
  rw [h.plan]
  cases p.plan path true with
  | error e => exact .throw e
  | ok plan =>
    dsimp only
    split
    · exact .throw _
    · exact agree_instantiate_of_renumbered h plan

/-- One question gets the same answer, and the cells are filled alike. -/
theorem agree_ask_of_renumbered (h : p.Renumbered p') (q : Query) :
    Agree (EngineIndex.SameCells p.engines p'.engines) Eq (p.ask q) (p'.ask q) := by
  unfold ask
  cases q with
  | resolve path =>
    exact (agree_resolve_of_renumbered h path).bind_eq fun r => .pure rfl
  | render path vars =>
    refine Agree.bind_eq ?_ fun text => .pure rfl
    unfold render
    refine (agree_resolve_of_renumbered h path).bind_eq ?_
    intro r
    cases r.loader with
    | none => exact .throw _
    | some loader => exact EngineIndex.agree_ofAction _
  | renderContent content path vars =>
    refine Agree.bind_eq ?_ fun text => .pure rfl
    unfold renderContent
    rw [h.plan]
    cases p.plan path false with
    | error e => exact .throw e
    | ok plan =>
      exact (agree_instantiate_of_renumbered h plan).bind_eq fun r =>
        EngineIndex.agree_ofAction _
  | mimetype path =>
    dsimp only
    rw [show p'.mimetype path = p.mimetype path by unfold mimetype; rw [h.plan]]
    exact EngineIndex.agree_ofAction _
  | hash path =>
    dsimp only
    rw [show p'.hash path = p.hash path by unfold hash; rw [h.plan, h.generation]]
    exact EngineIndex.agree_ofAction _
  | paths wanted includeHidden =>
    intro s s' hs
    have hrenders : p'.rendersTo = p.rendersTo := by
      funext wanted path
      unfold rendersTo mimetype
      rw [h.plan]
    have hpaths : p'.paths wanted includeHidden s'.world =
        p.paths wanted includeHidden s.world := by
      unfold paths
      rw [h.loaders, hrenders, hs.world]
    exact .ok (congrArg Answer.listing hpaths.symm) hs

theorem answers_of_renumbered (h : p.Renumbered p') (queries : List Query) {s s' : Session σ}
    (hs : EngineIndex.SameCells p.engines p'.engines s s') :
    p.answers queries s = p'.answers queries s' := by
  induction queries generalizing s s' with
  | nil => rfl
  | cons q rest ih =>
    obtain ⟨hanswer, hnext⟩ := (agree_ask_of_renumbered h q).seen_eq hs
    unfold answers
    rw [hanswer, ih hnext]

end Renumbered

end Pipeline

/-! ## Similar builders -/

theorem FileTypeRegistry.mem_types_iff {r : FileTypeRegistry σ} (h : r.mimetypes.Nodup)
    {ft : FileType σ} : ft ∈ r.types ↔ r.find? ft.mimetype = some ft := by
  constructor
  · intro hmem
    cases hfind : r.find? ft.mimetype with
    | none => exact absurd (List.mem_map_of_mem hmem) (find?_eq_none_iff.1 hfind)
    | some found =>
      have hfound : found ∈ r.types := List.mem_of_find?_eq_some hfind
      exact congrArg some (List.inj_on_of_nodup_map h hfound hmem (mimetype_of_find? hfind))
  · exact List.mem_of_find?_eq_some

namespace PipelineBuilder.Similar

variable {b b' : PipelineBuilder σ}

theorem symm (h : Similar b b') : Similar b' b :=
  ⟨h.context.symm, h.roots.symm, h.generation.symm, fun t => (h.held t).symm⟩

theorem engines (h : Similar b b') (extension : String) :
    b.engines.find? extension = b'.engines.find? extension :=
  Held.engine.inj (h.held (.engine extension))

theorem mem_engine_extensions (h : Similar b b') (extension : String) :
    extension ∈ b.engines.extensions ↔ extension ∈ b'.engines.extensions := by
  rw [← EngineRegistry.isSome_find?_iff, ← EngineRegistry.isSome_find?_iff, h.engines]

/-- The same file types are registered, in whichever order. -/
theorem types_perm (hb : Configured b) (hb' : Configured b') (h : Similar b b') :
    b.filetypes.types.Perm b'.filetypes.types := by
  refine (List.perm_ext_iff_of_nodup (.of_map _ hb.nodup_mimetypes)
    (.of_map _ hb'.nodup_mimetypes)).2 ?_
  intro ft
  rw [FileTypeRegistry.mem_types_iff hb.nodup_mimetypes,
    FileTypeRegistry.mem_types_iff hb'.nodup_mimetypes,
    Held.filetype.inj (h.held (.filetype ft.mimetype))]

theorem finalize_loaders (hb : Configured b) (hb' : Configured b') (h : Similar b b') :
    b.loaders.finalize (b.filetypes.extensions ++ b.engines.extensions) =
      b'.loaders.finalize (b'.filetypes.extensions ++ b'.engines.extensions) := by
  refine LoaderRegistry.finalize_congr hb.sorted_chains hb'.sorted_chains h.roots
    (Held.defaultLoader.inj (h.held .defaultLoader))
    (fun extension => Held.loaders.inj (h.held (.loaders extension))) ?_
  intro extension
  have hfiletypes := ((types_perm hb hb' h).flatMap_right (·.extensions)).mem_iff (a := extension)
  rw [List.mem_append, List.mem_append, h.mem_engine_extensions]
  exact or_congr hfiletypes Iff.rfl

end PipelineBuilder.Similar

/-- Similar builders are finished to pipelines that are the same but for the numbers of
    their cells. -/
theorem PipelineBuilder.finalize_of_similar {b b' : PipelineBuilder σ} (hb : Configured b)
    (hb' : Configured b') (h : Similar b b') {p : Pipeline σ} (hp : b.finalize = .ok p) :
    ∃ p', b'.finalize = .ok p' ∧ p.Renumbered p' := by
  obtain ⟨hpopulated, hfiletypes, hcontext, hloaders, hengines, hgeneration⟩ :=
    finalize_eq_ok_iff.1 hp
  have hperm := Similar.types_perm hb hb' h
  refine ⟨{ p with engines := b'.engines.finalize b'.filetypes.mimetypes },
    finalize_eq_ok_iff.2 ⟨?_, ?_, ?_, ?_, rfl, ?_⟩, rfl, rfl, rfl, rfl, ?_⟩
  · intro hempty
    have hnone := hpopulated (List.perm_nil.1 (hempty ▸ hperm))
    refine List.eq_nil_iff_forall_not_mem.2 ?_
    intro extension hmem
    rw [← h.mem_engine_extensions, hnone] at hmem
    cases hmem
  · rw [← Held.defaultFileType.inj (h.held .defaultFileType)]
    exact FileTypeRegistry.finalize_of_perm hperm hb.nodup_mimetypes hfiletypes
  · exact hcontext.trans h.context
  · exact hloaders.trans (Similar.finalize_loaders hb hb' h)
  · exact hgeneration.trans h.generation
  · show p.engines.Renumbered _
    rw [hengines]
    exact EngineIndex.renumbered h.engines fun mimetype =>
      (hperm.map (·.mimetype)).mem_iff

namespace Pipeline

/-- **The order of independent registrations does not matter.**  Two histories differ in the
    order of calls that stand side by side and have different targets: other parts of the
    configuration, or other mime types or extensions.  Then on each target the same calls are
    made in the same order, with the same outcomes; both histories can be finished or neither
    can; and the finished pipelines give the same answers to the same questions, in the same
    world. -/
theorem answers_of_reordered {b : PipelineBuilder σ} (hb : Configured b)
    {steps steps' : List (Step σ)} (h : Reordered steps steps') :
    (∀ t, callsOn t b steps = callsOn t b steps') ∧
    ((∃ p, (steps.foldl PipelineBuilder.after b).finalize = .ok p) ↔
      ∃ p', (steps'.foldl PipelineBuilder.after b).finalize = .ok p') ∧
    ∀ p p', (steps.foldl PipelineBuilder.after b).finalize = .ok p →
      (steps'.foldl PipelineBuilder.after b).finalize = .ok p' →
      ∀ queries w, p.answers queries ⟨[], w⟩ = p'.answers queries ⟨[], w⟩ := by
  obtain ⟨hsimilar, hcalls⟩ := PipelineBuilder.similar_of_swapped h.swapped b
  have hend := hb.foldl steps
  have hend' := hb.foldl steps'
  refine ⟨hcalls, ⟨?_, ?_⟩, ?_⟩
  · rintro ⟨p, hp⟩
    obtain ⟨p', hp', -⟩ := PipelineBuilder.finalize_of_similar hend hend' hsimilar hp
    exact ⟨p', hp'⟩
  · rintro ⟨p', hp'⟩
    obtain ⟨p, hp, -⟩ := PipelineBuilder.finalize_of_similar hend' hend hsimilar.symm hp'
    exact ⟨p, hp⟩
  · intro p p' hp hp' queries w
    obtain ⟨q, hq, hnumbers⟩ := PipelineBuilder.finalize_of_similar hend hend' hsimilar hp
    obtain rfl : q = p' := Except.ok.inj (hq.symm.trans hp')
    exact answers_of_renumbered hnumbers queries ⟨rfl, fun _ _ _ _ _ _ => rfl⟩

namespace Notes

/-- A second engine, which is another one than the first. -/
def second : Engine Unit := ⟨.numbered 1, fun _ _ => pure bracket⟩

/-- The notes without engines. -/
def plainSteps : List (Step Unit) :=
  [.filetype "text/css", .editFileType "text/css" (.addExtension "css"),
    .filetype "text/plain", .editFileType "text/plain" (.addExtension "txt"),
    .editLoaders "txt" (· ++ [templates])]

/-- The notes with two engines, whose cells have these numbers. -/
def numbered (tpl md : Nat) : Pipeline Unit :=
  { pipeline with
    engines := ⟨[("md", ⟨second, md⟩), ("tpl", ⟨engine, tpl⟩)], ["text/css", "text/plain"]⟩
    generation := 5 }

theorem reordered_engines : Reordered
    (plainSteps ++ [.registerEngine "tpl" engine, .registerEngine "md" second])
    (plainSteps ++ [.registerEngine "md" second, .registerEngine "tpl" engine]) := by
  show Reordered
    (plainSteps ++ [.registerEngine "tpl" engine, .registerEngine "md" second] ++ []) _
  exact .permute (.swap _ _ []) (by decide) (.refl _)

end Notes

/-- Two engines get their numbers in the order in which they are registered, and nobody can
    tell. -/
theorem answers_of_reordered_engines :
    Notes.numbered 0 1 ≠ Notes.numbered 1 0 ∧
      ∀ queries w, (Notes.numbered 0 1).answers queries ⟨[], w⟩ =
        (Notes.numbered 1 0).answers queries ⟨[], w⟩ := by
  constructor
  · intro h
    have hcells := congrArg (fun p => p.engines.slots.map fun slot => slot.2.cells) h
    exact absurd hcells (by decide)
  · exact (answers_of_reordered (.new ⟨[], none⟩) Notes.reordered_engines).2.2 _ _ rfl rfl

end Pipeline

end RenderChain
