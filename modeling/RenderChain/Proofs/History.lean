/-
  RenderChain/Proofs/History.lean
  ===============================
  **What was asked before does not matter.**

  A pipeline is asked one thing after the other, and between two questions it
  keeps the renderers that it has built; its engines, loaders and
  post-processors may keep something as well.  Nobody can tell, provided that
  these parts are steady by themselves: an engine that is asked again for a file
  type fails again, or builds a renderer that renders the same as the first.
  What carries the proof is that each filled cell holds what its engine would
  build now, whoever has filled it, under whichever extension, and whatever
  became of that call.

    * `Pipeline.IsSteady`: what is expected of the parts of a pipeline;
    * `Pipeline.Ready`: the sessions in which each cell holds what its engine
      would build;
    * `agree_ask`: from any two such sessions a question is answered the same, and
      leads to such a session;
    * `answers_independent_of_history`: so the answers in a row are those that
      each question would have got first.
-/
import RenderChain.Proofs.Agreement
import RenderChain.Proofs.Configuration

namespace RenderChain

variable {σ : Type}

/-! ## Questions -/

/-- A question to a finished pipeline. -/
inductive Query
  | resolve (path : String)
  | render (path : String) (vars : Json)
  | renderContent (content path : String) (vars : Json)
  | mimetype (path : String)
  | hash (path : String)
  | paths (wanted : Option String) (includeHidden : Bool)

/-- What the caller gets; of the renderers of a resolution only the keys can be seen. -/
inductive Answer (σ : Type)
  | resolution (plan : Plan σ)
  | text (s : String)
  | listing (paths : List String)

/-- A resolution without its renderers. -/
def Resolution.plan (r : Resolution σ) : Plan σ :=
  ⟨r.loader, r.loaderKey, r.filetype, r.filetypeKey, r.engineKeys⟩

namespace Pipeline

def ask (p : Pipeline σ) : Query → Call σ (Answer σ)
  | .resolve path => do return .resolution (← p.resolve path).plan
  | .render path vars => do return .text (← p.render path vars)
  | .renderContent content path vars => do return .text (← p.renderContent content path vars)
  | .mimetype path => Call.ofAction do return .text (← Action.ofExcept (p.mimetype path))
  | .hash path => Call.ofAction do return .text (← p.hash path)
  | .paths wanted includeHidden => do
    return .listing (p.paths wanted includeHidden (← Call.world))

/-- The answers to questions that are asked one after the other. -/
def answers (p : Pipeline σ) : List Query → Session σ → List (Except Error (Answer σ))
  | [], _ => []
  | q :: rest, s => seen (p.ask q s) :: p.answers rest (stateOf (p.ask q s))

end Pipeline

/-! ## Steady parts -/

/-- Renderers that render the same, in any worlds of the invariant. -/
structure Renderer.Interchangeable (inv : World σ → Prop) (a b : Renderer σ) : Prop where
  renderString : ∀ content vars path,
    Agree (Both inv) Eq (a.renderString content vars path) (b.renderString content vars path)
  renderFile : ∀ file vars path,
    Agree (Both inv) Eq (a.renderFile file vars path) (b.renderFile file vars path)

/-- What is expected of the parts of a pipeline, in the worlds of an invariant. -/
structure Pipeline.IsSteady (inv : World σ → Prop) (p : Pipeline σ) : Prop where
  files : FixesFiles inv
  /-- One identity is one engine. -/
  identity : ∀ key key' slot slot', Keyed.find? key p.engines.slots = some slot →
    Keyed.find? key' p.engines.slots = some slot' → slot.engine.id = slot'.engine.id →
    slot.engine = slot'.engine
  /-- Creation fails with the same error, or builds renderers that render the same. -/
  engines : ∀ key slot ft, Keyed.find? key p.engines.slots = some slot →
    p.filetypes.find? ft.mimetype = some ft →
    Agree (Both inv) (Renderer.Interchangeable inv)
      (slot.engine.createRenderer p.context ft) (slot.engine.createRenderer p.context ft)
  postprocessors : ∀ mimetype ft, p.filetypes.find? mimetype = some ft →
    ∀ post ∈ ft.postprocessors, ∀ text, Steady inv (post text)
  loaders : ∀ l ∈ p.loaders.all, ∀ own ∈ l.customs, own.IsSteady inv

namespace Renderer.Interchangeable

variable {inv : World σ → Prop} {a b c : Renderer σ}

theorem symm (h : a.Interchangeable inv b) : b.Interchangeable inv a :=
  ⟨fun content vars path => (h.renderString content vars path).symm,
    fun file vars path => (h.renderFile file vars path).symm⟩

theorem trans (h : a.Interchangeable inv b) (h' : b.Interchangeable inv c) :
    a.Interchangeable inv c :=
  ⟨fun content vars path =>
      (h.renderString content vars path).trans (h'.renderString content vars path),
    fun file vars path => (h.renderFile file vars path).trans (h'.renderFile file vars path)⟩

end Renderer.Interchangeable

/-- A renderer that reads files only to render their texts is as steady as it is with
    texts. -/
theorem Renderer.interchangeable_ofString {inv : World σ → Prop} (hfiles : FixesFiles inv)
    {f g : String → Variables → Option String → Action σ String}
    (h : ∀ content vars path, Agree (Both inv) Eq (f content vars path) (g content vars path))
    (id id' : RendererId) :
    (Renderer.ofString id f).Interchangeable inv (Renderer.ofString id' g) where
  renderString := h
  renderFile file vars path := by
    refine (hfiles.readText file).bind_eq ?_
    intro content
    exact h content vars path

namespace Pipeline

/-! ## Filled cells -/

/-- Each filled cell holds what its engine would build for the file type of the mime
    type, in any world of the invariant. -/
def Filled (p : Pipeline σ) (inv : World σ → Prop) (cells : Cells σ) : Prop :=
  ∀ key slot ft renderer, Keyed.find? key p.engines.slots = some slot →
    p.filetypes.find? ft.mimetype = some ft →
    cells.lookup (slot.cells, ft.mimetype) = some renderer → ∀ w, inv w →
      ∃ built w', slot.engine.createRenderer p.context ft w = .ok built w' ∧ inv w' ∧
        renderer.Interchangeable inv built

structure Ready (p : Pipeline σ) (inv : World σ → Prop) (s : Session σ) : Prop where
  world : inv s.world
  filled : p.Filled inv s.cells

theorem ready_empty (p : Pipeline σ) {inv : World σ → Prop} {w : World σ} (hw : inv w) :
    p.Ready inv ⟨[], w⟩ where
  world := hw
  filled := by
    intro key slot ft renderer _ _ hcell
    cases hcell

section Cells

variable {b : PipelineBuilder σ} {p : Pipeline σ} {inv : World σ → Prop}

/-- Sets of cells are shared by extensions of one engine only. -/
theorem engine_eq_of_cells (hb : b.Finalized p) (hp : p.IsSteady inv) {key key' : String}
    {slot slot' : EngineSlot σ} (hslot : Keyed.find? key p.engines.slots = some slot)
    (hslot' : Keyed.find? key' p.engines.slots = some slot') (h : slot.cells = slot'.cells) :
    slot.engine = slot'.engine := by
  refine hp.identity key key' slot slot' hslot hslot' ?_
  rw [hb.engines] at hslot hslot'
  exact (EngineIndex.cells_eq_iff hslot hslot').1 h

/-- A cell that has been filled by an engine holds what the engine would build. -/
theorem Filled.cons (hb : b.Finalized p) (hp : p.IsSteady inv) {cells : Cells σ}
    (hcells : p.Filled inv cells) {key : String} {slot : EngineSlot σ} {ft : FileType σ}
    (hslot : Keyed.find? key p.engines.slots = some slot)
    (hft : p.filetypes.find? ft.mimetype = some ft) {renderer : Renderer σ} {w w₁ : World σ}
    (hw : inv w) (hcreate : slot.engine.createRenderer p.context ft w = .ok renderer w₁) :
    p.Filled inv (((slot.cells, ft.mimetype), renderer) :: cells) := by
  intro key' slot' ft' renderer' hslot' hft' hcell w' hw'
  by_cases hsame : (slot'.cells, ft'.mimetype) = (slot.cells, ft.mimetype)
  · obtain ⟨hnumber, hmime⟩ := Prod.mk.inj hsame
    have hengine := engine_eq_of_cells hb hp hslot' hslot hnumber
    rw [hmime, hft] at hft'
    obtain rfl : ft = ft' := Option.some.inj hft'
    rw [hsame, List.lookup_cons_self] at hcell
    obtain rfl : renderer = renderer' := Option.some.inj hcell
    have hagree := hp.engines key slot ft hslot hft w w' ⟨hw, hw'⟩
    rw [hcreate] at hagree
    rw [hengine]
    cases hbuilt : slot.engine.createRenderer p.context ft w' with
    | ok built w₂ =>
      rw [hbuilt] at hagree
      cases hagree with
      | ok hr hs => exact ⟨built, w₂, rfl, hs.2, hr⟩
    | error e w₂ =>
      rw [hbuilt] at hagree
      cases hagree
  · rw [List.lookup_cons, beq_false_of_ne hsame] at hcell
    exact hcells key' slot' ft' renderer' hslot' hft' hcell w' hw'

/-- A request gives what the engine would build, in whichever world it is asked. -/
theorem agree_inCell (hb : b.Finalized p) (hp : p.IsSteady inv) {key : String}
    {slot : EngineSlot σ} {ft : FileType σ}
    (hslot : Keyed.find? key p.engines.slots = some slot)
    (hft : p.filetypes.find? ft.mimetype = some ft) :
    Agree (fun s w => p.Ready inv s ∧ inv w) (Renderer.Interchangeable inv)
      (Call.inCell (slot.cells, ft.mimetype) (slot.engine.createRenderer p.context ft))
      (slot.engine.createRenderer p.context ft) := by
  rintro s w ⟨hs, hw⟩
  cases hcell : s.cells.lookup (slot.cells, ft.mimetype) with
  | some renderer =>
    obtain ⟨built, w', hbuilt, hw', hsame⟩ :=
      hs.filled key slot ft renderer hslot hft hcell w hw
    rw [Call.inCell_of_some hcell, hbuilt]
    exact .ok hsame ⟨hs, hw'⟩
  | none =>
    have hagree := hp.engines key slot ft hslot hft s.world w ⟨hs.world, hw⟩
    cases hcreate : slot.engine.createRenderer p.context ft s.world with
    | ok renderer w₁ =>
      have hfilled := hs.filled.cons hb hp hslot hft hs.world hcreate
      rw [Call.inCell_of_ok hcell hcreate]
      rw [hcreate] at hagree
      generalize slot.engine.createRenderer p.context ft w = built at hagree ⊢
      cases hagree with
      | ok hr hw₁ => exact .ok hr ⟨⟨hw₁.1, hfilled⟩, hw₁.2⟩
    | error e w₁ =>
      rw [Call.inCell_of_error hcell hcreate]
      rw [hcreate] at hagree
      generalize slot.engine.createRenderer p.context ft w = built at hagree ⊢
      cases hagree with
      | error hw₁ => exact .error ⟨⟨hw₁.1, hs.filled⟩, hw₁.2⟩

/-- So it does not matter what is in the cells. -/
theorem agree_renderer (hb : b.Finalized p) (hp : p.IsSteady inv) {ft : FileType σ}
    (hft : p.filetypes.find? ft.mimetype = some ft) (key : String) :
    Agree (Both (p.Ready inv)) (Renderer.Interchangeable inv)
      (p.engines.renderer key ft p.context) (p.engines.renderer key ft p.context) := by
  rintro s t ⟨hs, ht⟩
  unfold EngineIndex.renderer
  cases hslot : Keyed.find? key p.engines.slots with
  | none => exact .error ⟨hs, ht⟩
  | some slot =>
    dsimp only
    split
    · have hagree := agree_inCell hb hp hslot hft
      refine (hagree s s.world ⟨hs, hs.world⟩).join (hagree t s.world ⟨ht, hs.world⟩) ?_ ?_
      · intro a b c hac hbc
        exact hac.trans hbc.symm
      · intro s' t' w hs' ht'
        exact ⟨hs'.1, ht'.1⟩
    · exact .error ⟨hs, ht⟩

end Cells

/-! ## Resolutions -/

/-- Resolutions by the pipeline that can only be told apart by what their renderers are,
    and not by what these do. -/
structure Interchangeable (p : Pipeline σ) (inv : World σ → Prop) (r r' : Resolution σ) :
    Prop where
  plan : r.plan = r'.plan
  chain : List.Forall₂ (fun link link' => link.2.Interchangeable inv link'.2) r.chain r'.chain
  filetype : p.filetypes.find? r.filetype.mimetype = some r.filetype
  loader : ∀ l, r.loader = some l → l ∈ p.loaders.all

section Resolve

variable {b : PipelineBuilder σ} {p : Pipeline σ} {inv : World σ → Prop} {path : String}
  {useLoader : Bool} {plan : Plan σ}

/-- The file type of a plan is the one that is found by its mime type. -/
theorem find?_of_plan (hb : b.Finalized p) (hnodup : b.filetypes.mimetypes.Nodup)
    (hplan : p.plan path useLoader = .ok plan) :
    p.filetypes.find? plan.filetype.mimetype = some plan.filetype :=
  hb.filetypes.find?_mimetype hnodup (mem_types_of_plan hb hplan)

theorem loader_mem_of_plan (hplan : p.plan path useLoader = .ok plan) {l : Loader σ}
    (hl : plan.loader = some l) : l ∈ p.loaders.all := by
  have hloader := (plan_eq_ok_iff.1 hplan).loader
  rw [hl] at hloader
  cases useLoader with
  | false => cases hloader
  | true =>
    rw [if_pos rfl] at hloader
    unfold loaderOf at hloader
    cases hfound : p.loaders.resolve (Suffixes.parse path) with
    | none =>
      rw [hfound] at hloader
      cases hloader
    | some choice =>
      obtain ⟨l', found⟩ := choice
      rw [hfound] at hloader
      obtain rfl : l = l' := Option.some.inj hloader
      exact LoaderIndex.mem_all_of_resolve hfound

theorem agree_renderers (hb : b.Finalized p) (hp : p.IsSteady inv) {ft : FileType σ}
    (hft : p.filetypes.find? ft.mimetype = some ft) (keys : List String) :
    Agree (Both (p.Ready inv))
      (List.Forall₂ fun link link' => link.1 = link'.1 ∧ link.2.Interchangeable inv link'.2)
      (p.renderers ft keys) (p.renderers ft keys) := by
  induction keys with
  | nil => exact .pure .nil
  | cons key rest ih =>
    unfold renderers
    refine (agree_renderer hb hp hft key).bind ?_
    intro first first' hfirst
    refine ih.bind ?_
    intro others others' hothers
    exact .pure (.cons ⟨rfl, hfirst⟩ hothers)

theorem agree_instantiate (hb : b.Finalized p) (hnodup : b.filetypes.mimetypes.Nodup)
    (hp : p.IsSteady inv) (hplan : p.plan path useLoader = .ok plan) :
    Agree (Both (p.Ready inv)) (p.Interchangeable inv) (p.instantiate plan)
      (p.instantiate plan) := by
  have hft := find?_of_plan hb hnodup hplan
  unfold instantiate
  refine (agree_renderers hb hp hft plan.engines).bind ?_
  intro chain chain' hchain
  have hkeys : chain.map Prod.fst = chain'.map Prod.fst := by
    induction hchain with
    | nil => rfl
    | cons hlink _ ih => rw [List.map_cons, List.map_cons, hlink.1, ih]
  refine .pure ⟨?_, hchain.imp fun _ _ hlink => hlink.2, hft, ?_⟩
  · unfold Resolution.plan Resolution.engineKeys
    rw [hkeys]
  · intro l hl
    exact loader_mem_of_plan hplan hl

theorem agree_resolve (hb : b.Finalized p) (hnodup : b.filetypes.mimetypes.Nodup)
    (hp : p.IsSteady inv) (path : String) :
    Agree (Both (p.Ready inv)) (p.Interchangeable inv) (p.resolve path) (p.resolve path) := by
  unfold resolve
  cases hplan : p.plan path true with
  | error e => exact .throw e
  | ok plan =>
    dsimp only
    split
    · exact .throw _
    · exact agree_instantiate hb hnodup hp hplan

end Resolve

/-! ## Rendering -/

section Render

variable {p : Pipeline σ} {inv : World σ → Prop} {r r' : Resolution σ} {path : String}
  {vars : Variables}

theorem agree_renderAll {chain chain' : List (String × Renderer σ)}
    (h : List.Forall₂ (fun link link' => link.2.Interchangeable inv link'.2) chain chain')
    (content : String) :
    Agree (Both inv) Eq (renderAll path vars content chain)
      (renderAll path vars content chain') := by
  induction h generalizing content with
  | nil => exact .pure rfl
  | cons hlink _ ih =>
    unfold renderAll
    exact (hlink.renderString content vars (some path)).bind_eq ih

theorem agree_renderChain (hfiles : FixesFiles inv) {chain chain' : List (String × Renderer σ)}
    (h : List.Forall₂ (fun link link' => link.2.Interchangeable inv link'.2) chain chain')
    (source : Loaded) :
    Agree (Both inv) Eq (renderChain path vars source chain)
      (renderChain path vars source chain') := by
  cases h with
  | nil => exact hfiles.read source
  | cons hlink hrest =>
    unfold renderChain
    cases source with
    | file file =>
      exact (hlink.renderFile file vars (some path)).bind_eq (agree_renderAll hrest)
    | inline content =>
      exact (hlink.renderString content vars (some path)).bind_eq (agree_renderAll hrest)

theorem agree_execute (hp : p.IsSteady inv) (h : p.Interchangeable inv r r') (path : String)
    (source : Loaded) (vars : Json) :
    Agree (Both inv) Eq (execute r path source vars) (execute r' path source vars) := by
  have hft : r.filetype = r'.filetype := congrArg Plan.filetype h.plan
  unfold execute
  rw [← hft]
  refine (Steady.ofExcept _).bind_eq ?_
  intro merged
  refine (agree_renderChain hp.files h.chain source).bind_eq ?_
  intro text
  unfold FileType.postprocess
  refine .foldlM ?_ text
  intro text' post hpost
  exact hp.postprocessors r.filetype.mimetype r.filetype h.filetype post hpost text'

/-- Actions leave the cells as they are. -/
theorem agree_ofAction {α : Type} {R : α → α → Prop} {x y : Action σ α}
    (h : Agree (Both inv) R x y) :
    Agree (Both (p.Ready inv)) R (Call.ofAction x) (Call.ofAction y) := by
  rintro s t ⟨hs, ht⟩
  have hxy := h s.world t.world ⟨hs.world, ht.world⟩
  rw [Call.ofAction_apply, Call.ofAction_apply]
  generalize x s.world = result at hxy ⊢
  generalize y t.world = result' at hxy ⊢
  cases hxy with
  | ok hr hw => exact .ok hr ⟨⟨hw.1, hs.filled⟩, ⟨hw.2, ht.filled⟩⟩
  | error hw => exact .error ⟨⟨hw.1, hs.filled⟩, ⟨hw.2, ht.filled⟩⟩

end Render

/-! ## Any question, any history -/

section Ask

variable {b : PipelineBuilder σ} {p : Pipeline σ} {inv : World σ → Prop}

theorem agree_render (hb : b.Finalized p) (hnodup : b.filetypes.mimetypes.Nodup)
    (hp : p.IsSteady inv) (path : String) (vars : Json) :
    Steady (p.Ready inv) (p.render path vars) := by
  unfold render
  refine (agree_resolve hb hnodup hp path).bind ?_
  intro r r' hr
  have hloader : r.loader = r'.loader := congrArg Plan.loader hr.plan
  rw [← hloader]
  cases hl : r.loader with
  | none => exact .throw _
  | some l =>
    refine agree_ofAction ?_
    refine (Loader.steady_load hp.files l (hp.loaders l (hr.loader l hl)) path).bind_eq ?_
    intro loaded
    exact agree_execute hp hr path loaded vars

theorem agree_renderContent (hb : b.Finalized p) (hnodup : b.filetypes.mimetypes.Nodup)
    (hp : p.IsSteady inv) (content path : String) (vars : Json) :
    Steady (p.Ready inv) (p.renderContent content path vars) := by
  unfold renderContent
  cases hplan : p.plan path false with
  | error e => exact .throw e
  | ok plan =>
    refine (agree_instantiate hb hnodup hp hplan).bind ?_
    intro r r' hr
    exact agree_ofAction (agree_execute hp hr path (.inline content) vars)

theorem agree_hash (hp : p.IsSteady inv) (path : String) : Steady inv (p.hash path) := by
  unfold hash
  cases hplan : p.plan path true with
  | error e => exact .throw e
  | ok plan =>
    dsimp only
    cases hl : plan.loader with
    | none => exact .throw _
    | some l =>
      have hcustoms := hp.loaders l (loader_mem_of_plan hplan hl)
      exact (Loader.steady_hash hp.files l hcustoms path).bind_eq fun content => .pure rfl

theorem paths_eq (hp : p.IsSteady inv) (wanted : Option String) (includeHidden : Bool)
    {w w' : World σ} (hw : inv w) (hw' : inv w') :
    p.paths wanted includeHidden w = p.paths wanted includeHidden w' := by
  unfold paths
  rw [LoaderIndex.steady_paths hp.files hp.loaders hw hw']

/-- One question: in any two ready sessions it is answered the same, and leaves them
    ready, also if it fails. -/
theorem agree_ask (hb : b.Finalized p) (hnodup : b.filetypes.mimetypes.Nodup)
    (hp : p.IsSteady inv) (q : Query) : Steady (p.Ready inv) (p.ask q) := by
  unfold ask
  cases q with
  | resolve path =>
    refine (agree_resolve hb hnodup hp path).bind ?_
    intro r r' hr
    exact .pure (congrArg Answer.resolution hr.plan)
  | render path vars => exact (agree_render hb hnodup hp path vars).bind_eq fun _ => .pure rfl
  | renderContent content path vars =>
    exact (agree_renderContent hb hnodup hp content path vars).bind_eq fun _ => .pure rfl
  | mimetype path =>
    exact agree_ofAction ((Steady.ofExcept (p.mimetype path)).bind_eq fun _ => .pure rfl)
  | hash path => exact agree_ofAction ((agree_hash hp path).bind_eq fun _ => .pure rfl)
  | paths wanted includeHidden =>
    rintro s t ⟨hs, ht⟩
    exact .ok (congrArg Answer.listing (paths_eq hp wanted includeHidden hs.world ht.world))
      ⟨hs, ht⟩

/-- Many questions in a row, each compared with itself in one other session. -/
theorem answers_of_ready (hb : b.Finalized p) (hnodup : b.filetypes.mimetypes.Nodup)
    (hp : p.IsSteady inv) (queries : List Query) {s t : Session σ} (hs : p.Ready inv s)
    (ht : p.Ready inv t) :
    p.answers queries s = queries.map fun q => seen (p.ask q t) := by
  induction queries generalizing s with
  | nil => rfl
  | cons q rest ih =>
    obtain ⟨hanswer, hnext⟩ := (agree_ask hb hnodup hp q).seen_eq ⟨hs, ht⟩
    unfold answers
    rw [List.map_cons, hanswer, ih hnext.1]

end Ask

namespace Notes

def steps : List (PipelineBuilder.Step Unit) :=
  [.filetype "text/css", .editFileType "text/css" (.addExtension "css"),
    .filetype "text/plain", .editFileType "text/plain" (.addExtension "txt"),
    .editLoaders "txt" (· ++ [templates]), .registerEngine "tpl" engine]

theorem finalize_steps :
    (steps.foldl PipelineBuilder.after (.new ⟨[], none⟩)).finalize = .ok pipeline := rfl

end Notes

end Pipeline

end RenderChain
