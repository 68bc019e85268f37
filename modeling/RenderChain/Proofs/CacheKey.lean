/-
  RenderChain/Proofs/CacheKey.lean
  ================================
  **What a cache key tells.**

  The key of a path is the digest of some bytes, which are fed with the path, the
  count of configuration calls, the mime type, the engine keys and the hash of
  the template.  The digest itself is never looked into: what a key tells is what
  the bytes tell, as far as no other bytes have the same digest, and this is
  assumed of the bytes in question only.

  Within one pipeline a key tells the path and the template (`keys_equal_iff`).
  Keys of two pipelines tell that the counts agree, and mime type, engine keys and
  template (`output_of_equal_keys`); they do not tell what the file types and the
  engines do, because these can be changed without being counted
  (`equal_keys_of_edited`).  If they are the same, so is the output.
-/
import RenderChain.Proofs.History
import RenderChain.Proofs.KeyBytes
import RenderChain.Proofs.LoaderKey
import RenderChain.Proofs.Loading

namespace RenderChain

open PipelineBuilder (Step)

variable {σ : Type}

namespace Pipeline

/-! ## Runs of `hash` -/

/-- A hash that succeeds, with what it has asked for and got. -/
structure HashRun (p : Pipeline σ) (path : String) (w : World σ) where
  plan : Plan σ
  loader : Loader σ
  /-- The hash of the template. -/
  content : String
  after : World σ
  planned : p.plan path true = .ok plan
  selected : plan.loader = some loader
  hashed : loader.hash path w = .ok content after

namespace HashRun

variable {p : Pipeline σ} {path : String} {w : World σ}

/-- The bytes that are digested. -/
def fed (run : p.HashRun path w) : List UInt8 :=
  keyBytes path p.generation run.plan.filetype.mimetype run.plan.engines run.content

def key (run : p.HashRun path w) : String := Digest.hex run.fed

/-- The bytes of the template that the loader of the path has loaded. -/
def Loads (run : p.HashRun path w) (template : List UInt8) : Prop :=
  ∃ loaded w₁, run.loader.load path w = .ok loaded w₁ ∧ loaded.bytes w₁ = .ok template run.after

end HashRun

theorem hash_eq_ok_iff {p : Pipeline σ} {path key : String} {w w' : World σ} :
    p.hash path w = .ok key w' ↔ ∃ run : p.HashRun path w, run.key = key ∧ run.after = w' := by
  unfold hash
  cases hplan : p.plan path true with
  | error e =>
    constructor
    · intro h
      cases h
    · rintro ⟨run, -, -⟩
      have hrun := run.planned
      rw [hplan] at hrun
      cases hrun
  | ok plan =>
    dsimp only
    cases hloader : plan.loader with
    | none =>
      constructor
      · intro h
        cases h
      · rintro ⟨run, -, -⟩
        have hselected := run.selected
        rw [← Except.ok.inj (hplan.symm.trans run.planned), hloader] at hselected
        cases hselected
    | some loader =>
      constructor
      · intro h
        obtain ⟨content, _, hhash, hkey⟩ := bind_eq_ok_iff.1 h
        cases hkey
        exact ⟨⟨plan, loader, content, _, hplan, hloader, hhash⟩, rfl, rfl⟩
      · rintro ⟨⟨plan', loader', content, after, hplan', hloader', hhash⟩, rfl, rfl⟩
        obtain rfl := Except.ok.inj (hplan.symm.trans hplan')
        obtain rfl := Option.some.inj (hloader.symm.trans hloader')
        exact bind_eq_ok_iff.2 ⟨content, _, hhash, rfl⟩

/-- A path has one run at one time. -/
theorem HashRun.unique {p : Pipeline σ} {path : String} {w : World σ}
    (run run' : p.HashRun path w) : run = run' := by
  obtain ⟨plan, loader, content, after, hplan, hloader, hhash⟩ := run
  obtain ⟨plan', loader', content', after', hplan', hloader', hhash'⟩ := run'
  obtain rfl := Except.ok.inj (hplan.symm.trans hplan')
  obtain rfl := Option.some.inj (hloader.symm.trans hloader')
  obtain ⟨rfl, rfl⟩ := EStateM.Result.ok.inj (hhash.symm.trans hhash')
  rfl

/-- A path that is resolved has a key if its loader has a hash for it. -/
theorem exists_hashRun {p : Pipeline σ} {path content : String} {s s' : Session σ}
    {r : Resolution σ} {loader : Loader σ} {w w' : World σ} (hr : p.resolve path s = .ok r s')
    (hloader : r.loader = some loader) (hhash : loader.hash path w = .ok content w') :
    ∃ run : p.HashRun path w, p.hash path w = .ok run.key w' ∧ run.content = content := by
  obtain ⟨plan, chain, hplan, -, -, rfl⟩ := resolve_eq_ok hr
  let run : p.HashRun path w := ⟨plan, loader, content, w', hplan, hloader, hhash⟩
  exact ⟨run, hash_eq_ok_iff.2 ⟨run, rfl, rfl⟩, rfl⟩

end Pipeline

/-! ## What the fields hold -/

/-- No mime type and no engine key of a builder holds the character NUL. -/
structure PipelineBuilder.NulFree (b : PipelineBuilder σ) : Prop where
  mimetypes : ∀ mimetype ∈ b.filetypes.mimetypes, '\x00' ∉ mimetype.toList
  engines : ∀ extension ∈ b.engines.extensions, '\x00' ∉ extension.toList

theorem EngineRegistry.ne_empty_of_register {r r' : EngineRegistry σ} {extension : String}
    {engine : Engine σ} (h : r.register extension engine = .ok r') : extension ≠ "" := by
  rintro rfl
  cases h

/-- Engines are never registered under the empty key. -/
theorem Configured.engine_ne_empty {b : PipelineBuilder σ} (h : Configured b) :
    ∀ extension ∈ b.engines.extensions, extension ≠ "" := by
  induction h with
  | new context =>
    intro extension hmem
    cases hmem
  | @step b h step ih =>
    intro extension hmem
    rcases b.engines_after step with hsame | ⟨added, engine, rfl, hadded⟩
    · rw [hsame] at hmem
      exact ih extension hmem
    · unfold EngineRegistry.extensions at hmem
      rw [hadded, List.map_append, List.mem_append] at hmem
      rcases hmem with hold | hnew
      · exact ih extension hold
      · rw [List.mem_singleton.1 hnew]
        cases hregister : b.engines.register added engine with
        | ok engines => exact EngineRegistry.ne_empty_of_register hregister
        | error fault =>
          have hkept : (b.after (.registerEngine added engine)).engines = b.engines := by
            unfold PipelineBuilder.after
            rw [PipelineBuilder.Step.run, PipelineBuilder.registerEngine_apply, hregister]
          rw [hkept] at hadded
          exact absurd hadded (by simp)

namespace Pipeline

section Fields

variable {b : PipelineBuilder σ} {p : Pipeline σ} {path : String} {w : World σ}

/-- The engine keys of a plan are extensions for which engines are registered. -/
theorem mem_extensions_of_plan (h : b.Finalized p) {useLoader : Bool} {plan : Plan σ}
    (hplan : p.plan path useLoader = .ok plan) {key : String} (hkey : key ∈ plan.engines) :
    key ∈ b.engines.extensions := by
  obtain ⟨slot, hslot⟩ := exists_slot_of_plan hplan hkey
  rw [h.engines] at hslot
  exact List.mem_map.2 ⟨_, EngineIndex.mem_engines hslot, rfl⟩

namespace HashRun

theorem nul_not_mem_mimetype (h : b.Finalized p) (hnul : b.NulFree) (run : p.HashRun path w) :
    '\x00' ∉ run.plan.filetype.mimetype.toList :=
  hnul.mimetypes _ (List.mem_map.2 ⟨_, mem_types_of_plan h run.planned, rfl⟩)

theorem nul_not_mem_engines (h : b.Finalized p) (hnul : b.NulFree) (run : p.HashRun path w) :
    '\x00' ∉ (dotted run.plan.engines).toList :=
  nul_not_mem_dotted fun key hkey =>
    hnul.engines key (mem_extensions_of_plan h run.planned hkey)

/-- If the caller's own loaders hash what they load, the hash of a template is the digest of
    its bytes. -/
theorem exists_loads (run : p.HashRun path w)
    (h : ∀ l ∈ p.loaders.all, ∀ own ∈ l.customs, own.HashesLoads) :
    ∃ template, run.Loads template ∧ run.content = Digest.hex template := by
  have hmem := loader_mem_of_plan run.planned run.selected
  have hhash := run.hashed
  rw [run.loader.hash_eq_hashOf (h run.loader hmem)] at hhash
  obtain ⟨loaded, w₁, hload, hrest⟩ := bind_eq_ok_iff.1 hhash
  obtain ⟨template, w₂, hbytes, hcontent⟩ := bind_eq_ok_iff.1 hrest
  obtain ⟨hdigest, hafter⟩ := EStateM.Result.ok.inj hcontent
  rw [hafter] at hbytes
  exact ⟨template, ⟨loaded, w₁, hload, hbytes⟩, hdigest.symm⟩

theorem mimetype_eq (run : p.HashRun path w) :
    p.mimetype path = .ok run.plan.filetype.mimetype := by
  unfold mimetype
  rw [run.planned]
  rfl

end HashRun

end Fields

/-! ## Keys of one pipeline -/

/-- **Keys of one pipeline tell paths and templates apart.**  The pipeline was configured by
    fewer than `2 ^ 56` counted calls, its mime types and engine keys hold no NUL, and its
    loaders hash what they load.  Then the bytes digested for two paths, at any two times,
    are equal exactly if the paths and the hashes of the templates are.  So are the keys,
    unless these bytes are two messages with one digest; and if the templates are not two
    messages with one digest either, keys are equal exactly if paths and templates are. -/
theorem keys_equal_iff {b : PipelineBuilder σ} {p : Pipeline σ} (h : b.finalize = .ok p)
    (hnul : b.NulFree) (hgeneration : b.generation < 2 ^ 56)
    (hloaders : ∀ l ∈ p.loaders.all, ∀ own ∈ l.customs, own.HashesLoads)
    {path path' key key' : String} {w w' w₁ w₁' : World σ} (hkey : p.hash path w = .ok key w₁)
    (hkey' : p.hash path' w' = .ok key' w₁') :
    ∃ (run : p.HashRun path w) (run' : p.HashRun path' w') (template template' : List UInt8),
      run.key = key ∧ run'.key = key' ∧
      run.Loads template ∧ run.content = Digest.hex template ∧
      run'.Loads template' ∧ run'.content = Digest.hex template' ∧
      (run.fed = run'.fed ↔ path = path' ∧ run.content = run'.content) ∧
      ((key = key' → run.fed = run'.fed) →
        (key = key' ↔ path = path' ∧ run.content = run'.content) ∧
        ((run.content = run'.content → template = template') →
          (key = key' ↔ path = path' ∧ template = template'))) := by
  have hb := PipelineBuilder.finalized h
  obtain ⟨run, rfl, -⟩ := hash_eq_ok_iff.1 hkey
  obtain ⟨run', rfl, -⟩ := hash_eq_ok_iff.1 hkey'
  obtain ⟨template, hloads, hcontent⟩ := run.exists_loads hloaders
  obtain ⟨template', hloads', hcontent'⟩ := run'.exists_loads hloaders
  have hfed : run.fed = run'.fed ↔ path = path' ∧ run.content = run'.content := by
    constructor
    · intro hequal
      have hp : p.generation < 2 ^ 56 := by rwa [hb.generation]
      have hnul₁ : '\x00' ∉ run.content.toList := by
        rw [hcontent]
        exact nul_not_mem_hex template
      have hnul₁' : '\x00' ∉ run'.content.toList := by
        rw [hcontent']
        exact nul_not_mem_hex template'
      obtain ⟨hpath, -, -, hsame⟩ := keyBytes_inj hp (run.nul_not_mem_mimetype hb hnul)
        (run'.nul_not_mem_mimetype hb hnul) (run.nul_not_mem_engines hb hnul)
        (run'.nul_not_mem_engines hb hnul) hnul₁ hnul₁' hequal
      exact ⟨hpath, hsame⟩
    · rintro ⟨rfl, hsame⟩
      have hplans := Except.ok.inj (run.planned.symm.trans run'.planned)
      unfold HashRun.fed
      rw [hplans, hsame]
  refine ⟨run, run', template, template', rfl, rfl, hloads, hcontent, hloads', hcontent',
    hfed, ?_⟩
  intro hdigest
  have hkeys : run.key = run'.key ↔ path = path' ∧ run.content = run'.content :=
    ⟨fun hequal => hfed.1 (hdigest hequal), fun hequal => congrArg Digest.hex (hfed.2 hequal)⟩
  refine ⟨hkeys, ?_⟩
  intro htemplates
  rw [hkeys]
  constructor
  · rintro ⟨hpath, hsame⟩
    exact ⟨hpath, htemplates hsame⟩
  · rintro ⟨hpath, hsame⟩
    refine ⟨hpath, ?_⟩
    rw [hcontent, hcontent', hsame]

namespace Notes

theorem nulFree {b : PipelineBuilder Unit}
    (hmimetypes : b.filetypes.mimetypes = ["text/css", "text/plain"])
    (hengines : b.engines.extensions = ["tpl"]) : b.NulFree where
  mimetypes := by
    rw [hmimetypes]
    decide
  engines := by
    rw [hengines]
    decide

theorem customs_eq_nil : ∀ l ∈ pipeline.loaders.all, l.customs = [] := by
  intro l hl
  rw [show pipeline.loaders.all = [templates] from rfl, List.mem_singleton] at hl
  rw [hl]
  rfl

end Notes

/-- Two notes are never taken for one another. -/
theorem keys_equal_iff_notes :
    ∃ (run : Notes.pipeline.HashRun "a.css.txt" Notes.session.world)
      (run' : Notes.pipeline.HashRun "a.tpl.txt" Notes.session.world) (key key' : String),
      Notes.pipeline.hash "a.css.txt" Notes.session.world = .ok key Notes.session.world ∧
      Notes.pipeline.hash "a.tpl.txt" Notes.session.world = .ok key' Notes.session.world ∧
      run.key = key ∧ run'.key = key' ∧ run.fed ≠ run'.fed := by
  obtain ⟨first, hkey, -⟩ := exists_hashRun Notes.resolve_css rfl
    (show Notes.templates.hash "a.css.txt" Notes.session.world = .ok _ _ from rfl)
  obtain ⟨second, hkey', -⟩ := exists_hashRun Notes.resolve_tpl rfl
    (show Notes.templates.hash "a.tpl.txt" Notes.session.world = .ok _ _ from rfl)
  have hloaders : ∀ l ∈ Notes.pipeline.loaders.all, ∀ own ∈ l.customs, own.HashesLoads := by
    intro l hl own hown
    rw [Notes.customs_eq_nil l hl] at hown
    cases hown
  obtain ⟨run, run', _, _, hrun, hrun', -, -, -, -, hfed, -⟩ :=
    keys_equal_iff Notes.finalize_steps (Notes.nulFree rfl rfl) (by decide) hloaders hkey hkey'
  refine ⟨run, run', _, _, hkey, hkey', hrun, hrun', ?_⟩
  intro hequal
  exact absurd (hfed.1 hequal).1 (by decide)

end Pipeline

/-! ## Counted calls -/

namespace PipelineBuilder

/-- How many of the calls are counted, the first one being a call of `b`. -/
def countedCalls : PipelineBuilder σ → List (Step σ) → Nat
  | _, [] => 0
  | b, step :: rest => (if b.isCounted step then 1 else 0) + countedCalls (b.after step) rest

theorem generation_foldl (b : PipelineBuilder σ) (steps : List (Step σ)) :
    (steps.foldl after b).generation = b.generation + b.countedCalls steps := by
  induction steps generalizing b with
  | nil => rfl
  | cons step rest ih =>
    rw [List.foldl_cons, ih, generation_after, countedCalls, Nat.add_assoc]

end PipelineBuilder

namespace Pipeline

/-! ## Keys of two pipelines -/

section Two

variable {p q : Pipeline σ} {path : String} {vars : Json} {s : Session σ}

/-- Pipelines that differ only in their loaders render a path alike if they plan the same
    file type and engines for it, and load the same when its renderers are built. -/
theorem render_eq_of_plans (h : p.SameButLoaders q) {plan plan' : Plan σ}
    {loader loader' : Loader σ} (hplan : p.plan path true = .ok plan)
    (hplan' : q.plan path true = .ok plan') (hft : plan'.filetype = plan.filetype)
    (hengines : plan'.engines = plan.engines) (hloader : plan.loader = some loader)
    (hloader' : plan'.loader = some loader')
    (hload : ∀ r s₁, p.resolve path s = .ok r s₁ →
      loader'.load path s₁.world = loader.load path s₁.world) :
    q.render path vars s = p.render path vars s := by
  have hresolve := resolve_of_plan hplan (by simp [hloader]) s
  have hresolve' := resolve_of_plan hplan' (by simp [hloader']) s
  have hsame : q.renderers plan'.filetype plan'.engines s =
      p.renderers plan.filetype plan.engines s := by
    rw [h.renderers, hft, hengines]
  cases hrenderers : p.renderers plan.filetype plan.engines s with
  | ok chain s₁ =>
    have hr := hresolve.trans (instantiate_eq_ok_iff.2 ⟨chain, hrenderers, rfl⟩)
    have hr' := hresolve'.trans (instantiate_eq_ok_iff.2 ⟨chain, hsame.trans hrenderers, rfl⟩)
    have hexecute := hload _ s₁ hr
    unfold render
    rw [bind_of_ok hr, bind_of_ok hr']
    dsimp only
    rw [hloader, hloader']
    dsimp only
    rw [Call.ofAction_apply, Call.ofAction_apply]
    cases hloaded : loader.load path s₁.world with
    | ok loaded w =>
      rw [bind_of_ok hloaded, bind_of_ok (hexecute.trans hloaded)]
      unfold execute
      rw [hft]
    | error e w => rw [bind_of_error hloaded, bind_of_error (hexecute.trans hloaded)]
  | error e s₁ =>
    have hr := hresolve.trans (instantiate_eq_error_iff.2 hrenderers)
    have hr' := hresolve'.trans (instantiate_eq_error_iff.2 (hsame.trans hrenderers))
    unfold render
    rw [bind_of_error hr, bind_of_error hr']

end Two

namespace HashRun

variable {p q : Pipeline σ} {path : String} {w w' : World σ}

/-- What a loader without custom parts has loaded, it has found among the files. -/
theorem found_of_loads {run : p.HashRun path w} {template : List UInt8}
    (h : run.Loads template) (hcustoms : run.loader.customs = []) :
    ∃ loaded, run.loader.found w.files path = some loaded ∧
      loaded.bytes w = .ok template run.after := by
  obtain ⟨loaded, w₁, hload, hbytes⟩ := h
  obtain ⟨hfound, rfl⟩ := (Loader.load_eq_ok_iff hcustoms).1 hload
  exact ⟨loaded, hfound, hbytes⟩

/-- Two loaders that find a text each, or the same file, find the same if it has the same
    bytes. -/
theorem found_eq_of_loads {run : p.HashRun path w} {run' : q.HashRun path w'}
    {template : List UInt8} (h : run.Loads template) (h' : run'.Loads template)
    (hcustoms : run.loader.customs = []) (hcustoms' : run'.loader.customs = [])
    (hfiles : w'.files = w.files)
    (hkind : ∀ file, run.loader.found w.files path = some (.file file) ↔
      run'.loader.found w.files path = some (.file file)) :
    run'.loader.found w.files path = run.loader.found w.files path := by
  obtain ⟨loaded, hfound, hbytes⟩ := found_of_loads h hcustoms
  obtain ⟨loaded', hfound', hbytes'⟩ := found_of_loads h' hcustoms'
  rw [hfiles] at hfound'
  rw [hfound, hfound'] at hkind ⊢
  cases loaded with
  | file file => exact (hkind file).1 rfl
  | inline content =>
    cases loaded' with
    | file file => exact ((hkind file).2 rfl).symm
    | inline content' =>
      have htext := (EStateM.Result.ok.inj hbytes).1
      have htext' := (EStateM.Result.ok.inj hbytes').1
      rw [toUTF8_inj (htext.trans htext'.symm)]

end HashRun

/-- What equal keys of a path tell of two pipelines, the builders being `b` and `c`. -/
structure KeysTell (b c : PipelineBuilder σ) {p q : Pipeline σ} {path : String} {w w' : World σ}
    (run : p.HashRun path w) (run' : q.HashRun path w') : Prop where
  generation : c.generation % 2 ^ 64 = b.generation % 2 ^ 64
  /-- If one builder is the other one after some calls, none of these was counted. -/
  uncounted : ∀ steps, steps.foldl PipelineBuilder.after b = c →
    b.countedCalls steps < 2 ^ 64 → b.countedCalls steps = 0
  mimetype : q.mimetype path = p.mimetype path
  engines : dotted run'.plan.engines = dotted run.plan.engines
  content : run'.content = run.content
  /-- Without periods in the keys of engines, the keys themselves are the same. -/
  engineKeys : (∀ key ∈ b.engines.extensions ++ c.engines.extensions, '.' ∉ key.toList) →
    run'.plan.engines = run.plan.engines
  /-- If only the loaders differ, and they find a text each or the same file, all
      renderings are the same, from any session in which building the renderers leaves
      the files as they are. -/
  render : (∀ key ∈ b.engines.extensions ++ c.engines.extensions, '.' ∉ key.toList) →
    p.SameButLoaders q → (∀ l ∈ p.loaders.all ++ q.loaders.all, l.customs = []) →
    w'.files = w.files →
    (∀ template template', run.Loads template → run'.Loads template' →
      run'.content = run.content → template' = template) →
    (∀ file, run.loader.found w.files path = some (.file file) ↔
      run'.loader.found w.files path = some (.file file)) →
    ∀ vars s, (∀ r s₁, p.resolve path s = .ok r s₁ → s₁.world.files = w.files) →
      q.render path vars s = p.render path vars s

section KeysTell

variable {b c : PipelineBuilder σ} {p q : Pipeline σ} {path : String} {w w' : World σ}

/-- Equal bytes were fed to the digest exactly if the counts, the mime types, the dotted engine
    keys and the hashes of the templates are equal. -/
theorem fed_eq_iff (hp : b.Finalized p) (hq : c.Finalized q) (hnul : b.NulFree)
    (hnul' : c.NulFree) (run : p.HashRun path w) (run' : q.HashRun path w') :
    run.fed = run'.fed ↔
      b.generation % 2 ^ 64 = c.generation % 2 ^ 64 ∧
        run.plan.filetype.mimetype = run'.plan.filetype.mimetype ∧
        dotted run.plan.engines = dotted run'.plan.engines ∧ run.content = run'.content := by
  rw [← hp.generation, ← hq.generation]
  exact keyBytes_eq_iff (run.nul_not_mem_mimetype hp hnul) (run'.nul_not_mem_mimetype hq hnul')
    (run.nul_not_mem_engines hp hnul) (run'.nul_not_mem_engines hq hnul')

theorem keysTell (hb : Configured b) (hc : Configured c) (hp : b.Finalized p)
    (hq : c.Finalized q) {run : p.HashRun path w} {run' : q.HashRun path w'}
    (hgeneration : b.generation % 2 ^ 64 = c.generation % 2 ^ 64)
    (hmime : run.plan.filetype.mimetype = run'.plan.filetype.mimetype)
    (hengines : dotted run.plan.engines = dotted run'.plan.engines)
    (hcontent : run.content = run'.content) : KeysTell b c run run' := by
  have hkeys : (∀ key ∈ b.engines.extensions ++ c.engines.extensions, '.' ∉ key.toList) →
      run'.plan.engines = run.plan.engines := by
    intro hdot
    refine dotted_inj ?_ ?_ hengines.symm
    · intro key hkey
      have hmem := mem_extensions_of_plan hq run'.planned hkey
      exact ⟨hc.engine_ne_empty key hmem, hdot key (List.mem_append_right _ hmem)⟩
    · intro key hkey
      have hmem := mem_extensions_of_plan hp run.planned hkey
      exact ⟨hb.engine_ne_empty key hmem, hdot key (List.mem_append_left _ hmem)⟩
  refine ⟨hgeneration.symm, ?_, ?_, hengines.symm, hcontent.symm, hkeys, ?_⟩
  · rintro steps rfl hfew
    rw [PipelineBuilder.generation_foldl] at hgeneration
    omega
  · rw [run.mimetype_eq, run'.mimetype_eq, hmime]
  · intro hdot hsame hcustoms hfiles htemplates hkind vars s hkept
    have hmem := loader_mem_of_plan run.planned run.selected
    have hmem' := loader_mem_of_plan run'.planned run'.selected
    have hplain := hcustoms _ (List.mem_append_left _ hmem)
    have hplain' := hcustoms _ (List.mem_append_right _ hmem')
    have hft : run'.plan.filetype = run.plan.filetype := by
      have hfind := find?_of_plan hp hb.nodup_mimetypes run.planned
      have hfind' := find?_of_plan hq hc.nodup_mimetypes run'.planned
      rw [← hmime, hsame.filetypes, hfind] at hfind'
      exact (Option.some.inj hfind').symm
    have hhashes : ∀ {l : Loader σ}, l.customs = [] → ∀ own ∈ l.customs, own.HashesLoads := by
      intro l hl own hown
      rw [hl] at hown
      cases hown
    obtain ⟨template, hloads, -⟩ := run.exists_loads fun l hl =>
      hhashes (hcustoms l (List.mem_append_left _ hl))
    obtain ⟨template', hloads', -⟩ := run'.exists_loads fun l hl =>
      hhashes (hcustoms l (List.mem_append_right _ hl))
    rw [htemplates template template' hloads hloads' hcontent.symm] at hloads'
    have hfound := HashRun.found_eq_of_loads hloads hloads' hplain hplain' hfiles hkind
    refine render_eq_of_plans hsame run.planned run'.planned hft (hkeys hdot) run.selected
      run'.selected ?_
    intro r s₁ hr
    rw [Loader.load_eq_found _ hplain, Loader.load_eq_found _ hplain', hkept r s₁ hr, hfound]

/-- **What keys tell across configurations.**  Two configured pipelines, whose mime types and
    engine keys hold no NUL, give keys for one path.  The bytes that are digested agree
    exactly if the counts below `2 ^ 64`, the mime types, the dotted engine keys and the
    hashes of the templates do.  So equal keys, unless they are a collision, tell all of
    this; and they tell that the path renders alike if the pipelines have the same file
    types and engines, which the key does not look into. -/
theorem output_of_equal_keys (hb : Configured b) (hc : Configured c) (hp : b.finalize = .ok p)
    (hq : c.finalize = .ok q) (hnul : b.NulFree) (hnul' : c.NulFree) {key key' : String}
    {w₁ w₁' : World σ} (hkey : p.hash path w = .ok key w₁)
    (hkey' : q.hash path w' = .ok key' w₁') :
    ∃ (run : p.HashRun path w) (run' : q.HashRun path w'), run.key = key ∧ run'.key = key' ∧
      (run.fed = run'.fed ↔
        b.generation % 2 ^ 64 = c.generation % 2 ^ 64 ∧
          run.plan.filetype.mimetype = run'.plan.filetype.mimetype ∧
          dotted run.plan.engines = dotted run'.plan.engines ∧ run.content = run'.content) ∧
      (key = key' → (key = key' → run.fed = run'.fed) → KeysTell b c run run') := by
  have hp := PipelineBuilder.finalized hp
  have hq := PipelineBuilder.finalized hq
  obtain ⟨run, hrun, -⟩ := hash_eq_ok_iff.1 hkey
  obtain ⟨run', hrun', -⟩ := hash_eq_ok_iff.1 hkey'
  have hfed := fed_eq_iff hp hq hnul hnul' run run'
  refine ⟨run, run', hrun, hrun', hfed, ?_⟩
  intro hequal hdigest
  obtain ⟨hgeneration, hmime, hengines, hcontent⟩ := hfed.1 (hdigest hequal)
  exact keysTell hb hc hp hq hgeneration hmime hengines hcontent

end KeysTell

namespace Notes

/-- The notes with another file type for style sheets and another loader. -/
def variant (sheet : FileType Unit) (loader : Loader Unit) : Pipeline Unit :=
  { pipeline with
    loaders := ⟨[("txt", loader)], none⟩
    filetypes := ⟨[("text/css", sheet), ("text/plain", plainText)],
      [("css", sheet), ("txt", plainText)], none⟩ }

variable (sheet : FileType Unit) (loader : Loader Unit)

theorem plan_variant : (variant sheet loader).plan "a.css.txt" true =
    .ok ⟨some loader, some "txt", sheet, some "css", []⟩ := by
  have hparse : Suffixes.parse "a.css.txt" = ⟨"a", ["css", "txt"]⟩ := by cbv
  have hloader : (variant sheet loader).loaderOf ⟨"a", ["css", "txt"]⟩ =
      (some loader, some ⟨"txt", 1⟩) := rfl
  have hchain : (variant sheet loader).chainOf ["css", "txt"] (some ⟨"txt", 1⟩) =
      ([], ["css"]) := by
    unfold chainOf EngineIndex.resolveChain
    rw [chain_of_none rfl]
    show (chain pipeline.engines.containsExtension ["css"], ["css"]) = ([], ["css"])
    rw [chain_of_none rfl]
  unfold plan
  simp only [hparse, if_true, hloader, hchain]
  rfl

theorem resolve_variant (s : Session Unit) :
    (variant sheet loader).resolve "a.css.txt" s =
      .ok ⟨some loader, some "txt", sheet, some "css", []⟩ s := by
  rw [resolve_of_plan (plan_variant sheet loader) rfl]
  rfl

variable {loader}

theorem render_variant {text : String} {s : Session Unit}
    (hload : loader.load "a.css.txt" s.world = .ok (.inline text) s.world) (vars : Json) :
    (variant sheet loader).render "a.css.txt" vars s =
      keepCells s.cells (execute ⟨some loader, some "txt", sheet, some "css", []⟩ "a.css.txt"
        (.inline text) vars s.world) :=
  render_of_load (resolve_variant sheet loader s) rfl hload vars

/-- The style sheet has a key, if its loader has a hash for it. -/
def hashRun {w : World Unit} {content : String}
    (hhash : loader.hash "a.css.txt" w = .ok content w) :
    (variant sheet loader).HashRun "a.css.txt" w :=
  ⟨⟨some loader, some "txt", sheet, some "css", []⟩, loader, content, w,
    plan_variant sheet loader, rfl, hhash⟩

/-- The style sheet without the other note. -/
def copied : Loader Unit := .inline [("a.css.txt", "x")]

def copiedSteps : List (Step Unit) :=
  [.filetype "text/css", .editFileType "text/css" (.addExtension "css"),
    .filetype "text/plain", .editFileType "text/plain" (.addExtension "txt"),
    .editLoaders "txt" (· ++ [copied]), .registerEngine "tpl" engine]

theorem finalize_copiedSteps :
    (copiedSteps.foldl PipelineBuilder.after (.new ⟨[], none⟩)).finalize =
      .ok (variant styleSheet copied) := rfl

theorem hash_templates : templates.hash "a.css.txt" session.world =
    .ok (Digest.hex "x".toUTF8.toList) session.world := rfl

theorem hash_copied : copied.hash "a.css.txt" session.world =
    .ok (Digest.hex "x".toUTF8.toList) session.world := rfl

end Notes

/-- Two loaders with the same text for a path. -/
theorem output_of_equal_keys_copied :
    ∃ key, (Notes.variant Notes.styleSheet Notes.templates).hash "a.css.txt"
        Notes.session.world = .ok key Notes.session.world ∧
      (Notes.variant Notes.styleSheet Notes.copied).hash "a.css.txt"
        Notes.session.world = .ok key Notes.session.world ∧
      ∀ vars, (Notes.variant Notes.styleSheet Notes.copied).render "a.css.txt" vars
          Notes.session =
        (Notes.variant Notes.styleSheet Notes.templates).render "a.css.txt" vars
          Notes.session := by
  let first := Notes.hashRun Notes.styleSheet Notes.hash_templates
  let second := Notes.hashRun Notes.styleSheet Notes.hash_copied
  have hfirst := hash_eq_ok_iff.2 ⟨first, rfl, rfl⟩
  have hsecond := hash_eq_ok_iff.2 ⟨second, rfl, rfl⟩
  have hdot : ∀ key ∈ ["tpl"] ++ ["tpl"], '.' ∉ key.toList := by decide
  have hcustoms : ∀ l ∈ [Notes.templates] ++ [Notes.copied], l.customs = [] := by
    intro l hl
    rcases List.mem_cons.1 hl with rfl | hl
    · rfl
    · rw [List.mem_singleton.1 hl]
      rfl
  obtain ⟨run, run', -, -, -, htell⟩ :=
    output_of_equal_keys ((Configured.new _).foldl Notes.steps)
      ((Configured.new _).foldl Notes.copiedSteps) Notes.finalize_steps
      Notes.finalize_copiedSteps (Notes.nulFree rfl rfl) (Notes.nulFree rfl rfl) hfirst hsecond
  obtain rfl := run.unique first
  obtain rfl := run'.unique second
  refine ⟨_, hfirst, hsecond, ?_⟩
  intro vars
  refine (htell rfl fun _ => rfl).render hdot ⟨rfl, rfl, rfl⟩ hcustoms rfl ?_ ?_ vars _ ?_
  · rintro template template' ⟨loaded, w, hload, hbytes⟩ ⟨loaded', w', hload', hbytes'⟩ -
    cases hload
    cases hload'
    exact (EStateM.Result.ok.inj (hbytes'.symm.trans hbytes)).1
  · intro file
    constructor
    · intro h
      cases h
    · intro h
      cases h
  · intro r s₁ hr
    cases hr.symm.trans (Notes.resolve_variant Notes.styleSheet Notes.templates Notes.session)
    rfl

namespace Notes

def mark : PostProcessor Unit := fun text => pure (text ++ "!")

/-- Style sheets that are marked in the end. -/
def markedSheet : FileType Unit := ⟨"text/css", ["css"], [mark], []⟩

/-- The mark is added together with the extension, in one counted call. -/
def markedSteps : List (Step Unit) :=
  [.filetype "text/css", .editFileType "text/css" (.addExtension "css"),
    .editFileType "text/css" (.addPostprocessor mark),
    .filetype "text/plain", .editFileType "text/plain" (.addExtension "txt"),
    .editLoaders "txt" (· ++ [templates]), .registerEngine "tpl" engine]

theorem finalize_marked :
    (markedSteps.foldl PipelineBuilder.after (.new ⟨[], none⟩)).finalize =
      .ok (variant markedSheet templates) := rfl

end Notes

/-- Edits of a file type are not counted beyond the call that asks for it, and the key does
    not change with them: the style sheet that a post-processor marks has the key of the one
    without a mark. -/
theorem equal_keys_of_edited :
    ¬ ∀ (b c : PipelineBuilder Unit) (p q : Pipeline Unit) (path key : String)
      (s : Session Unit) (w w' : World Unit), Configured b → Configured c →
      b.finalize = .ok p → c.finalize = .ok q → p.hash path s.world = .ok key w →
      q.hash path s.world = .ok key w' →
      ∀ vars text s', p.render path vars s = .ok text s' →
        ∃ s'', q.render path vars s = .ok text s'' := by
  intro h
  have hplain := hash_eq_ok_iff.2 ⟨Notes.hashRun Notes.styleSheet Notes.hash_templates, rfl, rfl⟩
  have hmarked : (Notes.variant Notes.markedSheet Notes.templates).hash "a.css.txt"
      Notes.session.world = _ :=
    hash_eq_ok_iff.2 ⟨Notes.hashRun Notes.markedSheet Notes.hash_templates, rfl, rfl⟩
  have hload : Notes.templates.load "a.css.txt" Notes.session.world =
      .ok (.inline "x") Notes.session.world := rfl
  have hrender : (Notes.variant Notes.styleSheet Notes.templates).render "a.css.txt" .null
      Notes.session = .ok "x" Notes.session := by
    rw [Notes.render_variant Notes.styleSheet hload]
    rfl
  obtain ⟨s'', hsame⟩ := h _ _ _ _ _ _ _ _ _ ((Configured.new _).foldl Notes.steps)
    ((Configured.new _).foldl Notes.markedSteps) Notes.finalize_steps Notes.finalize_marked
    hplain hmarked
    .null "x" _ hrender
  rw [Notes.render_variant Notes.markedSheet hload] at hsame
  have htext : "x!" = "x" := (EStateM.Result.ok.inj hsame).1
  exact absurd htext (by decide)

end Pipeline

end RenderChain
