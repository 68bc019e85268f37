/-
  RenderChain/Proofs/ReplacedChain.lean
  =====================================
  **What is rendered when the chain of an extension is replaced.**

  With root folders, a chain starts with the files below them.  A caller who
  replaces the chain by tables in memory does away with the files: a path whose
  longest key is the extension has the text of the first table that knows it, or
  is not found, whatever the files are.

  This is so for one table or more.  A chain that is replaced by none is left out
  of the index, with the consequence that the extension is not a key at all: the
  path falls to a shorter key, or to the default loader, which has the files.

    * `render_of_resolve`: after resolving, a path renders what its loader finds;
    * `rendersFound_of_tables`, `rendersFound_of_empty`: what that is if the longest
      key has a chain of tables, or an empty one;
    * `render_of_replaced`: and so for a replaced chain;
    * `emptied_chain_reads_files`: without tables it can be a file.
-/
import RenderChain.Proofs.Execution
import RenderChain.Proofs.LoaderIndex
import RenderChain.Proofs.Spelling

namespace RenderChain

open PipelineBuilder (Step)

variable {σ : Type}

/-! ## Keys of an index -/

/-- A key that is longest among more keys is longest among fewer, if it is one of them. -/
theorem Suffixes.resolve_of_fewer {s : Suffixes} {known known' : String → Bool} {m : KeyMatch}
    (h : s.resolve known = some m) (hfewer : ∀ key, known' key = true → known key = true)
    (hm : known' m.key = true) : s.resolve known' = some m := by
  obtain ⟨run, hrun, rfl⟩ := longestKey_eq_some_iff.1 h
  refine longestKey_eq_some_iff.2 ⟨run, ⟨hrun.ne_nil, hrun.atEnd, hm, ?_⟩, rfl⟩
  intro other hne hsuffix hother
  exact hrun.longest other hne hsuffix (hfewer _ hother)

/-- Without the longest key, a shorter one is the longest. -/
theorem Suffixes.consumed_lt_of_fewer {s : Suffixes} {known known' : String → Bool}
    {m m' : KeyMatch} (h : s.resolve known = some m)
    (hfewer : ∀ key, known' key = true → known key = true) (hm : known' m.key = false)
    (h' : s.resolve known' = some m') : m'.consumed < m.consumed := by
  obtain ⟨run, hrun, rfl⟩ := longestKey_eq_some_iff.1 h
  obtain ⟨run', hrun', rfl⟩ := longestKey_eq_some_iff.1 h'
  have hle : run'.length ≤ run.length :=
    hrun.longest run' hrun'.ne_nil hrun'.atEnd (hfewer _ hrun'.isKey)
  refine Nat.lt_of_le_of_ne hle ?_
  intro hlength
  -- runs of one length at one end are one run
  have hsuffix : run' <:+ run := List.suffix_of_suffix_length_le hrun'.atEnd hrun.atEnd hle
  have hsame : run' = run := hsuffix.eq_of_length hlength
  have hkey := hrun'.isKey
  rw [hsame] at hkey
  rw [hm] at hkey
  cases hkey

namespace LoaderIndex

theorem resolve_of_key {index : LoaderIndex σ} {s : Suffixes} {m : KeyMatch} {l : Loader σ}
    (h : s.resolve index.containsExtension = some m)
    (hl : Keyed.find? m.key index.byExtension = some l) :
    index.resolve s = some (l, some m) := by
  unfold resolve
  rw [h]
  dsimp only
  rw [hl]
  rfl

theorem resolve_of_no_key {index : LoaderIndex σ} {s : Suffixes}
    (h : s.resolve index.containsExtension = none) :
    index.resolve s = index.default.map fun l => (l, none) := by
  unfold resolve
  rw [h]

end LoaderIndex

/-! ## Rendering what is found -/

namespace Pipeline

/-- Rendering a path resolves it, and goes on with what is found for it among the files. -/
def RendersFound (p : Pipeline σ) (path : String) (found : Files → Option Loaded) : Prop :=
  ∀ vars s,
    (∀ e s₁, p.resolve path s = .error e s₁ → p.render path vars s = .error e s₁) ∧
    ∀ r s₁, p.resolve path s = .ok r s₁ →
      p.render path vars s =
        match found s₁.world.files with
        | some loaded => keepCells s₁.cells (execute r path loaded vars s₁.world)
        | none => .error (.templateNotFound path) s₁

section Render

variable {p : Pipeline σ} {path : String} {l : Loader σ} {m : Option KeyMatch}

theorem loader_of_index {s s₁ : Session σ} {r : Resolution σ}
    (hl : p.loaders.resolve (Suffixes.parse path) = some (l, m))
    (hr : p.resolve path s = .ok r s₁) : r.loader = some l := by
  obtain ⟨plan, chain, hplan, -, -, rfl⟩ := resolve_eq_ok hr
  have hloader := (plan_eq_ok_iff.1 hplan).loader
  rw [if_pos rfl] at hloader
  unfold loaderOf at hloader
  rw [hl] at hloader
  exact hloader

/-- A loader without custom parts only looks, so what it finds is what is rendered. -/
theorem render_of_resolve (hl : p.loaders.resolve (Suffixes.parse path) = some (l, m))
    (hcustoms : l.customs = []) : p.RendersFound path fun fs => l.found fs path := by
  intro vars s
  constructor
  · intro e s₁ hr
    exact bind_of_error hr
  · intro r s₁ hr
    have hloader := loader_of_index hl hr
    have hload := l.load_eq_found hcustoms path s₁.world
    dsimp only
    cases hfound : l.found s₁.world.files path with
    | some loaded =>
      rw [hfound] at hload
      exact render_of_load hr hloader hload vars
    | none =>
      rw [hfound] at hload
      unfold render
      rw [bind_of_ok hr, hloader]
      dsimp only
      rw [Call.ofAction_apply, bind_of_error hload]
      rfl

end Render

/-! ## Replaced chains -/

/-- The extensions that the caller gave a chain, and those that get one by themselves. -/
def hasChain (b : PipelineBuilder σ) (extension : String) : Bool :=
  b.loaders.contains extension ||
    decide (extension ∈ b.filetypes.extensions ++ b.engines.extensions)

section Replaced

variable {b : PipelineBuilder σ} {p : Pipeline σ}

theorem find?_loaders (hb : Configured b) (h : b.Finalized p) (extension : String) :
    Keyed.find? extension p.loaders.byExtension =
      match Keyed.find? extension b.loaders.chains with
      | some members => LoaderRegistry.link members
      | none =>
        if b.loaders.roots ≠ [] ∧
            extension ∈ b.filetypes.extensions ++ b.engines.extensions then
          some (.folders b.loaders.roots (some extension))
        else none := by
  rw [h.loaders]
  exact LoaderRegistry.find?_finalize hb.sorted_chains _ _

/-- The index knows no other extensions. -/
theorem hasChain_of_containsExtension (hb : Configured b) (h : b.Finalized p)
    {extension : String} (hknown : p.loaders.containsExtension extension = true) :
    hasChain b extension = true := by
  unfold LoaderIndex.containsExtension at hknown
  rw [find?_loaders hb h] at hknown
  unfold hasChain LoaderRegistry.contains
  cases hchain : Keyed.find? extension b.loaders.chains with
  | some members => rfl
  | none =>
    rw [hchain] at hknown
    dsimp only at hknown
    split at hknown
    next hseeded => simpa using hseeded.2
    next => cases hknown

/-- The loader of the paths without a key, if the caller sets none. -/
theorem default_of_roots (h : b.Finalized p) (hroots : b.loaders.roots ≠ [])
    (hdefault : b.loaders.default = none) :
    p.loaders.default = some (.folders b.loaders.roots none) := by
  rw [h.loaders]
  unfold LoaderRegistry.finalize
  rw [hdefault, if_neg (by simpa using hroots)]
  rfl

section Longest

variable {path : String} {found : KeyMatch}

/-- The longest key with a chain of tables has the text of the first table that knows the
    path. -/
theorem rendersFound_of_tables (hb : Configured b) (h : b.Finalized p)
    {tables : List (Keyed String)} (hsome : tables ≠ [])
    (hchain : Keyed.find? found.key b.loaders.chains = some (tables.map .inline))
    (hfound : (Suffixes.parse path).resolve (hasChain b) = some found) :
    (∃ l, p.loaders.resolve (Suffixes.parse path) = some (l, some found)) ∧
      p.RendersFound path fun _ => (tables.findSome? (Keyed.find? path)).map .inline := by
  obtain ⟨l, hl⟩ : ∃ l, LoaderRegistry.link (tables.map .inline : List (Loader σ)) = some l := by
    cases tables with
    | nil => exact absurd rfl hsome
    | cons table rest => cases rest <;> exact ⟨_, rfl⟩
  have hindex := find?_loaders hb h found.key
  rw [hchain] at hindex
  dsimp only at hindex
  rw [hl] at hindex
  have hmatch : (Suffixes.parse path).resolve p.loaders.containsExtension = some found := by
    refine Suffixes.resolve_of_fewer hfound (fun key => hasChain_of_containsExtension hb h) ?_
    unfold LoaderIndex.containsExtension
    rw [hindex]
    rfl
  have hresolve := LoaderIndex.resolve_of_key hmatch hindex
  have hcustoms : l.customs = [] := by
    rw [Loader.customs_of_link hl, Loader.customsOfAll_inline]
  have hrenders := render_of_resolve hresolve hcustoms
  simp only [Loader.found_of_link hl, Loader.foundFirst_inline] at hrenders
  exact ⟨⟨l, hresolve⟩, hrenders⟩

/-- The longest key is none if its chain is empty, and the path is left to a shorter key or
    to the automatic loader. -/
theorem rendersFound_of_empty (hb : Configured b) (h : b.Finalized p)
    (hroots : b.loaders.roots ≠ [])
    (hchain : Keyed.find? found.key b.loaders.chains = some [])
    (hfound : (Suffixes.parse path).resolve (hasChain b) = some found) :
    p.loaders.containsExtension found.key = false ∧
      (∀ shorter, (Suffixes.parse path).resolve p.loaders.containsExtension = some shorter →
        shorter.consumed < found.consumed) ∧
      (b.loaders.default = none →
        (Suffixes.parse path).resolve p.loaders.containsExtension = none →
        p.RendersFound path fun fs => (fs.find? b.loaders.roots path).map .file) := by
  have hindex := find?_loaders hb h found.key
  rw [hchain] at hindex
  have hunknown : p.loaders.containsExtension found.key = false := by
    unfold LoaderIndex.containsExtension
    rw [hindex]
    rfl
  refine ⟨hunknown, fun shorter => Suffixes.consumed_lt_of_fewer hfound
    (fun key => hasChain_of_containsExtension hb h) hunknown, ?_⟩
  intro hdefault hnone
  have hresolve := LoaderIndex.resolve_of_no_key hnone
  rw [default_of_roots h hroots hdefault] at hresolve
  exact render_of_resolve hresolve (by rw [Loader.customs])

end Longest

end Replaced

/-- **A replaced chain does not read files, unless it is empty.**  The chain of an extension
    is replaced by tables in memory and not changed again, and the extension is the longest
    key of a path, among those with a chain of the caller's and those that get one.  With
    one table or more, the path renders the text of the first table that knows it, and
    nothing else, whatever the files are.  With none, the extension is no key of the finished
    pipeline: the path has the loader of a shorter key, or else the default one, and then, if
    this is the automatic one, it renders a file below a root folder. -/
theorem render_of_replaced {b b₁ : PipelineBuilder σ} (hb : Configured b)
    (hroots : b.context.roots ≠ []) {extension : String} {tables : List (Keyed String)}
    (hreplace : (Step.editLoaders extension fun _ => tables.map .inline).run b = .ok () b₁)
    {later : List (Step σ)}
    (hlater : ∀ step ∈ later, ∀ change, step ≠ .editLoaders extension change)
    {p : Pipeline σ} (h : (later.foldl PipelineBuilder.after b₁).finalize = .ok p)
    {path : String} {found : KeyMatch}
    (hfound : (Suffixes.parse path).resolve
      (hasChain (later.foldl PipelineBuilder.after b₁)) = some found)
    (hkey : found.key = extension) :
    (tables ≠ [] →
      (∃ l, p.loaders.resolve (Suffixes.parse path) = some (l, some found)) ∧
      p.RendersFound path fun _ => (tables.findSome? (Keyed.find? path)).map .inline) ∧
    (tables = [] →
      p.loaders.containsExtension extension = false ∧
      (∀ shorter, (Suffixes.parse path).resolve p.loaders.containsExtension = some shorter →
        shorter.consumed < found.consumed) ∧
      ((later.foldl PipelineBuilder.after b₁).loaders.default = none →
        (Suffixes.parse path).resolve p.loaders.containsExtension = none →
        p.RendersFound path fun fs => (fs.find? b.context.roots path).map .file)) := by
  have hafter : b.after (.editLoaders extension fun _ => tables.map .inline) = b₁ :=
    PipelineBuilder.after_of_ok hreplace
  have hend : Configured (later.foldl PipelineBuilder.after b₁) :=
    (hafter ▸ hb.step _ : Configured b₁).foldl later
  have hfinal := PipelineBuilder.finalized h
  -- the chain is the one it was replaced by
  have hchain : Keyed.find? extension (later.foldl PipelineBuilder.after b₁).loaders.chains =
      some (tables.map .inline) := by
    rw [PipelineBuilder.find?_foldl_after hlater]
    exact PipelineBuilder.find?_of_run_editLoaders hreplace
  have hcontext : (later.foldl PipelineBuilder.after b₁).loaders.roots = b.context.roots := by
    rw [hend.roots_eq, ← hafter]
    exact congrArg EngineContext.roots (b.context_foldl_after (_ :: later))
  subst hkey
  constructor
  · intro hsome
    exact rendersFound_of_tables hend hfinal hsome hchain hfound
  · rintro rfl
    rw [← hcontext]
    exact rendersFound_of_empty hend hfinal (by rwa [hcontext]) hchain hfound

namespace Notes

def replaced : Pipeline Unit :=
  rootedWith ⟨[("css", .folders ["t"] (some "css")), ("tpl", .inline [("b.tpl", "y")]),
    ("txt", .folders ["t"] (some "txt"))], some (.folders ["t"] none)⟩ 5

def unchained : Pipeline Unit :=
  rootedWith ⟨[("css", .folders ["t"] (some "css")), ("txt", .folders ["t"] (some "txt"))],
    some (.folders ["t"] none)⟩ 5

/-- The rooted notes, with the chain of templates replaced. -/
def replacedBuilder (tables : List (Keyed String)) : PipelineBuilder Unit :=
  rootedBuilder.after (.editLoaders "tpl" fun _ => tables.map .inline)

theorem run_replacing (tables : List (Keyed String)) :
    (Step.editLoaders "tpl" fun _ => tables.map .inline).run rootedBuilder =
      .ok () (replacedBuilder tables) := rfl

theorem finalize_replaced : (replacedBuilder [[("b.tpl", "y")]]).finalize = .ok replaced := rfl

theorem finalize_unchained : (replacedBuilder []).finalize = .ok unchained := rfl

/-- The key of templates is the longest one of the style sheet. -/
theorem resolve_hasChain (tables : List (Keyed String)) :
    (Suffixes.parse "a.css.tpl").resolve (hasChain (replacedBuilder tables)) =
      some ⟨"tpl", 1⟩ := by
  have hparse : Suffixes.parse "a.css.tpl" = ⟨"a", ["css", "tpl"]⟩ := by cbv
  have hchains : (replacedBuilder tables).loaders.chains = [("tpl", tables.map .inline)] := rfl
  have hextensions : (replacedBuilder tables).filetypes.extensions ++
    (replacedBuilder tables).engines.extensions = ["css", "txt", "tpl"] := rfl
  have hlong : hasChain (replacedBuilder tables) "css.tpl" = false := by
    unfold hasChain LoaderRegistry.contains
    rw [hchains, hextensions]
    rfl
  have hshort : hasChain (replacedBuilder tables) "tpl" = true := by
    unfold hasChain LoaderRegistry.contains
    rw [hchains]
    rfl
  rw [hparse]
  unfold Suffixes.resolve longestKey longestKey
  rw [show dotted ["css", "tpl"] = "css.tpl" from rfl, show dotted ["tpl"] = "tpl" from rfl,
    hlong, hshort]
  rfl

end Notes

/-- The style sheet that is on disk is not found any more. -/
theorem render_of_replaced_notes :
    Notes.replaced.RendersFound "a.css.tpl" fun _ => none := by
  have hrenders := ((render_of_replaced ((Configured.new _).foldl Notes.rootedSteps) (by decide)
    (Notes.run_replacing [[("b.tpl", "y")]]) (fun step (hstep : step ∈ []) => by cases hstep)
    Notes.finalize_replaced (Notes.resolve_hasChain _) rfl).1 (by decide)).2
  have hnone : [[("b.tpl", "y")]].findSome? (Keyed.find? "a.css.tpl") = none := by decide
  rw [hnone] at hrenders
  exact hrenders

/-- A chain that is replaced by no tables at all does not keep the files away: the style sheet
    has no loader key any more, and the default loader reads it. -/
theorem emptied_chain_reads_files :
    ¬ ∀ (b b₁ : PipelineBuilder Unit) (p : Pipeline Unit) (extension path : String)
      (tables : List (Keyed String)) (later : List (Step Unit)) (found : KeyMatch),
      Configured b → b.context.roots ≠ [] →
      (Step.editLoaders extension fun _ => tables.map .inline).run b = .ok () b₁ →
      (∀ step ∈ later, ∀ change, step ≠ .editLoaders extension change) →
      (later.foldl PipelineBuilder.after b₁).loaders.default = none →
      (later.foldl PipelineBuilder.after b₁).finalize = .ok p →
      (Suffixes.parse path).resolve (hasChain (later.foldl PipelineBuilder.after b₁)) =
        some found →
      found.key = extension →
      p.RendersFound path fun _ => (tables.findSome? (Keyed.find? path)).map .inline := by
  intro h
  have hloader : Notes.unchained.loaders.resolve ⟨"a", ["css", "tpl"]⟩ =
    some (.folders ["t"] none, none) := rfl
  have hresolve : Notes.unchained.resolve "a.css.tpl" Notes.onDisk = _ :=
    Notes.resolve_rootedWith 5 hloader
  have hclaim := h _ _ _ "tpl" "a.css.tpl" [] [] _ ((Configured.new _).foldl Notes.rootedSteps)
    (by decide) (Notes.run_replacing []) (fun _ hstep => by cases hstep) rfl
    Notes.finalize_unchained (Notes.resolve_hasChain []) rfl .null Notes.onDisk
  have hrender := render_of_load hresolve rfl (Notes.load_tree "a.css.tpl" (by decide)) .null
  have hfile : Notes.bracket.renderFile "t/a.css.tpl" (Keyed.ofList []) (some "a.css.tpl")
      Notes.onDisk.world = .ok "<{x}>" Notes.onDisk.world := bind_of_ok Notes.readText_tree
  have hmerge : mergeVariables Notes.styleSheet "a.css.tpl" .null = .ok (Keyed.ofList []) := rfl
  have hexecute : execute ⟨some (.folders ["t"] none), none, Notes.styleSheet, some "css",
      [("tpl", Notes.bracket)]⟩ "a.css.tpl" (.file "t/a.css.tpl") .null Notes.onDisk.world =
      .ok "<{x}>" Notes.onDisk.world := by
    rw [execute_cons hmerge rfl]
    exact bind_of_ok hfile
  rw [hclaim.2 _ _ hresolve, show Option.map (fun m : KeyMatch => m.key) none = none from rfl,
    hexecute] at hrender
  cases hrender

end Pipeline

end RenderChain
