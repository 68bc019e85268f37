/-
  RenderChain/Proofs/Spelling.lean
  ================================
  **Paths that name the same file.**

  Files are found by the components of a path, and many paths have the same
  components: empty ones and `.` do not count.  Suffixes are read off what stands
  behind the last `/`, and there they do count.  So paths that end in a name are
  resolved alike if they find the same file, however they are spelled otherwise;
  and so are paths that end in no name, because all of these have no suffixes.

  A path of one kind and one of the other are resolved alike only where the file
  needs no engine and has the default type anyway (`resolve_of_same_file`).
  Elsewhere a `/` at the end of a path takes its engines away
  (`trailing_slash_skips_engines`).
-/
import RenderChain.Proofs.Configuration
import RenderChain.Proofs.FileTree
import RenderChain.Proofs.Loading

namespace RenderChain

open PipelineBuilder (Step)

variable {σ : Type}

/-! ## Suffixes of a name -/

/-- Paths with the same name have the same segments. -/
theorem Suffixes.segments_of_name {path path' : String} (h : Path.name path' = Path.name path) :
    (Suffixes.parse path').segments = (Suffixes.parse path).segments := by
  rw [segments_parse, segments_parse, String.ofList_inj.1 h]

/-- A path that ends in no name has no segments. -/
theorem Suffixes.segments_eq_nil {path : String} (h : ¬ Path.EndsInName path) :
    (Suffixes.parse path).segments = [] := by
  have hslash : '/' ∉ (Path.name path).toList := by
    rcases Path.exists_name path with ⟨hnone, hwhole⟩ | ⟨front, -, hnone⟩
    · rwa [hwhole]
    · exact hnone
  have hname : Path.name path = "" ∨ Path.name path = "." := by
    by_contra hneither
    rw [not_or] at hneither
    exact h ⟨hneither.1, hneither.2, hslash⟩
  rw [segments_parse]
  rcases hname with hempty | hhere
  · have hchars : (splitName path.toList).2 = [] := String.ofList_inj.1 hempty
    rw [hchars]
    rfl
  · have hchars : (splitName path.toList).2 = ['.'] := String.ofList_inj.1 hhere
    rw [hchars]
    rfl

/-! ## Names of files -/

/-- A file that is found by a path that ends in a name has this name. -/
theorem Path.getLast?_components_of_below {root path full : String}
    (hname : EndsInName path) (h : below root path = some full) :
    (components full).getLast? = some (name path) := by
  rw [components_of_below h, List.getLast?_append, getLast?_components hname]
  rfl

/-- The file of a path is below one of the roots. -/
theorem Files.exists_below {fs : Files} {roots : List String} {path full : String}
    (h : fs.find? roots path = some full) : ∃ root ∈ roots, Path.below root path = some full := by
  have hmem := List.mem_of_find?_eq_some h
  obtain ⟨root, hroot, hbelow⟩ := List.mem_filterMap.1 hmem
  exact ⟨root, hroot, hbelow⟩

theorem Loader.find?_of_load_folders {roots : List String} {extension : Option String}
    {path full : String} {w w' : World σ}
    (h : (Loader.folders roots extension).load path w = .ok (.file full) w') :
    w.files.find? roots path = some full := by
  obtain ⟨hfound, -⟩ := (load_eq_ok_iff rfl).1 h
  unfold found at hfound
  obtain ⟨found, hfind, hequal⟩ := Option.map_eq_some_iff.1 hfound
  rw [hfind, Loaded.file.inj hequal]

namespace Pipeline

/-! ## Plans of segments -/

section Plans

variable {p : Pipeline σ} {path path' : String}

theorem loaderOf_congr {s t : Suffixes} (h : t.segments = s.segments) :
    p.loaderOf t = p.loaderOf s := by
  unfold loaderOf LoaderIndex.resolve Suffixes.resolve
  rw [h]

/-- The segments of a path decide its plan. -/
theorem plan_eq_ok_congr (h : (Suffixes.parse path').segments = (Suffixes.parse path).segments)
    (plan : Plan σ) : p.plan path' true = .ok plan ↔ p.plan path true = .ok plan := by
  rw [plan_eq_ok_iff, plan_eq_ok_iff, if_pos rfl, if_pos rfl, loaderOf_congr h]
  constructor
  · rintro ⟨hloader, hkey, hengines, hft⟩
    rw [h] at hengines hft
    exact ⟨hloader, hkey, hengines, hft⟩
  · rintro ⟨hloader, hkey, hengines, hft⟩
    rw [← h] at hengines hft
    exact ⟨hloader, hkey, hengines, hft⟩

/-- A path without segments has the default loader and the default file type, and no
    engines. -/
theorem plan_of_no_segments (h : (Suffixes.parse path).segments = []) {plan : Plan σ} :
    p.plan path true = .ok plan ↔
      ∃ ft, p.filetypes.default = some ft ∧ plan = ⟨p.loaders.default, none, ft, none, []⟩ := by
  have hends : ∀ known, ¬ EndsInKey known [] := by
    rintro known ⟨run, hne, hrun, -⟩
    exact hne (List.suffix_nil.1 hrun)
  have hloader : p.loaderOf (Suffixes.parse path) = (p.loaders.default, none) := by
    unfold loaderOf LoaderIndex.resolve Suffixes.resolve
    rw [h, longestKey_eq_none_iff.2 (hends _)]
    cases p.loaders.default <;> rfl
  have hft : p.filetypeOf [] [] = p.filetypes.default.map fun ft => (ft, none) := by
    unfold filetypeOf
    rw [FileTypeIndex.lookup_eq_none_iff.2 (hends _)]
    rfl
  have hrest : before ([] : List String) (consumedBy []) = [] := rfl
  rw [plan_eq_ok_iff, if_pos rfl, hloader]
  constructor
  · rintro ⟨hl, hkey, hengines, hfiletype⟩
    dsimp only at hl hkey hengines hfiletype
    rw [h, chainOf_none (hends _)] at hengines hfiletype
    rw [hrest, hft] at hfiletype
    obtain ⟨ft, hdefault, hequal⟩ := Option.map_eq_some_iff.1 hfiletype
    obtain ⟨rfl, hkey'⟩ := Prod.mk.inj hequal
    refine ⟨_, hdefault, ?_⟩
    obtain ⟨loader, loaderKey, ft, ftKey, engines⟩ := plan
    dsimp only at hl hkey hengines hkey' ⊢
    rw [hl, hkey, hengines, ← hkey']
    rfl
  · rintro ⟨ft, hdefault, rfl⟩
    refine ⟨rfl, rfl, ?_, ?_⟩
    · rw [h, chainOf_none (hends _)]
      rfl
    · rw [h, chainOf_none (hends _), hrest, hft, hdefault]
      rfl

theorem resolve_eq_ok_iff {r : Resolution σ} {s s' : Session σ} :
    p.resolve path s = .ok r s' ↔
      ∃ plan, p.plan path true = .ok plan ∧ plan.loader.isSome ∧
        p.instantiate plan s = .ok r s' := by
  constructor
  · intro h
    obtain ⟨plan, chain, hplan, hloader, hchain, rfl⟩ := resolve_eq_ok h
    exact ⟨plan, hplan, hloader, instantiate_eq_ok_iff.2 ⟨chain, hchain, rfl⟩⟩
  · rintro ⟨plan, hplan, hloader, h⟩
    rw [resolve_of_plan hplan hloader]
    exact h

/-- The segments of a path decide its resolution. -/
theorem resolve_eq_ok_congr
    (h : (Suffixes.parse path').segments = (Suffixes.parse path).segments)
    {r : Resolution σ} {s s' : Session σ} :
    p.resolve path' s = .ok r s' ↔ p.resolve path s = .ok r s' := by
  rw [resolve_eq_ok_iff, resolve_eq_ok_iff]
  simp only [plan_eq_ok_congr h]

/-- A path without segments resolves to the default file type if there is one. -/
theorem resolve_of_no_segments (h : (Suffixes.parse path).segments = [])
    {loader : Loader σ} (hloader : p.loaders.default = some loader) {r : Resolution σ}
    {s s' : Session σ} :
    p.resolve path s = .ok r s' ↔
      ∃ ft, p.filetypes.default = some ft ∧ r = ⟨some loader, none, ft, none, []⟩ ∧ s' = s := by
  rw [resolve_eq_ok_iff]
  constructor
  · rintro ⟨plan, hplan, -, hr⟩
    obtain ⟨ft, hdefault, rfl⟩ := (plan_of_no_segments h).1 hplan
    obtain ⟨chain, hchain, rfl⟩ := instantiate_eq_ok_iff.1 hr
    cases hchain
    exact ⟨ft, hdefault, by rw [hloader], rfl⟩
  · rintro ⟨ft, hdefault, rfl, rfl⟩
    refine ⟨_, (plan_of_no_segments h).2 ⟨ft, hdefault, rfl⟩, by rw [hloader]; rfl, ?_⟩
    rw [hloader]
    rfl

end Plans

/-! ## Paths of one file -/

/-- Two paths are both refused, or are resolved with the same engines and file type. -/
structure ResolveAlike (p : Pipeline σ) (s : Session σ) (path path' : String) : Prop where
  found : (∃ r s₁, p.resolve path' s = .ok r s₁) ↔ ∃ r s₁, p.resolve path s = .ok r s₁
  same : ∀ r r' s₁ s₁', p.resolve path s = .ok r s₁ → p.resolve path' s = .ok r' s₁' →
    r'.engineKeys = r.engineKeys ∧ r'.filetype = r.filetype

/-- A path that ends in a name and one without segments are resolved alike if the first one
    needs no engine and has the default file type. -/
theorem resolveAlike_iff {p : Pipeline σ} {path path' : String} {s : Session σ}
    {loader : Loader σ} (hnone : (Suffixes.parse path').segments = [])
    (hloader : p.loaders.default = some loader) :
    p.ResolveAlike s path path' ↔
      (∀ ft, p.filetypes.default = some ft →
        ∃ r s₁, p.resolve path s = .ok r s₁ ∧ r.engineKeys = [] ∧ r.filetype = ft) ∧
      (p.filetypes.default = none → ∀ r s₁, p.resolve path s ≠ .ok r s₁) := by
  have hplain : ∀ {r' s₁'}, p.resolve path' s = .ok r' s₁' ↔ ∃ ft, _ :=
    resolve_of_no_segments hnone hloader
  constructor
  · intro h
    constructor
    · intro ft hft
      have hr' := hplain.2 ⟨ft, hft, rfl, rfl⟩
      obtain ⟨r, s₁, hr⟩ := h.found.1 ⟨_, _, hr'⟩
      obtain ⟨hengines, hfiletype⟩ := h.same _ _ _ _ hr hr'
      exact ⟨r, s₁, hr, hengines.symm, hfiletype.symm⟩
    · intro hft r s₁ hr
      obtain ⟨r', s₁', hr'⟩ := h.found.2 ⟨r, s₁, hr⟩
      obtain ⟨ft, hsome, -⟩ := hplain.1 hr'
      rw [hft] at hsome
      cases hsome
  · rintro ⟨hsome, hnothing⟩
    constructor
    · constructor
      · rintro ⟨r', s₁', hr'⟩
        obtain ⟨ft, hft, -⟩ := hplain.1 hr'
        obtain ⟨r, s₁, hr, -⟩ := hsome ft hft
        exact ⟨r, s₁, hr⟩
      · rintro ⟨r, s₁, hr⟩
        cases hft : p.filetypes.default with
        | none => exact absurd hr (hnothing hft r s₁)
        | some ft => exact ⟨_, _, hplain.2 ⟨ft, hft, rfl, rfl⟩⟩
    · intro r r' s₁ s₁' hr hr'
      obtain ⟨ft, hft, rfl, -⟩ := hplain.1 hr'
      obtain ⟨r₀, s₀, hr₀, hengines, hfiletype⟩ := hsome ft hft
      obtain ⟨rfl, -⟩ := EStateM.Result.ok.inj (hr.symm.trans hr₀)
      exact ⟨hengines.symm, hfiletype.symm⟩

/-- **Which spellings of a path are resolved alike.**  The default loader of a pipeline reads
    the root folders, and loading two paths from these gives the same file.  If both paths
    end in a name, or neither does, they are resolved to the same, loader and renderers
    included.  If one of them does not, it has neither engines nor an extension, so that
    they are resolved alike exactly if the other one needs no engine and has the default
    file type, or if there is no default file type and the other one is refused too. -/
theorem resolve_of_same_file {b : PipelineBuilder σ} {p : Pipeline σ} (h : b.finalize = .ok p)
    (hdefault : b.loaders.default = none) {path path' full full' : String}
    {extension extension' : Option String} {w w' w₁ w₁' : World σ}
    (hload : (Loader.folders b.loaders.roots extension).load path w = .ok (.file full) w₁)
    (hload' : (Loader.folders b.loaders.roots extension').load path' w' =
      .ok (.file full') w₁')
    (hsame : Path.components full' = Path.components full) (s : Session σ) :
    ((Path.EndsInName path' ↔ Path.EndsInName path) →
      ∀ r s₁, p.resolve path' s = .ok r s₁ ↔ p.resolve path s = .ok r s₁) ∧
    (Path.EndsInName path → ¬ Path.EndsInName path' →
      (p.ResolveAlike s path path' ↔
        (∀ ft, p.filetypes.default = some ft →
          ∃ r s₁, p.resolve path s = .ok r s₁ ∧ r.engineKeys = [] ∧ r.filetype = ft) ∧
        (p.filetypes.default = none → ∀ r s₁, p.resolve path s ≠ .ok r s₁))) := by
  obtain ⟨root, hroot, hbelow⟩ := Files.exists_below (Loader.find?_of_load_folders hload)
  obtain ⟨root', -, hbelow'⟩ := Files.exists_below (Loader.find?_of_load_folders hload')
  constructor
  · intro hboth r s₁
    refine resolve_eq_ok_congr ?_
    by_cases hname : Path.EndsInName path
    · have hlast := Path.getLast?_components_of_below hname hbelow
      have hlast' := Path.getLast?_components_of_below (hboth.2 hname) hbelow'
      rw [hsame, hlast] at hlast'
      exact Suffixes.segments_of_name (Option.some.inj hlast').symm
    · rw [Suffixes.segments_eq_nil hname, Suffixes.segments_eq_nil (mt hboth.1 hname)]
  · intro _ hname'
    have hloader : p.loaders.default = some (.folders b.loaders.roots none) := by
      have hroots : b.loaders.roots.isEmpty = false := by
        rw [List.isEmpty_eq_false_iff]
        exact List.ne_nil_of_mem hroot
      rw [(PipelineBuilder.finalized h).loaders]
      unfold LoaderRegistry.finalize
      rw [hdefault, hroots]
      rfl
    exact resolveAlike_iff (Suffixes.segments_eq_nil hname') hloader

namespace Notes

/-- Settings with a root folder: style sheets, plain text by default, and an engine. -/
def rootedSteps : List (Step Unit) :=
  [.filetype "text/css", .editFileType "text/css" (.addExtension "css"),
    .filetype "text/plain", .editFileType "text/plain" (.addExtension "txt"),
    .setDefaultFileType "text/plain", .registerEngine "tpl" engine]

def rootedBuilder : PipelineBuilder Unit :=
  rootedSteps.foldl PipelineBuilder.after (.new ⟨["t"], none⟩)

def rooted : Pipeline Unit where
  context := ⟨["t"], none⟩
  loaders := ⟨["css", "tpl", "txt"].map fun key => (key, .folders ["t"] (some key)),
    some (.folders ["t"] none)⟩
  filetypes := ⟨[("text/css", styleSheet), ("text/plain", plainText)],
    [("css", styleSheet), ("txt", plainText)], some plainText⟩
  engines := ⟨[("tpl", ⟨engine, 0⟩)], ["text/css", "text/plain"]⟩
  generation := 4

theorem finalize_rooted : rootedBuilder.finalize = .ok rooted := rfl

/-- A folder `t` with one template. -/
def tree : Files :=
  ⟨[(["work"], .folder), (["work", "t"], .folder),
    (["work", "t", "a.css.tpl"], .file "{x}".toUTF8)], ["work"]⟩

def onDisk : Session Unit := ⟨[], ⟨tree, [], 0, ()⟩⟩

theorem locate_tree : tree.locate "t/a.css.tpl" = .ok ["work", "t", "a.css.tpl"] := by
  have hsplit : Text.split '/' "t/a.css.tpl" = ["t", "a.css.tpl"] := by decide
  unfold Files.locate Files.locateWith
  rw [if_neg (by decide), if_neg (by decide), if_neg (by decide), if_neg (by decide), hsplit]
  rw [Files.follow_cons rfl (by decide) (by decide) ⟨.folder, rfl, by simp⟩]
  rw [Files.follow_cons rfl (by decide) (by decide) ⟨.file _, rfl, by simp⟩]
  rw [Files.follow_nil]
  rfl

theorem isFile_tree : tree.isFile "t/a.css.tpl" = true := by
  unfold Files.isFile Files.at?
  rw [locate_tree]
  rfl

theorem find?_tree {path : String} (h : Path.below "t" path = some "t/a.css.tpl") :
    tree.find? ["t"] path = some "t/a.css.tpl" := by
  unfold Files.find?
  rw [List.filterMap_cons, h]
  dsimp only
  rw [List.filterMap_nil, List.find?_cons, isFile_tree]

theorem readText_tree : Action.readText "t/a.css.tpl" onDisk.world = .ok "{x}" onDisk.world := by
  refine Action.readText_of_ok ?_
  show tree.readText "t/a.css.tpl" = .ok "{x}"
  unfold Files.readText Files.readBytes
  rw [locate_tree]
  rfl

/-- Every path with one component, the name of the template, loads the template. -/
theorem load_tree (path : String) (h : Path.below "t" path = some "t/a.css.tpl") :
    (Loader.folders ["t"] none).load path onDisk.world =
      .ok (.file "t/a.css.tpl") onDisk.world := by
  refine (Loader.load_eq_ok_iff rfl).2 ⟨?_, rfl⟩
  unfold Loader.found
  rw [show onDisk.world.files = tree from rfl, find?_tree h]
  rfl

/-- The same with other loaders. -/
def rootedWith (loaders : LoaderIndex Unit) (generation : Nat) : Pipeline Unit :=
  { rooted with loaders := loaders, generation := generation }

/-- The style sheet is made by one engine, whatever its loader is. -/
theorem resolve_rootedWith {loaders : LoaderIndex Unit} {loader : Loader Unit}
    {found : Option KeyMatch} (generation : Nat)
    (hfound : loaders.resolve ⟨"a", ["css", "tpl"]⟩ = some (loader, found)) :
    (rootedWith loaders generation).resolve "a.css.tpl" onDisk =
      .ok ⟨some loader, found.map (·.key), styleSheet, some "css", [("tpl", bracket)]⟩
        ⟨[((0, "text/css"), bracket)], onDisk.world⟩ := by
  have hparse : Suffixes.parse "a.css.tpl" = ⟨"a", ["css", "tpl"]⟩ := by cbv
  have hloader : (rootedWith loaders generation).loaderOf ⟨"a", ["css", "tpl"]⟩ =
      (some loader, found) := by
    have hresolve : (rootedWith loaders generation).loaders.resolve ⟨"a", ["css", "tpl"]⟩ =
      some (loader, found) := hfound
    unfold loaderOf
    rw [hresolve]
  have hchain : (rootedWith loaders generation).chainOf ["css", "tpl"] found =
      ([⟨"tpl", 1⟩], ["css", "tpl"]) := by
    have hkey : longestKey (rootedWith loaders generation).engines.containsExtension
        ["css", "tpl"] = some ⟨"tpl", 1⟩ := rfl
    unfold chainOf EngineIndex.resolveChain
    rw [chain_of_some hkey, chain_of_none rfl]
  have hplan : (rootedWith loaders generation).plan "a.css.tpl" true =
      .ok ⟨some loader, found.map (·.key), styleSheet, some "css", ["tpl"]⟩ := by
    unfold plan
    simp only [hparse, if_true, hloader, hchain]
    rfl
  rw [resolve_of_plan hplan rfl]
  rfl

theorem resolve_tree : rooted.resolve "a.css.tpl" onDisk =
    .ok ⟨some (.folders ["t"] (some "tpl")), some "tpl", styleSheet, some "css",
        [("tpl", bracket)]⟩
      ⟨[((0, "text/css"), bracket)], onDisk.world⟩ := by
  have hloader : rooted.loaders.resolve ⟨"a", ["css", "tpl"]⟩ =
    some (.folders ["t"] (some "tpl"), some ⟨"tpl", 1⟩) := rfl
  exact resolve_rootedWith 4 hloader

/-- With a `/` behind it, it has the default type and needs no engine. -/
theorem resolve_tree_slash : rooted.resolve "a.css.tpl/" onDisk =
    .ok ⟨some (.folders ["t"] none), none, plainText, none, []⟩ onDisk :=
  (resolve_of_no_segments (Suffixes.segments_eq_nil (by decide)) rfl).2
    ⟨plainText, rfl, rfl, rfl⟩

end Notes

/-- Separators and dots in front of the name make no difference; behind it, they take the
    engine and the file type away. -/
theorem resolve_of_same_file_notes :
    (∀ r s₁, Notes.rooted.resolve "/.//a.css.tpl" Notes.onDisk = .ok r s₁ ↔
      Notes.rooted.resolve "a.css.tpl" Notes.onDisk = .ok r s₁) ∧
    ¬ Notes.rooted.ResolveAlike Notes.onDisk "a.css.tpl" "a.css.tpl/" := by
  have hload := Notes.load_tree "a.css.tpl" (by decide)
  have hname : Path.EndsInName "a.css.tpl" := by decide
  constructor
  · refine (resolve_of_same_file Notes.finalize_rooted rfl hload
      (Notes.load_tree "/.//a.css.tpl" (by decide)) rfl Notes.onDisk).1 ?_
    exact iff_of_true (by decide) hname
  · rw [(resolve_of_same_file Notes.finalize_rooted rfl hload
      (Notes.load_tree "a.css.tpl/" (by decide)) rfl Notes.onDisk).2 hname (by decide)]
    rintro ⟨hplain, -⟩
    obtain ⟨r, s₁, hr, hnone, -⟩ := hplain Notes.plainText rfl
    cases Notes.resolve_tree.symm.trans hr
    cases hnone

/-- Two spellings of the path of one file need not be resolved alike, where all loaders are
    those of the root folders: a `/` at the end hides the engines, and the file is taken for
    a finished one of the default file type. -/
theorem trailing_slash_skips_engines :
    ¬ ∀ (b : PipelineBuilder Unit) (p : Pipeline Unit), b.finalize = .ok p →
      b.loaders.default = none → b.loaders.chains = [] →
      ∀ (path path' full : String) (w : World Unit),
        (Loader.folders b.loaders.roots none).load path w = .ok (.file full) w →
        (Loader.folders b.loaders.roots none).load path' w = .ok (.file full) w →
        ∀ s, p.ResolveAlike s path path' := by
  intro h
  have halike := h Notes.rootedBuilder Notes.rooted Notes.finalize_rooted rfl rfl
    "a.css.tpl" "a.css.tpl/" "t/a.css.tpl" Notes.onDisk.world
    (Notes.load_tree _ (by decide)) (Notes.load_tree _ (by decide)) Notes.onDisk
  cases (halike.same _ _ _ _ Notes.resolve_tree Notes.resolve_tree_slash).1

end Pipeline

end RenderChain
