/-
  RenderChain/Proofs/Resolution.lean
  ==================================
  **What the suffixes of a path decide.**

  A resolution carries the keys that were found.  The statements here compare
  these keys with the segments of the path: which runs of segments are loader
  keys, engine keys and extensions of file types, and which of them win.

    * `plan_eq_ok_iff` and `resolve_eq_ok`: what a plan and a resolution consist of;
    * `resolve_takes_apart`: the segments are what is left, the engine keys from
      the last to the first, and the loader key if the engines had to be sought
      in front of it;
    * `filetype_without_engines`: which file type a path without engines has.
-/
import RenderChain.Pipeline.Builder
import RenderChain.Proofs.Action
import RenderChain.Proofs.Suffixes

namespace RenderChain

variable {σ : Type}

/-! ## Indexes -/

theorem LoaderIndex.exists_find? {index : LoaderIndex σ} {key : String}
    (h : index.containsExtension key = true) :
    ∃ loader, Keyed.find? key index.byExtension = some loader :=
  Option.isSome_iff_exists.1 h

theorem FileTypeIndex.exists_find? {index : FileTypeIndex σ} {key : String}
    (h : index.containsExtension key = true) :
    ∃ ft, Keyed.find? key index.byExtension = some ft :=
  Option.isSome_iff_exists.1 h

/-- What an index gives for segments: the file type of the longest extension at
    their end, and the default one only if there is no such extension. -/
def FileTypeIndex.Selects (index : FileTypeIndex σ) (segments : List String) (ft : FileType σ) :
    Option String → Prop
  | some key =>
    LongestRun index.containsExtension segments (Text.split '.' key) ∧
      Keyed.find? key index.byExtension = some ft
  | none => ¬ EndsInKey index.containsExtension segments ∧ index.default = some ft

theorem FileTypeIndex.lookup_eq_none_iff {index : FileTypeIndex σ} {segments : List String} :
    index.lookup segments = none ↔ ¬ EndsInKey index.containsExtension segments := by
  rw [← longestKey_eq_none_iff]
  unfold FileTypeIndex.lookup
  cases hfound : longestKey index.containsExtension segments with
  | none => simp
  | some m =>
    obtain ⟨run, hrun, rfl⟩ := exists_longestRun hfound
    obtain ⟨ft, hft⟩ := FileTypeIndex.exists_find? hrun.isKey
    simp [hft]

theorem FileTypeIndex.selects_of_lookup {index : FileTypeIndex σ} {segments : List String}
    (hdot : Dotless segments) {ft : FileType σ} {found : KeyMatch}
    (h : index.lookup segments = some (ft, found)) :
    index.Selects segments ft (some found.key) := by
  unfold FileTypeIndex.lookup at h
  obtain ⟨m, hm, h⟩ := Option.bind_eq_some_iff.1 h
  obtain ⟨owner, howner, h⟩ := Option.bind_eq_some_iff.1 h
  obtain ⟨rfl, rfl⟩ := Prod.mk.inj (Option.some.inj h)
  obtain ⟨run, hrun, rfl⟩ := exists_longestRun hm
  refine ⟨?_, howner⟩
  rw [split_dotted hrun.ne_nil (hdot.of_suffix hrun.atEnd)]
  exact hrun

/-- The file type that the index resolves suffixes to is the one it selects. -/
theorem FileTypeIndex.selects_of_resolve {index : FileTypeIndex σ} {s : Suffixes}
    (hdot : Dotless s.segments) {ft : FileType σ} {found : Option KeyMatch}
    (h : index.resolve s = some (ft, found)) :
    index.Selects s.segments ft (found.map (·.key)) := by
  unfold FileTypeIndex.resolve at h
  cases hlookup : index.lookup s.segments with
  | none =>
    simp only [hlookup, Option.map_eq_some_iff, Prod.mk.injEq] at h
    obtain ⟨_, hdefault, rfl, rfl⟩ := h
    exact ⟨FileTypeIndex.lookup_eq_none_iff.1 hlookup, hdefault⟩
  | some choice =>
    simp only [hlookup, Option.some.injEq, Prod.mk.injEq] at h
    obtain ⟨rfl, rfl⟩ := h
    exact FileTypeIndex.selects_of_lookup hdot hlookup

namespace Pipeline

/-- The key that selects the loader is the longest loader key of the path. -/
theorem loaderOf_match (p : Pipeline σ) (s : Suffixes) :
    (p.loaderOf s).2 = longestKey p.loaders.containsExtension s.segments := by
  unfold loaderOf LoaderIndex.resolve Suffixes.resolve
  cases hfound : longestKey p.loaders.containsExtension s.segments with
  | none => cases p.loaders.default <;> rfl
  | some m =>
    obtain ⟨run, hrun, rfl⟩ := exists_longestRun hfound
    obtain ⟨loader, hloader⟩ := LoaderIndex.exists_find? hrun.isKey
    simp [hloader]

/-! ## The engine chain -/

section Chain

variable {p : Pipeline σ} {segments : List String}

theorem chainOf_of_endsInKey (h : EndsInKey p.engines.containsExtension segments)
    (loaderMatch : Option KeyMatch) :
    p.chainOf segments loaderMatch =
      (chain p.engines.containsExtension segments, segments) := by
  unfold chainOf EngineIndex.resolveChain
  cases hchain : chain p.engines.containsExtension segments with
  | nil => exact absurd h (chain_eq_nil_iff.1 hchain)
  | cons m rest => rfl

theorem chainOf_some (h : ¬ EndsInKey p.engines.containsExtension segments)
    (found : KeyMatch) :
    p.chainOf segments (some found) =
      (chain p.engines.containsExtension (before segments found.consumed),
        before segments found.consumed) := by
  unfold chainOf EngineIndex.resolveChain
  rw [chain_eq_nil_iff.2 h]

theorem chainOf_none (h : ¬ EndsInKey p.engines.containsExtension segments) :
    p.chainOf segments none = ([], segments) := by
  unfold chainOf EngineIndex.resolveChain
  rw [chain_eq_nil_iff.2 h]

/-- The matches are the chain of the segments in which the engines are sought. -/
theorem chainOf_fst (p : Pipeline σ) (segments : List String) (loaderMatch : Option KeyMatch) :
    (p.chainOf segments loaderMatch).1 =
      chain p.engines.containsExtension (p.chainOf segments loaderMatch).2 := by
  by_cases h : EndsInKey p.engines.containsExtension segments
  · rw [chainOf_of_endsInKey h]
  · cases loaderMatch with
    | none => rw [chainOf_none h, chain_eq_nil_iff.2 h]
    | some found => rw [chainOf_some h]

theorem dotless_chainOf (hdot : Dotless segments) (loaderMatch : Option KeyMatch) :
    Dotless (p.chainOf segments loaderMatch).2 := by
  by_cases h : EndsInKey p.engines.containsExtension segments
  · rw [chainOf_of_endsInKey h]
    exact hdot
  · cases loaderMatch with
    | none =>
      rw [chainOf_none h]
      exact hdot
    | some found =>
      rw [chainOf_some h]
      exact hdot.before found.consumed

/-- The engines do not cover more segments than those in which they are sought, and
    their keys take these apart. -/
theorem decomposition_chainOf (p : Pipeline σ) (hdot : Dotless segments)
    (loaderMatch : Option KeyMatch) :
    consumedBy (p.chainOf segments loaderMatch).1 ≤ (p.chainOf segments loaderMatch).2.length ∧
      Decomposition p.engines.containsExtension (p.chainOf segments loaderMatch).2
        ((p.chainOf segments loaderMatch).1.map (·.key))
        (before (p.chainOf segments loaderMatch).2
          (consumedBy (p.chainOf segments loaderMatch).1)) := by
  have h := decomposition_chain p.engines.containsExtension
    (dotless_chainOf (p := p) hdot loaderMatch)
  rwa [← chainOf_fst] at h

/-- How the segments of a path fall into what is left, the engine keys from the last
    to the first, and the loader key if the engines are sought in front of it. -/
structure TakesApart (engines : String → Bool) (segments : List String)
    (loaderKey : Option String) (engineKeys left : List String) : Prop where
  /-- The path ends in an engine key: the loader key plays no part. -/
  atEnd : EndsInKey engines segments →
    engineKeys ≠ [] ∧ segments = left ++ spelled engineKeys
  inFront : ¬ EndsInKey engines segments → ∀ key, loaderKey = some key →
    segments = left ++ spelled engineKeys ++ Text.split '.' key
  without : ¬ EndsInKey engines segments → loaderKey = none →
    engineKeys = [] ∧ left = segments
  /-- Each key is the longest at the end of what the keys before it have not taken. -/
  greedy : ∀ taken key rest, engineKeys = taken ++ key :: rest →
    LongestRun engines (left ++ spelled (key :: rest)) (Text.split '.' key)
  exhausted : ¬ EndsInKey engines left

theorem takesApart_chainOf (p : Pipeline σ) (hdot : Dotless segments)
    {loaderMatch : Option KeyMatch}
    (hmatch : ∀ m, loaderMatch = some m → ∃ run, run ≠ [] ∧ run <:+ segments ∧
      m = ⟨dotted run, run.length⟩) :
    TakesApart p.engines.containsExtension segments (loaderMatch.map (·.key))
      ((p.chainOf segments loaderMatch).1.map (·.key))
      (before (p.chainOf segments loaderMatch).2
        (consumedBy (p.chainOf segments loaderMatch).1)) := by
  obtain ⟨-, hchain⟩ := decomposition_chainOf p hdot loaderMatch
  constructor
  · intro h
    have hne := mt chain_eq_nil_iff.1 (not_not_intro h)
    rw [chainOf_of_endsInKey h] at hchain ⊢
    exact ⟨by simpa using hne, hchain.spells⟩
  · intro h key hkey
    obtain ⟨m, rfl, rfl⟩ := Option.map_eq_some_iff.1 hkey
    obtain ⟨run, hne, hrun, rfl⟩ := hmatch m rfl
    rw [chainOf_some h] at hchain ⊢
    rw [← hchain.spells, split_dotted hne (hdot.of_suffix hrun)]
    exact (before_append_of_suffix hrun).symm
  · intro h hkey
    rw [Option.map_eq_none_iff.1 hkey, chainOf_none h]
    exact ⟨rfl, before_zero segments⟩
  · exact hchain.greedy
  · exact hchain.exhausted

end Chain

/-! ## Plans and resolutions -/

/-- What the plan of a path consists of, given its loader and loader match. -/
structure Planned (p : Pipeline σ) (path : String) (choice : Option (Loader σ) × Option KeyMatch)
    (plan : Plan σ) : Prop where
  loader : plan.loader = choice.1
  loaderKey : plan.loaderKey = choice.2.map (·.key)
  engines : plan.engines = (p.chainOf (Suffixes.parse path).segments choice.2).1.map (·.key)
  filetype : p.filetypeOf
      (before (p.chainOf (Suffixes.parse path).segments choice.2).2
        (consumedBy (p.chainOf (Suffixes.parse path).segments choice.2).1))
      (Suffixes.parse path).segments = some (plan.filetype, plan.filetypeKey)

theorem plan_eq_ok_iff {p : Pipeline σ} {path : String} {useLoader : Bool} {plan : Plan σ} :
    p.plan path useLoader = .ok plan ↔
      Planned p path (if useLoader then p.loaderOf (Suffixes.parse path) else (none, none))
        plan := by
  unfold Pipeline.plan
  dsimp only
  generalize (if useLoader then p.loaderOf (Suffixes.parse path) else (none, none)) = choice
  obtain ⟨loader, loaderKey, ft, key, engines⟩ := plan
  constructor
  · intro h
    split at h
    · cases h
    next ft' key' hft =>
      cases h
      exact ⟨rfl, rfl, rfl, hft⟩
  · rintro ⟨hloader, hloaderKey, hengines, hft⟩
    dsimp only at hloader hloaderKey hengines hft
    subst hloader hloaderKey hengines
    rw [hft]

theorem renderers_keys {p : Pipeline σ} {ft : FileType σ} {keys : List String}
    {chain : List (String × Renderer σ)} {s s' : Session σ}
    (h : p.renderers ft keys s = .ok chain s') : chain.map Prod.fst = keys := by
  induction keys generalizing chain s with
  | nil =>
    cases h
    rfl
  | cons key rest ih =>
    unfold renderers at h
    obtain ⟨renderer, s₁, -, h⟩ := bind_eq_ok_iff.1 h
    obtain ⟨others, s₂, hothers, h⟩ := bind_eq_ok_iff.1 h
    cases h
    rw [List.map_cons, ih hothers]

theorem instantiate_eq_ok_iff {p : Pipeline σ} {plan : Plan σ} {r : Resolution σ}
    {s s' : Session σ} :
    p.instantiate plan s = .ok r s' ↔
      ∃ chain, p.renderers plan.filetype plan.engines s = .ok chain s' ∧
        r = ⟨plan.loader, plan.loaderKey, plan.filetype, plan.filetypeKey, chain⟩ := by
  unfold instantiate
  rw [bind_eq_ok_iff]
  constructor
  · rintro ⟨chain, s₁, hchain, h⟩
    cases h
    exact ⟨chain, hchain, rfl⟩
  · rintro ⟨chain, hchain, rfl⟩
    exact ⟨chain, s', hchain, rfl⟩

theorem resolve_of_plan {p : Pipeline σ} {path : String} {plan : Plan σ}
    (h : p.plan path true = .ok plan) (hloader : plan.loader.isSome) (s : Session σ) :
    p.resolve path s = p.instantiate plan s := by
  have hnone : plan.loader.isNone = false := by simpa using hloader
  unfold resolve
  simp only [h, hnone, Bool.false_eq_true, if_false]

/-- A resolution is a plan with a loader, and the renderers of its engines. -/
theorem resolve_eq_ok {p : Pipeline σ} {path : String} {r : Resolution σ} {s s' : Session σ}
    (h : p.resolve path s = .ok r s') :
    ∃ plan chain, p.plan path true = .ok plan ∧ plan.loader.isSome ∧
      p.renderers plan.filetype plan.engines s = .ok chain s' ∧
      r = ⟨plan.loader, plan.loaderKey, plan.filetype, plan.filetypeKey, chain⟩ := by
  cases hplan : p.plan path true with
  | error e =>
    unfold resolve at h
    rw [hplan] at h
    cases h
  | ok plan =>
    cases hloader : plan.loader with
    | none =>
      unfold resolve at h
      rw [hplan] at h
      simp only [hloader, Option.isNone_none, if_true] at h
      cases h
    | some loader =>
      rw [resolve_of_plan hplan (by simp [hloader]), instantiate_eq_ok_iff] at h
      obtain ⟨chain, hchain, rfl⟩ := h
      exact ⟨plan, chain, rfl, by simp [hloader], hchain, by rw [hloader]⟩

/-! ## File types -/

theorem filetypeOf_of_endsInKey {p : Pipeline σ} {remaining all : List String}
    (hdot : Dotless remaining) (hend : EndsInKey p.filetypes.containsExtension remaining)
    {ft : FileType σ} {key : Option String} (h : p.filetypeOf remaining all = some (ft, key)) :
    p.filetypes.Selects remaining ft key := by
  unfold filetypeOf at h
  cases hlookup : p.filetypes.lookup remaining with
  | none => exact absurd hend (FileTypeIndex.lookup_eq_none_iff.1 hlookup)
  | some choice =>
    rw [hlookup] at h
    cases h
    exact FileTypeIndex.selects_of_lookup hdot hlookup

/-- If all segments remain, or the remaining ones end in no extension, the file type is
    the one that the index resolves the suffixes to. -/
theorem filetypeOf_eq_resolve {p : Pipeline σ} {remaining : List String} {s : Suffixes}
    (h : remaining = s.segments ∨ ¬ EndsInKey p.filetypes.containsExtension remaining) :
    p.filetypeOf remaining s.segments =
      (p.filetypes.resolve s).map fun choice => (choice.1, choice.2.map (·.key)) := by
  have hlookup : (p.filetypes.lookup remaining).or (p.filetypes.lookup s.segments) =
      p.filetypes.lookup s.segments := by
    rcases h with rfl | hend
    · exact Option.or_self
    · rw [FileTypeIndex.lookup_eq_none_iff.2 hend, Option.none_or]
  unfold filetypeOf FileTypeIndex.resolve
  rw [hlookup]
  cases p.filetypes.lookup s.segments with
  | none => cases p.filetypes.default <;> rfl
  | some choice => rfl

/-! ## What a resolution says about its path

The statements are tried on a small pipeline: two file types, templates in memory for
`txt`, and an engine for `tpl` that puts a text into angle brackets. -/

namespace Notes

def templates : Loader Unit := .inline [("a.css.txt", "x"), ("a.tpl.txt", "y")]

def bracket : Renderer Unit :=
  .ofString (.numbered 0) fun content _ _ => pure ("<" ++ content ++ ">")

def engine : Engine Unit := ⟨.numbered 0, fun _ _ => pure bracket⟩

def styleSheet : FileType Unit := ⟨"text/css", ["css"], [], []⟩

def plainText : FileType Unit := ⟨"text/plain", ["txt"], [], []⟩

def settings : Configure Unit Unit := do
  discard (PipelineBuilder.filetype "text/css")
  PipelineBuilder.editFileType "text/css" (.addExtension "css")
  discard (PipelineBuilder.filetype "text/plain")
  PipelineBuilder.editFileType "text/plain" (.addExtension "txt")
  PipelineBuilder.addLoader "txt" templates
  PipelineBuilder.registerEngine "tpl" engine

def pipeline : Pipeline Unit where
  context := ⟨[], none⟩
  loaders := ⟨[("txt", templates)], none⟩
  filetypes := ⟨[("text/css", styleSheet), ("text/plain", plainText)],
    [("css", styleSheet), ("txt", plainText)], none⟩
  engines := ⟨[("tpl", ⟨engine, 0⟩)], ["text/css", "text/plain"]⟩
  generation := 4

def session : Session Unit := ⟨[], ⟨Files.empty, [], 0, ()⟩⟩

theorem finalize_settings :
    ∃ b, settings (.new ⟨[], none⟩) = .ok () b ∧ b.finalize = .ok pipeline :=
  ⟨_, rfl, rfl⟩

/-- No engine, and the loader key is cut off before the file type is sought. -/
theorem resolve_css : pipeline.resolve "a.css.txt" session =
    .ok ⟨some templates, some "txt", styleSheet, some "css", []⟩ session := by
  have hparse : Suffixes.parse "a.css.txt" = ⟨"a", ["css", "txt"]⟩ := by cbv
  have hloader : pipeline.loaderOf ⟨"a", ["css", "txt"]⟩ =
      (some templates, some ⟨"txt", 1⟩) := rfl
  have hchain : pipeline.chainOf ["css", "txt"] (some ⟨"txt", 1⟩) = ([], ["css"]) := by
    unfold chainOf EngineIndex.resolveChain
    rw [chain_of_none rfl]
    show (chain pipeline.engines.containsExtension ["css"], ["css"]) = ([], ["css"])
    rw [chain_of_none rfl]
  have hplan : pipeline.plan "a.css.txt" true =
      .ok ⟨some templates, some "txt", styleSheet, some "css", []⟩ := by
    unfold plan
    simp only [hparse, if_true, hloader, hchain]
    rfl
  rw [resolve_of_plan hplan rfl]
  rfl

/-- The engine is sought in front of the loader key. -/
theorem resolve_tpl : pipeline.resolve "a.tpl.txt" session =
    .ok ⟨some templates, some "txt", plainText, some "txt", [("tpl", bracket)]⟩
      ⟨[((0, "text/plain"), bracket)], session.world⟩ := by
  have hparse : Suffixes.parse "a.tpl.txt" = ⟨"a", ["tpl", "txt"]⟩ := by cbv
  have hloader : pipeline.loaderOf ⟨"a", ["tpl", "txt"]⟩ =
      (some templates, some ⟨"txt", 1⟩) := rfl
  have hchain : pipeline.chainOf ["tpl", "txt"] (some ⟨"txt", 1⟩) =
      ([⟨"tpl", 1⟩], ["tpl"]) := by
    unfold chainOf EngineIndex.resolveChain
    rw [chain_of_none rfl]
    show (chain pipeline.engines.containsExtension ["tpl"], ["tpl"]) = ([⟨"tpl", 1⟩], ["tpl"])
    have hfound : longestKey pipeline.engines.containsExtension ["tpl"] = some ⟨"tpl", 1⟩ := rfl
    rw [chain_of_some hfound, chain_of_none rfl]
  have hplan : pipeline.plan "a.tpl.txt" true =
      .ok ⟨some templates, some "txt", plainText, some "txt", ["tpl"]⟩ := by
    unfold plan
    simp only [hparse, if_true, hloader, hchain]
    rfl
  rw [resolve_of_plan hplan rfl]
  rfl

end Notes

/-- The key of the loader of a plan is the longest loader key of the path. -/
theorem plan_loaderKey {p : Pipeline σ} {path : String} {plan : Plan σ}
    (h : p.plan path true = .ok plan) :
    plan.loaderKey =
      (longestKey p.loaders.containsExtension (Suffixes.parse path).segments).map (·.key) := by
  have hplanned := plan_eq_ok_iff.1 h
  rw [if_pos rfl] at hplanned
  rw [hplanned.loaderKey, loaderOf_match]

theorem plan_loaderKey_eq_none {p : Pipeline σ} {path : String} {plan : Plan σ}
    (h : p.plan path true = .ok plan) (hkey : plan.loaderKey = none) :
    ¬ EndsInKey p.loaders.containsExtension (Suffixes.parse path).segments := by
  rw [plan_loaderKey h, Option.map_eq_none_iff] at hkey
  exact longestKey_eq_none_iff.1 hkey

theorem plan_loaderKey_eq_some {p : Pipeline σ} {path key : String} {plan : Plan σ}
    (h : p.plan path true = .ok plan) (hkey : plan.loaderKey = some key) :
    LongestRun p.loaders.containsExtension (Suffixes.parse path).segments
      (Text.split '.' key) := by
  rw [plan_loaderKey h] at hkey
  obtain ⟨m, hm, rfl⟩ := Option.map_eq_some_iff.1 hkey
  obtain ⟨run, hrun, rfl⟩ := exists_longestRun hm
  rwa [split_dotted hrun.ne_nil ((Suffixes.dotless_parse path).of_suffix hrun.atEnd)]

/-- The keys of a plan take the path apart, and its file type is sought in what is left
    and then in all segments. -/
theorem plan_takes_apart {p : Pipeline σ} {path : String} {plan : Plan σ}
    (h : p.plan path true = .ok plan) :
    ∃ left, TakesApart p.engines.containsExtension (Suffixes.parse path).segments
        plan.loaderKey plan.engines left ∧
      p.filetypeOf left (Suffixes.parse path).segments =
        some (plan.filetype, plan.filetypeKey) := by
  have hplanned := plan_eq_ok_iff.1 h
  rw [if_pos rfl] at hplanned
  have hmatch : ∀ m, (p.loaderOf (Suffixes.parse path)).2 = some m →
      ∃ run, run ≠ [] ∧ run <:+ (Suffixes.parse path).segments ∧
        m = ⟨dotted run, run.length⟩ := by
    intro m hm
    rw [loaderOf_match] at hm
    obtain ⟨run, hrun, hkey⟩ := exists_longestRun hm
    exact ⟨run, hrun.ne_nil, hrun.atEnd, hkey⟩
  refine ⟨_, ?_, hplanned.filetype⟩
  rw [hplanned.loaderKey, hplanned.engines]
  exact takesApart_chainOf p (Suffixes.dotless_parse path) hmatch

/-- **The keys of a resolution are an exact decomposition of the path.**  The loader key
    is the longest one of the path, and the engine keys, each the longest where it
    stands, take the path apart; what they cover is never more than there is, whether
    the path resolves or not. -/
theorem resolve_takes_apart (p : Pipeline σ) (path : String) :
    (∀ found, (p.loaderOf (Suffixes.parse path)).2 = some found →
      found.consumed ≤ (Suffixes.parse path).segments.length) ∧
    (∀ loaderMatch, consumedBy (p.chainOf (Suffixes.parse path).segments loaderMatch).1 ≤
      (p.chainOf (Suffixes.parse path).segments loaderMatch).2.length) ∧
    ∀ s r s', p.resolve path s = .ok r s' →
      (r.loaderKey = none →
        ¬ EndsInKey p.loaders.containsExtension (Suffixes.parse path).segments) ∧
      (∀ key, r.loaderKey = some key →
        LongestRun p.loaders.containsExtension (Suffixes.parse path).segments
          (Text.split '.' key)) ∧
      ∃ left, TakesApart p.engines.containsExtension (Suffixes.parse path).segments
        r.loaderKey r.engineKeys left := by
  refine ⟨?_, ?_, ?_⟩
  · intro found hfound
    rw [loaderOf_match] at hfound
    exact (longestKey_consumed hfound).2
  · intro loaderMatch
    exact (decomposition_chainOf p (Suffixes.dotless_parse path) loaderMatch).1
  · intro s r s' h
    obtain ⟨plan, chain, hplan, -, hchain, rfl⟩ := resolve_eq_ok h
    obtain ⟨left, hleft, -⟩ := plan_takes_apart hplan
    refine ⟨plan_loaderKey_eq_none hplan, fun key => plan_loaderKey_eq_some hplan, left, ?_⟩
    unfold Resolution.engineKeys
    rw [renderers_keys hchain]
    exact hleft

/-- With an engine in front of the loader key, nothing is left over. -/
theorem resolve_takes_apart_tpl :
    ∃ r s', Notes.pipeline.resolve "a.tpl.txt" Notes.session = .ok r s' ∧
      r.engineKeys = ["tpl"] ∧ r.loaderKey = some "txt" ∧
      ∃ left, TakesApart Notes.pipeline.engines.containsExtension
        (Suffixes.parse "a.tpl.txt").segments r.loaderKey r.engineKeys left :=
  ⟨_, _, Notes.resolve_tpl, rfl, rfl,
    ((resolve_takes_apart Notes.pipeline "a.tpl.txt").2.2 _ _ _ Notes.resolve_tpl).2.2⟩

/-- **The file type of a path without engines.**  It is sought in front of the key that
    selected the loader, if a key did; where no extension ends there, it is the one of
    all segments of the path. -/
theorem filetype_without_engines (p : Pipeline σ) (path : String) {s s' : Session σ}
    {r : Resolution σ} (h : p.resolve path s = .ok r s') (hchain : r.chain = []) :
    ∃ front,
      (Suffixes.parse path).segments = front ++ r.loaderKey.elim [] (Text.split '.') ∧
      (EndsInKey p.filetypes.containsExtension front →
        p.filetypes.Selects front r.filetype r.filetypeKey) ∧
      (¬ EndsInKey p.filetypes.containsExtension front →
        p.filetypes.Selects (Suffixes.parse path).segments r.filetype r.filetypeKey) ∧
      (r.loaderKey = none ∨ ¬ EndsInKey p.filetypes.containsExtension front →
        (p.filetypes.resolve (Suffixes.parse path)).map
          (fun choice => (choice.1, choice.2.map (·.key))) =
            some (r.filetype, r.filetypeKey)) := by
  obtain ⟨plan, chain, hplan, -, hrenderers, rfl⟩ := resolve_eq_ok h
  dsimp only at hchain ⊢
  obtain ⟨front, hfront, hft⟩ := plan_takes_apart hplan
  have hengines : plan.engines = [] := by
    rw [← renderers_keys hrenderers, hchain, List.map_nil]
  have hend : ¬ EndsInKey p.engines.containsExtension (Suffixes.parse path).segments :=
    fun hend => (hfront.atEnd hend).1 hengines
  have hwhole :
      (Suffixes.parse path).segments = front ++ plan.loaderKey.elim [] (Text.split '.') := by
    cases hkey : plan.loaderKey with
    | none => simp [(hfront.without hend hkey).2]
    | some key => simpa [hengines, spelled] using hfront.inFront hend key hkey
  have hdot : Dotless front := by
    intro segment hsegment
    refine Suffixes.dotless_parse path segment ?_
    rw [hwhole]
    exact List.mem_append_left _ hsegment
  have hresolve : plan.loaderKey = none ∨ ¬ EndsInKey p.filetypes.containsExtension front →
      (p.filetypes.resolve (Suffixes.parse path)).map
        (fun choice => (choice.1, choice.2.map (·.key))) =
          some (plan.filetype, plan.filetypeKey) := by
    intro hcase
    rw [← filetypeOf_eq_resolve (hcase.imp_left fun hkey => by simp [hwhole, hkey])]
    exact hft
  refine ⟨front, hwhole, fun hin => filetypeOf_of_endsInKey hdot hin hft, ?_, hresolve⟩
  intro hout
  obtain ⟨⟨ft, found⟩, hfound, hchoice⟩ := Option.map_eq_some_iff.1 (hresolve (.inr hout))
  obtain ⟨rfl, hkey⟩ := Prod.mk.inj hchoice
  rw [← hkey]
  exact FileTypeIndex.selects_of_resolve (Suffixes.dotless_parse path) hfound

theorem filetype_without_engines_css :
    ∃ r s', Notes.pipeline.resolve "a.css.txt" Notes.session = .ok r s' ∧ r.chain = [] ∧
      r.filetypeKey = some "css" ∧
      ∃ front, (Suffixes.parse "a.css.txt").segments =
          front ++ r.loaderKey.elim [] (Text.split '.') ∧
        (EndsInKey Notes.pipeline.filetypes.containsExtension front →
          Notes.pipeline.filetypes.Selects front r.filetype r.filetypeKey) := by
  obtain ⟨front, hwhole, hin, -⟩ :=
    filetype_without_engines Notes.pipeline "a.css.txt" Notes.resolve_css rfl
  exact ⟨_, _, Notes.resolve_css, rfl, rfl, front, hwhole, hin⟩

/-- A key that selected the loader can hide the extension at the end of the path: `txt` is
    a known extension, and yet `a.css.txt` is a style sheet. -/
theorem loader_key_hides_extension :
    ¬ ∀ (b : PipelineBuilder Unit) (p : Pipeline Unit) (path : String) (s s' : Session Unit)
      (r : Resolution Unit), b.finalize = .ok p → p.resolve path s = .ok r s' → r.chain = [] →
        (p.filetypes.resolve (Suffixes.parse path)).map
          (fun choice => (choice.1, choice.2.map (·.key))) =
            some (r.filetype, r.filetypeKey) := by
  intro h
  obtain ⟨b, -, hb⟩ := Notes.finalize_settings
  have hparse : Suffixes.parse "a.css.txt" = ⟨"a", ["css", "txt"]⟩ := by cbv
  have hall : (Notes.pipeline.filetypes.resolve ⟨"a", ["css", "txt"]⟩).map
      (fun choice => (choice.1, choice.2.map (·.key))) =
        some (Notes.plainText, some "txt") := rfl
  have hsame := h b Notes.pipeline "a.css.txt" _ _ _ hb Notes.resolve_css rfl
  rw [hparse, hall] at hsame
  have hkey : some "txt" = some "css" := (Prod.mk.inj (Option.some.inj hsame)).2
  exact absurd hkey (by decide)

end Pipeline

end RenderChain
