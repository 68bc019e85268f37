/-
  RenderChain/Proofs/LoaderIndex.lean
  ===================================
  **Which extensions have loaders, and which.**

  An extension that the caller has touched has the chain that the caller left it
  with; if this is empty, the finished index does not know the extension.  An
  extension that was not touched but belongs to a file type or an engine has the
  files below the root folders, if there are any.  That is all the index knows
  (`find?_finalize`), and it does not depend on the order of anything.

    * `Configured.roots_eq`, `Configured.sorted_chains`: what holds of the loaders
      of every builder;
    * `find?_foldl_after`: a chain stays as it is until it is changed again;
    * `found_of_link`: a linked chain finds what the first member finds that knows
      the path.
-/
import RenderChain.Proofs.Configuration
import RenderChain.Proofs.Loading
import RenderChain.Proofs.Tables

namespace RenderChain

open PipelineBuilder (Step)

variable {σ : Type}

/-! ## Chains while configuring -/

namespace LoaderRegistry

/-- A call puts at most one chain, into the registry with these roots. -/
theorem onLoaders_cases (r : LoaderRegistry σ) (step : Step σ) :
    step.onLoaders r = r ∨ (∃ loader, step.onLoaders r = r.setDefault loader) ∨
      ∃ extension change, step = .editLoaders extension change ∧
        step.onLoaders r =
          { r with chains := Keyed.put extension (change (r.chainOf extension)) r.chains } := by
  cases step with
  | editLoaders extension change =>
    rw [Step.onLoaders, edit_eq]
    cases Extension.check extension with
    | error fault => exact .inl rfl
    | ok _ => exact .inr (.inr ⟨extension, change, rfl, rfl⟩)
  | setDefaultLoader loader => exact .inr (.inl ⟨loader, rfl⟩)
  | filetype | editFileType | registerEngine | setDefaultFileType => exact .inl rfl

end LoaderRegistry

theorem PipelineBuilder.loaders_after (b : PipelineBuilder σ) (step : Step σ) :
    (b.after step).loaders = step.onLoaders b.loaders := by
  rw [after_eq]

theorem Configured.roots_eq {b : PipelineBuilder σ} (h : Configured b) :
    b.loaders.roots = b.context.roots := by
  induction h with
  | new context => rfl
  | @step b h step ih =>
    have hcontext := b.context_foldl_after [step]
    rw [List.foldl_cons, List.foldl_nil] at hcontext
    rw [b.loaders_after, hcontext, ← ih]
    rcases b.loaders.onLoaders_cases step with hsame | ⟨loader, hset⟩ | ⟨extension, change, -, hput⟩
    · rw [hsame]
    · rw [hset]
      rfl
    · rw [hput]

theorem Configured.sorted_chains {b : PipelineBuilder σ} (h : Configured b) :
    b.loaders.chains.Sorted := by
  induction h with
  | new context => exact .nil
  | @step b h step ih =>
    rw [b.loaders_after]
    rcases b.loaders.onLoaders_cases step with hsame | ⟨loader, hset⟩ | ⟨extension, change, -, hput⟩
    · rwa [hsame]
    · rw [hset]
      exact ih
    · rw [hput]
      exact Keyed.sorted_put ih extension _

namespace PipelineBuilder

/-- An accepted change of a chain puts the changed chain. -/
theorem find?_of_run_editLoaders {b b' : PipelineBuilder σ} {extension : String}
    {change : List (Loader σ) → List (Loader σ)}
    (h : (Step.editLoaders extension change).run b = .ok () b') :
    Keyed.find? extension b'.loaders.chains = some (change (b.loaders.chainOf extension)) := by
  rw [Step.run, editLoaders_apply, LoaderRegistry.edit_eq] at h
  cases hcheck : Extension.check extension with
  | error fault =>
    rw [hcheck] at h
    cases h
  | ok _ =>
    rw [hcheck] at h
    obtain ⟨-, rfl⟩ := EStateM.Result.ok.inj h
    exact Keyed.find?_put_self _ _ _

/-- A call that does not change the chain of an extension leaves it as it is. -/
theorem find?_after {extension : String} {step : Step σ}
    (h : ∀ change, step ≠ .editLoaders extension change) (b : PipelineBuilder σ) :
    Keyed.find? extension (b.after step).loaders.chains =
      Keyed.find? extension b.loaders.chains := by
  rw [b.loaders_after]
  rcases b.loaders.onLoaders_cases step with hsame | ⟨loader, hset⟩ | ⟨other, change, rfl, hput⟩
  · rw [hsame]
  · rw [hset]
    rfl
  · rw [hput]
    refine Keyed.find?_put_of_ne ?_ _ _
    rintro rfl
    exact h change rfl

theorem find?_foldl_after {extension : String} {steps : List (Step σ)}
    (h : ∀ step ∈ steps, ∀ change, step ≠ .editLoaders extension change)
    (b : PipelineBuilder σ) :
    Keyed.find? extension (steps.foldl after b).loaders.chains =
      Keyed.find? extension b.loaders.chains := by
  induction steps generalizing b with
  | nil => rfl
  | cons step rest ih =>
    rw [List.foldl_cons, ih fun later hlater => h later (List.mem_cons_of_mem _ hlater),
      find?_after (h step List.mem_cons_self)]

end PipelineBuilder

/-! ## The index -/

namespace Keyed

variable {α : Type}

/-- Filling in what is missing leaves what is there. -/
theorem find?_fill (fresh : String → α) (t : Keyed α) (names : List String) (key : String) :
    find? key (names.foldl
        (fun t name => if (find? name t).isSome then t else put name (fresh name) t) t) =
      (find? key t).or (if key ∈ names then some (fresh key) else none) := by
  induction names generalizing t with
  | nil => simp
  | cons name rest ih =>
    rw [List.foldl_cons, ih]
    cases hname : find? name t with
    | some value =>
      by_cases hkey : key = name
      · subst hkey
        simp [hname]
      · simp [hkey]
    | none =>
      rw [if_neg (by simp), find?_put]
      by_cases hkey : key = name
      · subst hkey
        simp [hname]
      · simp [hkey]

theorem sorted_fill (fresh : String → α) {t : Keyed α} (h : t.Sorted) (names : List String) :
    Sorted (names.foldl
      (fun t name => if (find? name t).isSome then t else put name (fresh name) t) t) := by
  induction names generalizing t with
  | nil => exact h
  | cons name rest ih =>
    rw [List.foldl_cons]
    split
    · exact ih h
    · exact ih (sorted_put h name _)

end Keyed

namespace LoaderRegistry

variable {r : LoaderRegistry σ}

theorem sorted_withSeeds (h : r.chains.Sorted) (extensions : List String) :
    (r.withSeeds extensions).Sorted := by
  unfold withSeeds
  split
  · exact h
  · exact Keyed.sorted_fill (seed r.roots) h extensions

theorem sorted_finalize (h : r.chains.Sorted) (extensions : List String) :
    (r.finalize extensions).byExtension.Sorted :=
  (sorted_withSeeds h extensions).filterMap link

/-- What a finished registry knows under an extension. -/
theorem find?_finalize (h : r.chains.Sorted) (extensions : List String) (extension : String) :
    Keyed.find? extension (r.finalize extensions).byExtension =
      match Keyed.find? extension r.chains with
      | some members => link members
      | none =>
        if r.roots ≠ [] ∧ extension ∈ extensions then some (.folders r.roots (some extension))
        else none := by
  have hseeds : Keyed.find? extension (r.withSeeds extensions) =
      (Keyed.find? extension r.chains).or
        (if r.roots ≠ [] ∧ extension ∈ extensions then some (seed r.roots extension)
          else none) := by
    unfold withSeeds
    by_cases hroots : r.roots = []
    · rw [hroots]
      simp
    · rw [if_neg (by simpa using hroots), Keyed.find?_fill]
      simp [hroots]
  show Keyed.find? extension ((r.withSeeds extensions).filterMap _) = _
  rw [(sorted_withSeeds h extensions).find?_filterMap, hseeds]
  cases Keyed.find? extension r.chains with
  | some members => rfl
  | none =>
    dsimp only
    split
    next hseeded =>
      unfold seed
      rw [if_neg (by simpa using hseeded.1)]
      rfl
    next => rfl

/-- So registries with the same chains are finished to the same index. -/
theorem finalize_congr {r' : LoaderRegistry σ} (h : r.chains.Sorted) (h' : r'.chains.Sorted)
    (hroots : r.roots = r'.roots) (hdefault : r.default = r'.default)
    (hchains : ∀ extension,
      Keyed.find? extension r.chains = Keyed.find? extension r'.chains)
    {extensions extensions' : List String}
    (hextensions : ∀ extension, extension ∈ extensions ↔ extension ∈ extensions') :
    r.finalize extensions = r'.finalize extensions' := by
  have hindex : (r.finalize extensions).byExtension = (r'.finalize extensions').byExtension := by
    refine (sorted_finalize h _).eq_of_find? (sorted_finalize h' _) ?_
    intro extension
    rw [find?_finalize h, find?_finalize h', hchains, hroots]
    simp only [hextensions]
  have hfallback : (r.finalize extensions).default = (r'.finalize extensions').default := by
    unfold finalize
    rw [hdefault, hroots]
  show LoaderIndex.mk (r.finalize extensions).byExtension (r.finalize extensions).default = _
  rw [hindex, hfallback]

end LoaderRegistry

/-! ## Linked chains -/

namespace Loader

theorem customs_of_link {members : List (Loader σ)} {l : Loader σ}
    (h : LoaderRegistry.link members = some l) : l.customs = customsOfAll members := by
  unfold LoaderRegistry.link at h
  split at h
  · cases h
  · obtain rfl := Option.some.inj h
    rw [customsOfAll, customsOfAll, List.append_nil]
  · obtain rfl := Option.some.inj h
    rw [customs]

theorem found_of_link {members : List (Loader σ)} {l : Loader σ}
    (h : LoaderRegistry.link members = some l) (fs : Files) (path : String) :
    l.found fs path = foundFirst fs path members := by
  unfold LoaderRegistry.link at h
  split at h
  · cases h
  · obtain rfl := Option.some.inj h
    rw [foundFirst, foundFirst, Option.or_none]
  · obtain rfl := Option.some.inj h
    rw [found]

/-- Tables look for a path one after the other, and at no files. -/
theorem foundFirst_inline (fs : Files) (path : String) (tables : List (Keyed String)) :
    foundFirst fs path (tables.map .inline : List (Loader σ)) =
      (tables.findSome? (Keyed.find? path)).map .inline := by
  induction tables with
  | nil => rfl
  | cons table rest ih =>
    rw [List.map_cons, foundFirst, ih, found, List.findSome?_cons]
    cases Keyed.find? path table <;> rfl

theorem customsOfAll_inline (tables : List (Keyed String)) :
    customsOfAll (tables.map .inline : List (Loader σ)) = [] := by
  induction tables with
  | nil => rfl
  | cons table rest ih =>
    rw [List.map_cons, customsOfAll, ih, customs]
    rfl

end Loader

end RenderChain
