/-
  RenderChain/Proofs/Finishing.lean
  =================================
  **Which builders can be finished, and what is wrong with the others.**

  `finalize` looks for engines without a file type, then for an extension with
  two owners, and in the end for a default file type that is not registered.
  What it reports of a builder is what it meets first.

  That an extension which is entered twice has two owners takes an invariant: no
  file type has an extension twice, since adding one again changes nothing, and
  no two file types have one mime type.

    * `Configured.forall_types`: what the edits of a file type keep holds of all
      file types that are registered;
    * `finalize_eq_error_iff`, `finalize_ok_iff`: what is reported, and when
      nothing is;
    * `finalize_exact`: all of this, with what a finished index finds.
-/
import RenderChain.Proofs.FileTypeIndex
import RenderChain.Proofs.History
import RenderChain.Proofs.Independence

namespace RenderChain

open PipelineBuilder (Step)

variable {σ : Type}

/-! ## Extensions of one file type -/

theorem FileType.nodup_extensions_edit {ft ft' : FileType σ} {e : FileType.Edit σ}
    (hnodup : ft.extensions.Nodup) (h : ft.edit e = .ok ft') : ft'.extensions.Nodup := by
  rcases extensions_edit h with hsame | ⟨extension, -, hnew, hadded⟩
  · rw [hsame]
    exact hnodup
  · rw [hadded, ← List.concat_eq_append]
    exact hnodup.concat hnew

/-- What holds of a file type without anything and is kept by the edits that are accepted
    holds of all file types that are registered. -/
theorem Configured.forall_types {P : FileType σ → Prop} (hempty : ∀ mimetype, P (.empty mimetype))
    (hedit : ∀ {ft ft' : FileType σ} {e : FileType.Edit σ}, P ft → ft.edit e = .ok ft' → P ft')
    {b : PipelineBuilder σ} (hb : Configured b) : ∀ ft ∈ b.filetypes.types, P ft := by
  induction hb with
  | new context => exact fun ft hft => absurd hft List.not_mem_nil
  | @step b _ step ih =>
    -- a call puts back at most one file type, which was held before but for an edit
    have hheld : ∀ mimetype, P (b.filetypes.getOrEmpty mimetype) := by
      intro mimetype
      unfold FileTypeRegistry.getOrEmpty
      cases hfind : b.filetypes.find? mimetype with
      | none => exact hempty mimetype
      | some ft => exact ih ft (List.mem_of_find?_eq_some hfind)
    have hput : ∀ ft, P ft → ∀ other ∈ (b.filetypes.put ft).types, P other := by
      intro ft hft other hother
      rcases FileTypeRegistry.mem_of_mem_put hother with rfl | hold
      · exact hft
      · exact ih other hold
    rw [PipelineBuilder.after_eq]
    cases step with
    | filetype mimetype => exact hput _ (hheld mimetype)
    | editFileType mimetype e =>
      dsimp only [Step.onFiletypes]
      rw [FileTypeRegistry.edit_eq]
      cases hnew : (b.filetypes.getOrEmpty mimetype).edit e with
      | ok ft => exact hput ft (hedit (hheld mimetype) hnew)
      | error fault => exact ih
    | editLoaders | setDefaultLoader | registerEngine | setDefaultFileType => exact ih

theorem Configured.nodup_extensions {b : PipelineBuilder σ} (hb : Configured b) :
    ∀ ft ∈ b.filetypes.types, ft.extensions.Nodup :=
  hb.forall_types (fun _ => .nil) FileType.nodup_extensions_edit

/-! ## Finished builders -/

theorem Configured.claimed_iff {b : PipelineBuilder σ} (hb : Configured b) :
    (∃ byExtension, FileTypeIndex.claimAll [] b.filetypes.types = .ok byExtension) ↔
      b.filetypes.Unshared := by
  rw [FileTypeIndex.claimAll_ok_iff,
    FileTypeRegistry.nodup_extensions_iff hb.nodup_mimetypes hb.nodup_extensions]
  exact and_iff_left fun _ _ => rfl

namespace PipelineBuilder

/-- There is a file type, unless there is no engine either. -/
def Populated (b : PipelineBuilder σ) : Prop :=
  b.filetypes.types ≠ [] ∨ b.engines.extensions = []

/-- What a builder must be like to be finished. -/
structure Finishable (b : PipelineBuilder σ) : Prop where
  populated : b.Populated
  unshared : b.filetypes.Unshared
  /-- The default file type, if one is set, is registered. -/
  registered : ∀ mimetype, b.defaultFileType = some mimetype → mimetype ∈ b.filetypes.mimetypes

/-- What is wrong with a builder, while all that is checked before is right. -/
inductive FirstFault (b : PipelineBuilder σ) : RegistrationError → Prop
  | unpopulated {extension : String} {rest : List String} (htypes : b.filetypes.types = [])
      (hengines : b.engines.extensions = extension :: rest) :
      FirstFault b (.engineWithoutFileTypes extension)
  | shared {extension : String} {first second : FileType σ} (hpopulated : b.Populated)
      (hclash : FileTypeIndex.FirstClash b.filetypes.types extension first second) :
      FirstFault b (.conflictingExtension extension first.mimetype second.mimetype)
  | unregistered {mimetype : String} (hpopulated : b.Populated)
      (hunshared : b.filetypes.Unshared) (hdefault : b.defaultFileType = some mimetype)
      (hnone : mimetype ∉ b.filetypes.mimetypes) :
      FirstFault b (.unknownDefaultFileType mimetype)

variable {b : PipelineBuilder σ} {fault : RegistrationError}

theorem not_populated_iff :
    ¬ b.Populated ↔
      ∃ extension rest, b.filetypes.types = [] ∧ b.engines.extensions = extension :: rest := by
  unfold Populated
  rw [not_or, not_not]
  constructor
  · rintro ⟨htypes, hengines⟩
    obtain ⟨extension, rest, hcons⟩ := List.exists_cons_of_ne_nil hengines
    exact ⟨extension, rest, htypes, hcons⟩
  · rintro ⟨extension, rest, htypes, hengines⟩
    exact ⟨htypes, hengines ▸ List.cons_ne_nil extension rest⟩

theorem finalize_eq_error_of_populated (h : b.Populated) :
    b.finalize = .error fault ↔ b.filetypes.finalize b.defaultFileType = .error fault := by
  rw [finalize_eq]
  split
  next extension rest htypes hengines =>
    exact absurd h (not_populated_iff.2 ⟨extension, rest, htypes, hengines⟩)
  next => cases b.filetypes.finalize b.defaultFileType <;> simp [Except.map]

theorem finalize_eq_error_iff (hb : Configured b) :
    b.finalize = .error fault ↔ b.FirstFault fault := by
  by_cases hpopulated : b.Populated
  · rw [finalize_eq_error_of_populated hpopulated, FileTypeRegistry.finalize_eq_error_iff,
      FileTypeIndex.claimAll_eq_error_iff, hb.claimed_iff]
    constructor
    · rintro (⟨extension, first, second, hclash, rfl⟩ | ⟨hunshared, mimetype, hdefault, hnone, rfl⟩)
      · exact .shared hpopulated hclash
      · exact .unregistered hpopulated hunshared hdefault hnone
    · intro h
      cases h with
      | unpopulated htypes hengines =>
        exact absurd hpopulated (not_populated_iff.2 ⟨_, _, htypes, hengines⟩)
      | shared _ hclash => exact .inl ⟨_, _, _, hclash, rfl⟩
      | unregistered _ hunshared hdefault hnone =>
        exact .inr ⟨hunshared, _, hdefault, hnone, rfl⟩
  · obtain ⟨extension, rest, htypes, hengines⟩ := not_populated_iff.1 hpopulated
    have hfinal : b.finalize = .error (.engineWithoutFileTypes extension) := by
      rw [finalize_eq, htypes, hengines]
    rw [hfinal]
    constructor
    · intro h
      cases h
      exact .unpopulated htypes hengines
    · intro h
      cases h with
      | unpopulated _ hengines' =>
        obtain ⟨rfl, -⟩ := List.cons.inj (hengines.symm.trans hengines')
        rfl
      | shared h _ => exact absurd h hpopulated
      | unregistered h _ _ _ => exact absurd h hpopulated

theorem exists_firstFault_iff (hb : Configured b) :
    (∃ fault, b.FirstFault fault) ↔ ¬ b.Finishable := by
  constructor
  · rintro ⟨fault, h⟩ hfinishable
    cases h with
    | unpopulated htypes hengines =>
      exact not_populated_iff.2 ⟨_, _, htypes, hengines⟩ hfinishable.populated
    | shared _ hclash =>
      obtain ⟨byExtension, hclaim⟩ := hb.claimed_iff.2 hfinishable.unshared
      rw [FileTypeIndex.claimAll_eq_error_iff.2 ⟨_, _, _, hclash, rfl⟩] at hclaim
      cases hclaim
    | unregistered _ _ hdefault hnone => exact hnone (hfinishable.registered _ hdefault)
  · intro h
    -- the first of the conditions that does not hold, in the order in which they are checked
    by_cases hpopulated : b.Populated
    · by_cases hunshared : b.filetypes.Unshared
      · have hdefault : ¬ ∀ mimetype, b.defaultFileType = some mimetype →
            mimetype ∈ b.filetypes.mimetypes := fun hall => h ⟨hpopulated, hunshared, hall⟩
        push Not at hdefault
        obtain ⟨mimetype, hdefault, hnone⟩ := hdefault
        exact ⟨_, .unregistered hpopulated hunshared hdefault hnone⟩
      · cases hclaim : FileTypeIndex.claimAll [] b.filetypes.types with
        | ok byExtension => exact absurd (hb.claimed_iff.1 ⟨_, hclaim⟩) hunshared
        | error fault =>
          obtain ⟨extension, first, second, hclash, -⟩ :=
            FileTypeIndex.claimAll_eq_error_iff.1 hclaim
          exact ⟨_, .shared hpopulated hclash⟩
    · obtain ⟨extension, rest, htypes, hengines⟩ := not_populated_iff.1 hpopulated
      exact ⟨_, .unpopulated htypes hengines⟩

theorem finalize_ok_iff (hb : Configured b) : (∃ p, b.finalize = .ok p) ↔ b.Finishable := by
  have hfault := exists_firstFault_iff hb
  cases h : b.finalize with
  | ok p =>
    refine iff_of_true ⟨p, rfl⟩ (not_not.1 (mt hfault.2 ?_))
    rintro ⟨fault, hfirst⟩
    rw [(finalize_eq_error_iff hb).2 hfirst] at h
    cases h
  | error fault =>
    refine iff_of_false ?_ (hfault.1 ⟨fault, (finalize_eq_error_iff hb).1 h⟩)
    rintro ⟨p, hp⟩
    cases hp

/-- Finishing a builder that calls can make: it succeeds for those that are `Finishable` and
    reports of the others what is wrong first; a clash that is reported is one of two
    different mime types.  A finished index finds under each extension its one owner, just as
    it was registered, and each file type under its own mime type. -/
theorem finalize_exact (hb : Configured b) :
    ((∃ p, b.finalize = .ok p) ↔ b.Finishable) ∧
      (∀ fault, b.finalize = .error fault ↔ b.FirstFault fault) ∧
      (∀ extension first second,
        b.finalize = .error (.conflictingExtension extension first second) →
          first ≠ second ∧ ∃ ft ft',
            FileTypeIndex.FirstClash b.filetypes.types extension ft ft' ∧
            (ft ∈ b.filetypes.types ∧ extension ∈ ft.extensions ∧ ft.mimetype = first) ∧
            (ft' ∈ b.filetypes.types ∧ extension ∈ ft'.extensions ∧ ft'.mimetype = second)) ∧
      ∀ p, b.finalize = .ok p →
        (∀ extension, p.filetypes.containsExtension extension = true ↔
          ∃! ft, ft ∈ b.filetypes.types ∧ extension ∈ ft.extensions) ∧
        (∀ extension ft, Keyed.find? extension p.filetypes.byExtension = some ft ↔
          ft ∈ b.filetypes.types ∧ extension ∈ ft.extensions) ∧
        (∀ extension ft,
          p.filetypes.lookup (Text.split '.' extension) =
              some (ft, ⟨extension, (Text.split '.' extension).length⟩) ↔
            ft ∈ b.filetypes.types ∧ extension ∈ ft.extensions) ∧
        ∀ mimetype ft, p.filetypes.find? mimetype = some ft ↔
          ft ∈ b.filetypes.types ∧ ft.mimetype = mimetype := by
  refine ⟨finalize_ok_iff hb, fun fault => finalize_eq_error_iff hb, ?_, ?_⟩
  · intro extension first second h
    cases (finalize_eq_error_iff hb).1 h with
    | @shared _ ft ft' _ hclash =>
      obtain ⟨⟨hft, hown⟩, hft', hown'⟩ := hclash.owned
      have hne : ft ≠ ft' :=
        hclash.ne (List.Nodup.of_map _ hb.nodup_mimetypes) hb.nodup_extensions
      have hmimetypes : ft.mimetype ≠ ft'.mimetype :=
        mt (List.inj_on_of_nodup_map hb.nodup_mimetypes hft hft') hne
      exact ⟨hmimetypes, ft, ft', hclash, ⟨hft, hown, rfl⟩, hft', hown', rfl⟩
  · intro p hp
    have hfinal := (finalized hp).filetypes
    have hunshared := ((finalize_ok_iff hb).1 ⟨p, hp⟩).unshared
    refine ⟨fun extension => hfinal.containsExtension_iff hunshared,
      fun extension ft => hfinal.find?_extension_iff, ?_,
      fun mimetype ft => hfinal.find?_mimetype_iff hb.nodup_mimetypes⟩
    intro extension ft
    rw [FileTypeIndex.lookup_split_iff, hfinal.find?_extension_iff]

end PipelineBuilder

namespace Pipeline

namespace Notes

/-- Plain texts get the extension of style sheets, and the default is no file type at all. -/
def clashing : List (Step Unit) :=
  steps ++ [.editFileType "text/plain" (.addExtension "css"), .setDefaultFileType "text/html"]

end Notes

/-- The notes are finished and find style sheets; in the other builder two things are wrong, of
    which the clash is reported. -/
theorem finalize_exact_notes :
    Notes.pipeline.filetypes.lookup ["css"] = some (Notes.styleSheet, ⟨"css", 1⟩) ∧
      (Notes.steps.foldl PipelineBuilder.after (.new ⟨[], none⟩)).Finishable ∧
      ¬ (Notes.clashing.foldl PipelineBuilder.after (.new ⟨[], none⟩)).Finishable ∧
      (Notes.clashing.foldl PipelineBuilder.after (.new ⟨[], none⟩)).FirstFault
        (.conflictingExtension "css" "text/css" "text/plain") := by
  obtain ⟨hok, -, -, hindex⟩ :=
    PipelineBuilder.finalize_exact ((Configured.new ⟨[], none⟩).foldl Notes.steps)
  obtain ⟨-, -, hlookup, -⟩ := hindex _ Notes.finalize_steps
  obtain ⟨hok', hfault, -⟩ :=
    PipelineBuilder.finalize_exact ((Configured.new ⟨[], none⟩).foldl Notes.clashing)
  have hclash : (Notes.clashing.foldl PipelineBuilder.after (.new ⟨[], none⟩)).finalize =
      .error (.conflictingExtension "css" "text/css" "text/plain") := rfl
  refine ⟨?_, hok.1 ⟨_, Notes.finalize_steps⟩, ?_, (hfault _).1 hclash⟩
  · exact (hlookup "css" Notes.styleSheet).2 ⟨.head _, .head _⟩
  · intro hfinishable
    obtain ⟨p, hp⟩ := hok'.2 hfinishable
    rw [hclash] at hp
    cases hp

end Pipeline

end RenderChain
