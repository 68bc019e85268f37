/-
  RenderChain/Proofs/FileTypeIndex.lean
  =====================================
  **When file types can be finished, and what they are found by.**

  A finished index finds under each extension the file type that owns it, and
  each file type under its mime type.  A registry has none if an extension has
  two owners, or else if the default file type is not registered
  (`finalize_eq_error_iff`).

  Nothing of this says in which order the file types are entered: file types in
  another order are finished to the same index, or not at all (`finalize_of_perm`).
-/
import Mathlib.Data.List.Pairwise
import RenderChain.Proofs.Configuration

namespace RenderChain

variable {σ : Type}

namespace FileTypeIndex

/-- An extension is what its own segments are looked up by. -/
theorem lookup_split_iff {index : FileTypeIndex σ} {extension : String} {ft : FileType σ} :
    index.lookup (Text.split '.' extension) =
        some (ft, ⟨extension, (Text.split '.' extension).length⟩) ↔
      Keyed.find? extension index.byExtension = some ft := by
  have hwhole : dotted (Text.split '.' extension) = extension := Text.join_split '.' extension
  constructor
  · intro h
    obtain ⟨found, -, hrest⟩ := Option.bind_eq_some_iff.1 h
    obtain ⟨owner, howner, hequal⟩ := Option.bind_eq_some_iff.1 hrest
    obtain ⟨rfl, rfl⟩ := Prod.mk.inj (Option.some.inj hequal)
    exact howner
  · intro h
    have hknown : index.containsExtension extension = true := Option.isSome_iff_exists.2 ⟨ft, h⟩
    have hkey : longestKey index.containsExtension (Text.split '.' extension) =
        some ⟨extension, (Text.split '.' extension).length⟩ := by
      cases hsegments : Text.split '.' extension with
      | nil => exact absurd hsegments (Text.split_ne_nil '.' extension)
      | cons segment rest =>
        rw [hsegments] at hwhole
        rw [longestKey, hwhole, if_pos hknown]
        rfl
    unfold lookup
    rw [hkey]
    show (Keyed.find? extension index.byExtension).bind _ = _
    rw [h]
    rfl

end FileTypeIndex

namespace FileTypeRegistry

variable {r r' : FileTypeRegistry σ} {default : Option String} {index : FileTypeIndex σ}
  {fault : RegistrationError}

/-! ## Owners -/

/-- No extension is owned by two file types. -/
def Unshared (r : FileTypeRegistry σ) : Prop :=
  ∀ ft ∈ r.types, ∀ ft' ∈ r.types, ∀ extension,
    extension ∈ ft.extensions → extension ∈ ft'.extensions → ft = ft'

theorem nodup_extensions_iff (hmimetypes : r.mimetypes.Nodup)
    (hextensions : ∀ ft ∈ r.types, ft.extensions.Nodup) :
    (r.types.flatMap (·.extensions)).Nodup ↔ r.Unshared := by
  rw [List.nodup_flatMap]
  constructor
  · rintro ⟨-, hdisjoint⟩ ft hft ft' hft' extension hown hown'
    by_contra hne
    have hsymm : Std.Symm (Function.onFun List.Disjoint fun ft : FileType σ => ft.extensions) :=
      ⟨fun _ _ h => List.disjoint_comm.1 h⟩
    exact hdisjoint.forall hft hft' hne hown hown'
  · intro hunshared
    refine ⟨hextensions, (List.Nodup.of_map _ hmimetypes).imp_of_mem ?_⟩
    intro ft ft' hft hft' hne extension hown hown'
    exact hne (hunshared ft hft ft' hft' extension hown hown')

section Finalized

variable (h : r.Finalized default index)
include h

theorem Finalized.find?_extension_iff {extension : String} {ft : FileType σ} :
    Keyed.find? extension index.byExtension = some ft ↔
      ft ∈ r.types ∧ extension ∈ ft.extensions := by
  rw [FileTypeIndex.find?_claimAll_iff h.byExtension]
  exact or_iff_right fun hnone => by cases hnone

/-- An extension is found if it has an owner, and then it has only one. -/
theorem Finalized.containsExtension_iff (hunshared : r.Unshared) {extension : String} :
    index.containsExtension extension = true ↔
      ∃! ft, ft ∈ r.types ∧ extension ∈ ft.extensions := by
  unfold FileTypeIndex.containsExtension
  rw [Option.isSome_iff_exists]
  constructor
  · rintro ⟨ft, hfind⟩
    obtain ⟨hft, hown⟩ := h.find?_extension_iff.1 hfind
    exact ⟨ft, ⟨hft, hown⟩, fun other hother =>
      hunshared other hother.1 ft hft extension hother.2 hown⟩
  · rintro ⟨ft, hft, -⟩
    exact ⟨ft, h.find?_extension_iff.2 hft⟩

theorem Finalized.find?_mimetype_iff (hnodup : r.mimetypes.Nodup) {mimetype : String}
    {ft : FileType σ} : index.find? mimetype = some ft ↔ ft ∈ r.types ∧ ft.mimetype = mimetype := by
  refine ⟨h.mem_of_find?, ?_⟩
  rintro ⟨hft, rfl⟩
  exact h.find?_mimetype hnodup hft

end Finalized

/-! ## Success and failure -/

/-- A registry is finished to an index that it consists of, with a default if one is set. -/
theorem finalize_eq_ok_iff :
    r.finalize default = .ok index ↔
      r.Finalized default index ∧ index.default.isSome = default.isSome := by
  constructor
  · intro h
    refine ⟨finalized h, ?_⟩
    obtain ⟨byExtension, -, h⟩ := except_bind_eq_ok_iff.1 h
    cases default with
    | none =>
      cases h
      rfl
    | some mimetype =>
      dsimp only at h
      split at h
      next => cases h
      next =>
        cases h
        rfl
  · rintro ⟨hfinal, hdefault⟩
    obtain ⟨byMimetype, byExtension, fallback⟩ := index
    obtain ⟨hclaim, rfl, hfallback⟩ := hfinal
    refine except_bind_eq_ok_iff.2 ⟨byExtension, hclaim, ?_⟩
    cases default with
    | none =>
      have hnone : fallback = none := hfallback
      rw [hnone]
      rfl
    | some mimetype =>
      obtain ⟨ft, hft⟩ := Option.isSome_iff_exists.1 hdefault
      have hsome : fallback = some ft := hft
      have hfind : Keyed.find? mimetype
          (Keyed.ofList (r.types.map fun ft => (ft.mimetype, ft))) = some ft :=
        hfallback.symm.trans hsome
      dsimp only
      rw [hfind, hsome]
      rfl

theorem find?_byMimetype_eq_none_iff (r : FileTypeRegistry σ) (mimetype : String) :
    Keyed.find? mimetype (Keyed.ofList (r.types.map fun ft => (ft.mimetype, ft))) = none ↔
      mimetype ∉ r.mimetypes := by
  rw [Keyed.find?_ofList, List.lookup_eq_none_iff]
  simp only [mimetypes, List.mem_reverse, List.mem_map, not_exists, not_and, bne_iff_ne,
    forall_exists_index, and_imp, forall_apply_eq_imp_iff₂, ne_comm (a := mimetype)]

theorem finalize_of_claimed {byExtension : Keyed (FileType σ)}
    (h : FileTypeIndex.claimAll [] r.types = .ok byExtension) :
    r.finalize default =
      let byMimetype := Keyed.ofList (r.types.map fun ft => (ft.mimetype, ft))
      match default with
      | none => .ok ⟨byMimetype, byExtension, none⟩
      | some mimetype =>
        match Keyed.find? mimetype byMimetype with
        | none => .error (.unknownDefaultFileType mimetype)
        | some ft => .ok ⟨byMimetype, byExtension, some ft⟩ := by
  unfold finalize
  rw [h]
  rfl

/-- A registry is finished or reports, first a clash and then the default file type. -/
theorem finalize_eq_error_iff :
    r.finalize default = .error fault ↔
      FileTypeIndex.claimAll [] r.types = .error fault ∨
        (∃ byExtension, FileTypeIndex.claimAll [] r.types = .ok byExtension) ∧
          ∃ mimetype, default = some mimetype ∧ mimetype ∉ r.mimetypes ∧
            fault = .unknownDefaultFileType mimetype := by
  cases hclaim : FileTypeIndex.claimAll [] r.types with
  | error clash =>
    have hfinal : r.finalize default = .error clash := by
      unfold finalize
      rw [hclaim]
      rfl
    rw [hfinal]
    simp
  | ok byExtension =>
    rw [finalize_of_claimed hclaim]
    cases default with
    | none => simp
    | some mimetype =>
      dsimp only
      have hnone := r.find?_byMimetype_eq_none_iff mimetype
      cases hfind : Keyed.find? mimetype
          (Keyed.ofList (r.types.map fun ft => (ft.mimetype, ft))) with
      | none => simp [hnone.1 hfind, eq_comm]
      | some ft => simp [mt hnone.2 (by simp [hfind])]

/-! ## Other orders -/

/-- The table of mime types is that of the file types, in whichever order. -/
theorem byMimetype_of_perm (h : r.types.Perm r'.types) (hnodup : r.mimetypes.Nodup) :
    Keyed.ofList (r.types.map fun ft => (ft.mimetype, ft)) =
      Keyed.ofList (r'.types.map fun ft => (ft.mimetype, ft)) := by
  have hpairs := h.map fun ft => (ft.mimetype, ft)
  have hkeys : ((r.types.map fun ft => (ft.mimetype, ft)).map Prod.fst).Nodup := by
    rwa [List.map_map]
  have hkeys' := (hpairs.map Prod.fst).nodup_iff.1 hkeys
  refine (Keyed.sorted_ofList _).eq_of_find? (Keyed.sorted_ofList _) ?_
  intro key
  refine Option.ext fun ft => ?_
  rw [Keyed.find?_ofList_eq_some_iff hkeys, Keyed.find?_ofList_eq_some_iff hkeys',
    hpairs.mem_iff]

/-- File types in another order are finished to the same index. -/
theorem finalize_of_perm (h : r.types.Perm r'.types) (hnodup : r.mimetypes.Nodup)
    (hr : r.finalize default = .ok index) : r'.finalize default = .ok index := by
  obtain ⟨hfinal, hdefault⟩ := finalize_eq_ok_iff.1 hr
  refine finalize_eq_ok_iff.2 ⟨⟨?_, ?_, hfinal.default_eq⟩, hdefault⟩
  · have hextensions := h.flatMap_right (·.extensions)
    obtain ⟨hdistinct, -⟩ := FileTypeIndex.claimAll_ok_iff.1 ⟨_, hfinal.byExtension⟩
    obtain ⟨entered, hentered⟩ : ∃ entered, FileTypeIndex.claimAll [] r'.types = .ok entered :=
      FileTypeIndex.claimAll_ok_iff.2 ⟨hextensions.nodup_iff.1 hdistinct, fun _ _ => rfl⟩
    rw [hentered]
    refine congrArg Except.ok ((FileTypeIndex.sorted_claimAll .nil hentered).eq_of_find?
      (FileTypeIndex.sorted_claimAll .nil hfinal.byExtension) ?_)
    intro extension
    refine Option.ext fun ft => ?_
    rw [FileTypeIndex.find?_claimAll_iff hentered,
      FileTypeIndex.find?_claimAll_iff hfinal.byExtension, h.mem_iff]
  · rw [hfinal.byMimetype, byMimetype_of_perm h hnodup]

end FileTypeRegistry

end RenderChain
