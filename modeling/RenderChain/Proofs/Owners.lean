/-
  RenderChain/Proofs/Owners.lean
  ==============================
  **Entering file types under their extensions.**

  File types are entered one after the other, each under its extensions, up to
  the first extension that is entered already.  The loop over the file types and
  that over their extensions are one loop over both (`claimAll_eq_enter`), and
  what is said here of the two is said of this one first.

    * `claimAll_ok_iff`: all are entered if no extension has two owners;
    * `find?_claimAll_iff`: each extension then finds its owner;
    * `claimAll_eq_error_iff`: otherwise the clash that is reported is the first
      one, and it is one of two different file types if none of them repeats an
      extension (`FirstClash.ne`).
-/
import Mathlib.Data.List.Nodup
import RenderChain.FileType.Registry
import RenderChain.Proofs.Tables

namespace RenderChain

variable {σ : Type}

namespace FileTypeIndex

variable {owners entered : Keyed (FileType σ)} {types : List (FileType σ)}

/-! ## One loop -/

/-- The extensions with the file types that own them, in the order in which they are entered. -/
def owned (types : List (FileType σ)) : List (String × FileType σ) :=
  types.flatMap fun ft => ft.extensions.map fun extension => (extension, ft)

theorem mem_owned_iff {extension : String} {ft : FileType σ} :
    (extension, ft) ∈ owned types ↔ ft ∈ types ∧ extension ∈ ft.extensions := by
  simp [owned]

theorem map_fst_owned (types : List (FileType σ)) :
    (owned types).map Prod.fst = types.flatMap (·.extensions) := by
  simp [owned, List.map_flatMap, Function.comp_def]

/-- Enters file types one after the other, each under one extension. -/
def enter (owners : Keyed (FileType σ)) :
    List (String × FileType σ) → Except RegistrationError (Keyed (FileType σ))
  | [] => .ok owners
  | (extension, ft) :: rest =>
    match Keyed.find? extension owners with
    | some owner => .error (.conflictingExtension extension owner.mimetype ft.mimetype)
    | none => enter (Keyed.put extension ft owners) rest

section Enter

variable {entries : List (String × FileType σ)}

theorem enter_of_owned {extension : String} {owner ft : FileType σ}
    (h : Keyed.find? extension owners = some owner) :
    enter owners ((extension, ft) :: entries) =
      .error (.conflictingExtension extension owner.mimetype ft.mimetype) := by
  rw [enter, h]

theorem enter_of_free {extension : String} {ft : FileType σ}
    (h : Keyed.find? extension owners = none) :
    enter owners ((extension, ft) :: entries) =
      enter (Keyed.put extension ft owners) entries := by
  rw [enter, h]

theorem enter_append (owners : Keyed (FileType σ)) (entries later : List (String × FileType σ)) :
    enter owners (entries ++ later) =
      enter owners entries >>= fun entered => enter entered later := by
  induction entries generalizing owners with
  | nil => rfl
  | cons entry rest ih =>
    obtain ⟨extension, ft⟩ := entry
    rw [List.cons_append]
    cases hfind : Keyed.find? extension owners with
    | some owner =>
      rw [enter_of_owned hfind, enter_of_owned hfind]
      rfl
    | none => rw [enter_of_free hfind, enter_of_free hfind, ih]

theorem claim_eq_enter (ft : FileType σ) (owners : Keyed (FileType σ))
    (extensions : List String) :
    claim ft owners extensions =
      enter owners (extensions.map fun extension => (extension, ft)) := by
  induction extensions generalizing owners with
  | nil => rfl
  | cons extension rest ih =>
    rw [claim, List.map_cons]
    cases hfind : Keyed.find? extension owners with
    | some owner => rw [enter_of_owned hfind]
    | none => rw [enter_of_free hfind, ← ih]

/-- The loop over file types and the one over their extensions are one. -/
theorem claimAll_eq_enter (owners : Keyed (FileType σ)) (types : List (FileType σ)) :
    claimAll owners types = enter owners (owned types) := by
  induction types generalizing owners with
  | nil => rfl
  | cons ft rest ih =>
    rw [claimAll, owned, List.flatMap_cons, enter_append, claim_eq_enter]
    exact congrArg _ (funext ih)

theorem sorted_enter (howners : owners.Sorted) (h : enter owners entries = .ok entered) :
    entered.Sorted := by
  induction entries generalizing owners with
  | nil =>
    cases h
    exact howners
  | cons entry rest ih =>
    obtain ⟨extension, ft⟩ := entry
    cases hfind : Keyed.find? extension owners with
    | some owner =>
      rw [enter_of_owned hfind] at h
      cases h
    | none =>
      rw [enter_of_free hfind] at h
      exact ih (Keyed.sorted_put howners extension ft) h

theorem enter_ok_iff :
    (∃ entered, enter owners entries = .ok entered) ↔
      (entries.map Prod.fst).Nodup ∧
        ∀ extension ∈ entries.map Prod.fst, Keyed.find? extension owners = none := by
  induction entries generalizing owners with
  | nil => simp [enter]
  | cons entry rest ih =>
    obtain ⟨extension, ft⟩ := entry
    rw [List.map_cons, List.nodup_cons, List.forall_mem_cons]
    cases hfind : Keyed.find? extension owners with
    | some owner =>
      rw [enter_of_owned hfind]
      simp
    | none =>
      rw [enter_of_free hfind, ih]
      constructor
      · rintro ⟨hnodup, hfree⟩
        -- what has just been entered is not free for the rest
        have hne : ∀ other ∈ rest.map Prod.fst, other ≠ extension := by
          rintro other hother rfl
          have hput := hfree _ hother
          rw [Keyed.find?_put_self] at hput
          cases hput
        refine ⟨⟨fun hmem => hne _ hmem rfl, hnodup⟩, rfl, ?_⟩
        intro other hother
        rw [← hfree other hother, Keyed.find?_put_of_ne (hne other hother)]
      · rintro ⟨⟨hnew, hnodup⟩, -, hfree⟩
        refine ⟨hnodup, ?_⟩
        intro other hother
        rw [Keyed.find?_put_of_ne, hfree other hother]
        rintro rfl
        exact hnew hother

theorem find?_enter_iff (h : enter owners entries = .ok entered) {extension : String}
    {ft : FileType σ} :
    Keyed.find? extension entered = some ft ↔
      Keyed.find? extension owners = some ft ∨ (extension, ft) ∈ entries := by
  induction entries generalizing owners with
  | nil =>
    cases h
    simp
  | cons entry rest ih =>
    obtain ⟨other, owner⟩ := entry
    cases hfind : Keyed.find? other owners with
    | some old =>
      rw [enter_of_owned hfind] at h
      cases h
    | none =>
      rw [enter_of_free hfind] at h
      rw [ih h, Keyed.find?_put, List.mem_cons, Prod.mk.injEq, ← or_assoc]
      by_cases hsame : extension = other
      · rw [if_pos hsame, hsame, hfind]
        simp [eq_comm]
      · simp [hsame]

end Enter

theorem sorted_claimAll (howners : owners.Sorted) (h : claimAll owners types = .ok entered) :
    entered.Sorted := by
  rw [claimAll_eq_enter] at h
  exact sorted_enter howners h

/-- File types are entered exactly if no extension is owned twice, or is not free. -/
theorem claimAll_ok_iff :
    (∃ entered, claimAll owners types = .ok entered) ↔
      (types.flatMap (·.extensions)).Nodup ∧
        ∀ extension ∈ types.flatMap (·.extensions), Keyed.find? extension owners = none := by
  rw [claimAll_eq_enter, enter_ok_iff, map_fst_owned]

/-- Each extension finds the file type that owns it. -/
theorem find?_claimAll_iff (h : claimAll owners types = .ok entered) {extension : String}
    {ft : FileType σ} :
    Keyed.find? extension entered = some ft ↔
      Keyed.find? extension owners = some ft ∨ ft ∈ types ∧ extension ∈ ft.extensions := by
  rw [claimAll_eq_enter] at h
  rw [find?_enter_iff h, mem_owned_iff]

/-! ## Clashes -/

variable {extension : String} {first second : FileType σ} {fault : RegistrationError}

/-- Entering ends where an extension is owned already. -/
theorem exists_of_enter_eq_error {entries : List (String × FileType σ)}
    (h : enter owners entries = .error fault) :
    ∃ earlier extension first second later entered,
      entries = earlier ++ (extension, second) :: later ∧
      enter owners earlier = .ok entered ∧ Keyed.find? extension entered = some first ∧
      fault = .conflictingExtension extension first.mimetype second.mimetype := by
  induction entries generalizing owners with
  | nil => cases h
  | cons entry rest ih =>
    obtain ⟨extension, ft⟩ := entry
    cases hfind : Keyed.find? extension owners with
    | some owner =>
      rw [enter_of_owned hfind] at h
      cases h
      exact ⟨[], extension, owner, ft, rest, owners, rfl, rfl, hfind, rfl⟩
    | none =>
      rw [enter_of_free hfind] at h
      obtain ⟨earlier, repeated, first, second, later, entered, hsplit, henter, hfirst, hfault⟩ :=
        ih h
      refine ⟨(extension, ft) :: earlier, repeated, first, second, later, entered, ?_, ?_,
        hfirst, hfault⟩
      · rw [hsplit, List.cons_append]
      · rw [enter_of_free hfind, henter]

/-- In the order of registration, the extensions up to that of `second` are distinct, and this
    one is among them, as one of `first`. -/
def FirstClash (types : List (FileType σ)) (extension : String) (first second : FileType σ) :
    Prop :=
  ∃ earlier later, owned types = earlier ++ (extension, second) :: later ∧
    (earlier.map Prod.fst).Nodup ∧ (extension, first) ∈ earlier

theorem claimAll_eq_error_iff :
    claimAll [] types = .error fault ↔
      ∃ extension first second, FirstClash types extension first second ∧
        fault = .conflictingExtension extension first.mimetype second.mimetype := by
  rw [claimAll_eq_enter]
  constructor
  · intro h
    obtain ⟨earlier, extension, first, second, later, entered, hsplit, henter, hfirst, rfl⟩ :=
      exists_of_enter_eq_error h
    have hdistinct := (enter_ok_iff.1 ⟨entered, henter⟩).1
    have hmem : (extension, first) ∈ earlier := by
      rcases (find?_enter_iff henter).1 hfirst with hnone | hmem
      · cases hnone
      · exact hmem
    exact ⟨extension, first, second, ⟨earlier, later, hsplit, hdistinct, hmem⟩, rfl⟩
  · rintro ⟨extension, first, second, ⟨earlier, later, hsplit, hdistinct, hmem⟩, rfl⟩
    obtain ⟨entered, henter⟩ : ∃ entered, enter [] earlier = .ok entered :=
      enter_ok_iff.2 ⟨hdistinct, fun _ _ => rfl⟩
    have hfirst : Keyed.find? extension entered = some first :=
      (find?_enter_iff henter).2 (.inr hmem)
    rw [hsplit, enter_append, henter]
    exact enter_of_owned hfirst

theorem FirstClash.owned (h : FirstClash types extension first second) :
    (first ∈ types ∧ extension ∈ first.extensions) ∧
      (second ∈ types ∧ extension ∈ second.extensions) := by
  obtain ⟨earlier, later, hsplit, -, hmem⟩ := h
  have hfirst : (extension, first) ∈ FileTypeIndex.owned types := by
    rw [hsplit]
    exact List.mem_append_left _ hmem
  have hsecond : (extension, second) ∈ FileTypeIndex.owned types := by
    rw [hsplit]
    exact List.mem_append_right _ List.mem_cons_self
  exact ⟨mem_owned_iff.1 hfirst, mem_owned_iff.1 hsecond⟩

/-- No file type is entered twice under one extension. -/
theorem nodup_owned (htypes : types.Nodup) (hextensions : ∀ ft ∈ types, ft.extensions.Nodup) :
    (owned types).Nodup := by
  refine List.nodup_flatMap.2 ⟨?_, htypes.imp ?_⟩
  · intro ft hft
    exact (hextensions ft hft).map fun _ _ hsame => (Prod.mk.inj hsame).1
  -- entries of two file types differ in these, even where the extensions agree
  · rintro ft ft' hne entry hentry hentry'
    obtain ⟨_, -, rfl⟩ := List.mem_map.1 hentry
    obtain ⟨_, -, hsame⟩ := List.mem_map.1 hentry'
    exact hne (Prod.mk.inj hsame).2.symm

theorem FirstClash.ne (h : FirstClash types extension first second) (htypes : types.Nodup)
    (hextensions : ∀ ft ∈ types, ft.extensions.Nodup) : first ≠ second := by
  rintro rfl
  obtain ⟨earlier, later, hsplit, -, hmem⟩ := h
  have hnodup := nodup_owned htypes hextensions
  rw [hsplit, List.nodup_append] at hnodup
  exact hnodup.2.2 _ hmem _ List.mem_cons_self rfl

end FileTypeIndex

end RenderChain
