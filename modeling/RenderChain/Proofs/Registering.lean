/-
  RenderChain/Proofs/Registering.lean
  ===================================
  **What a single call does to its registry.**

  Calls change registries in place, and nothing is undone when one is refused.  That a
  refused call leaves no trace has to be read off its steps: all that it checks comes
  before the first thing that it writes.  A part that such a call has been made on is
  put back as it was, so the same is true of the whole.

    * `Quits`: a call that leaves no trace when it is refused, and the rule for parts;
    * `apply_eq`: so its result is told by what it makes of a registry;
    * `FileType.Edit.run_addExtension`, …: the edits of a file type, one lemma each;
    * `FileTypeRegistry.find?_put`, …: what a registry holds after a file type is set;
    * `FileTypeRegistry.edit_eq`, `EngineRegistry.register_eq`, `LoaderRegistry.edit_eq`:
      what the calls of the registries make.
-/
import RenderChain.FileType.Registry
import RenderChain.Loader.Registry
import RenderChain.Proofs.Action

namespace RenderChain

variable {σ ρ τ α : Type}

/-! ## Calls that are refused -/

namespace Registering

/-- If the call is refused, the registry is as it was. -/
def Quits (call : Registering ρ α) : Prop :=
  ∀ (r r' : ρ) (fault : RegistrationError), call r = .error fault r' → r' = r

variable {call : Registering ρ α}

theorem outcome_of_ok {a : α} {r r' : ρ} (h : call r = .ok a r') : call.outcome r = .ok r' := by
  unfold outcome
  rw [h]

theorem outcome_of_error {fault : RegistrationError} {r r' : ρ} (h : call r = .error fault r') :
    call.outcome r = .error fault := by
  unfold outcome
  rw [h]

/-- What the call makes of a registry tells all that it does. -/
theorem Quits.apply_eq {call : Registering ρ Unit} (h : Quits call) (r : ρ) :
    call r =
      match call.outcome r with
      | .ok r' => .ok () r'
      | .error fault => .error fault r := by
  cases hcall : call r with
  | ok a r' => rw [outcome_of_ok hcall]
  | error fault r' => rw [outcome_of_error hcall, h _ _ _ hcall]

section OnPart

variable {call : Registering τ α} {part : ρ → τ} {putBack : ρ → τ → ρ} {r : ρ} {t : τ}
  {fault : RegistrationError}

theorem onPart_of_ok {a : α} (h : call (part r) = .ok a t) :
    onPart part putBack call r = .ok a (putBack r t) := by
  unfold onPart
  rw [h]

theorem onPart_of_error (h : call (part r) = .error fault t) :
    onPart part putBack call r = .error fault (putBack r t) := by
  unfold onPart
  rw [h]

/-- A part is put back as it was. -/
theorem Quits.onPart_eq_error (h : Quits call) {r' : ρ}
    (hrefused : onPart part putBack call r = .error fault r') : r' = putBack r (part r) := by
  cases hcall : call (part r) with
  | ok a t =>
    rw [onPart_of_ok hcall] at hrefused
    cases hrefused
  | error fault t =>
    rw [onPart_of_error hcall] at hrefused
    cases hrefused
    rw [h _ _ _ hcall]

/-- What the call makes of the part tells all that it does to the whole. -/
theorem Quits.onPart_apply {call : Registering τ Unit} (h : Quits call) (part : ρ → τ)
    (putBack : ρ → τ → ρ) (r : ρ) :
    onPart part putBack call r =
      match call.outcome (part r) with
      | .ok t => .ok () (putBack r t)
      | .error fault => .error fault (putBack r (part r)) := by
  unfold onPart
  rw [h.apply_eq]
  cases call.outcome (part r) <;> rfl

theorem outcome_onPart (part : ρ → τ) (putBack : ρ → τ → ρ) (call : Registering τ α) (r : ρ) :
    (onPart part putBack call).outcome r = (call.outcome (part r)).map (putBack r) := by
  unfold outcome onPart
  cases call (part r) <;> rfl

end OnPart

end Registering

open Registering (Quits)

theorem Extension.accept_eq_ok {extension : String} (h : check extension = .ok ()) (r : ρ) :
    accept extension r = .ok () r := by
  unfold accept
  rw [h]
  rfl

theorem Extension.accept_eq_error {extension : String} {fault : RegistrationError}
    (h : check extension = .error fault) (r : ρ) : accept extension r = .error fault r := by
  unfold accept
  rw [h]
  rfl

/-! ## Edits of a file type -/

namespace FileType

namespace Edit

variable (ft : FileType σ)

theorem run_addExtension (extension : String) : (addExtension extension).run ft =
    match Extension.check extension with
    | .ok () => .ok () (if extension ∈ ft.extensions then ft
        else { ft with extensions := ft.extensions ++ [extension] })
    | .error fault => .error fault ft := by
  unfold run
  cases hcheck : Extension.check extension with
  | error fault => exact bind_of_error (Extension.accept_eq_error hcheck ft)
  | ok _ =>
    refine (bind_of_ok (Extension.accept_eq_ok hcheck ft)).trans ?_
    refine (get_bind ft).trans ?_
    by_cases hold : extension ∈ ft.extensions
    · rw [if_neg (not_not_intro hold)]
      exact congrArg (EStateM.Result.ok ()) (if_pos hold).symm
    · rw [if_pos hold]
      exact congrArg (EStateM.Result.ok ()) (if_neg hold).symm

theorem run_addGlobal (name : String) (value : Json) : (addGlobal name value).run ft =
    if name ∈ ft.globals.map Prod.fst then .error (.duplicateGlobal ft.mimetype name) ft
    else .ok () { ft with globals := ft.globals ++ [(name, value)] } := by
  unfold run
  refine (get_bind ft).trans ?_
  by_cases hold : name ∈ ft.globals.map Prod.fst
  · rw [if_pos hold, if_pos hold]
    rfl
  · rw [if_neg hold, if_neg hold]
    rfl

theorem run_addPostprocessor (p : PostProcessor σ) : (addPostprocessor p).run ft =
    .ok () { ft with postprocessors := ft.postprocessors ++ [p] } := rfl

theorem run_popPostprocessor : (popPostprocessor : Edit σ).run ft =
    .ok () { ft with postprocessors := ft.postprocessors.dropLast } := rfl

/-- An edit looks before it writes. -/
theorem quits_run (e : Edit σ) : Quits e.run := by
  intro ft ft' fault h
  cases e with
  | addExtension extension =>
    rw [run_addExtension] at h
    split at h <;> cases h
    rfl
  | addGlobal name value =>
    rw [run_addGlobal] at h
    split at h <;> cases h
    rfl
  | addPostprocessor | popPostprocessor => cases h

theorem mimetype_run {e : Edit σ} {ft ft' : FileType σ} (h : e.run ft = .ok () ft') :
    ft'.mimetype = ft.mimetype := by
  cases e with
  | addExtension extension =>
    rw [run_addExtension] at h
    split at h <;> cases h
    split <;> rfl
  | addGlobal name value =>
    rw [run_addGlobal] at h
    split at h <;> cases h
    rfl
  | addPostprocessor | popPostprocessor =>
    cases h
    rfl

end Edit

theorem edit_eq_ok_iff {ft ft' : FileType σ} {e : Edit σ} :
    ft.edit e = .ok ft' ↔ e.run ft = .ok () ft' := by
  unfold edit Registering.outcome
  cases e.run ft <;> simp

theorem mimetype_edit {ft ft' : FileType σ} {e : Edit σ} (h : ft.edit e = .ok ft') :
    ft'.mimetype = ft.mimetype :=
  Edit.mimetype_run (edit_eq_ok_iff.1 h)

/-- An edit leaves the extensions alone, or adds one that is new and well-formed. -/
theorem extensions_edit {ft ft' : FileType σ} {e : Edit σ} (h : ft.edit e = .ok ft') :
    ft'.extensions = ft.extensions ∨
      ∃ extension, Extension.check extension = .ok () ∧ extension ∉ ft.extensions ∧
        ft'.extensions = ft.extensions ++ [extension] := by
  rw [edit_eq_ok_iff] at h
  cases e with
  | addExtension extension =>
    rw [Edit.run_addExtension] at h
    split at h
    next hcheck =>
      cases h
      split
      next => exact .inl rfl
      next hnew => exact .inr ⟨extension, hcheck, hnew, rfl⟩
    next => cases h
  | addGlobal name value =>
    rw [Edit.run_addGlobal] at h
    split at h <;> cases h
    exact .inl rfl
  | addPostprocessor | popPostprocessor =>
    cases h
    exact .inl rfl

end FileType

/-! ## File types -/

namespace FileTypeRegistry

variable {r : FileTypeRegistry σ} {mimetype : String}

theorem contains_iff : r.contains mimetype = true ↔ mimetype ∈ r.mimetypes := by
  simp [contains, mimetypes]

theorem mimetype_of_find? {ft : FileType σ} (h : r.find? mimetype = some ft) :
    ft.mimetype = mimetype := by
  simpa using List.find?_some h

theorem find?_eq_none_iff : r.find? mimetype = none ↔ mimetype ∉ r.mimetypes := by
  unfold find? mimetypes
  simp

theorem mem_mimetypes_iff : mimetype ∈ r.mimetypes ↔ ∃ ft, r.find? mimetype = some ft := by
  rw [← Option.ne_none_iff_exists', Ne, find?_eq_none_iff, Decidable.not_not]

theorem mimetype_getOrEmpty (r : FileTypeRegistry σ) (mimetype : String) :
    (r.getOrEmpty mimetype).mimetype = mimetype := by
  unfold getOrEmpty
  cases h : r.find? mimetype with
  | none => rfl
  | some ft => exact mimetype_of_find? h

theorem getOrEmpty_congr {r' : FileTypeRegistry σ} (h : r.find? mimetype = r'.find? mimetype) :
    r.getOrEmpty mimetype = r'.getOrEmpty mimetype := by
  unfold getOrEmpty
  rw [h]

/-! ### Setting one -/

/-- A file type that is set stands at the end, or where the first one of its mime type has
    been. -/
theorem put_cases (r : FileTypeRegistry σ) (ft : FileType σ) :
    (ft.mimetype ∉ r.mimetypes ∧ r.put ft = ⟨r.types ++ [ft]⟩) ∨
      ∃ before old later, r = ⟨before ++ old :: later⟩ ∧ old.mimetype = ft.mimetype ∧
        (∀ other ∈ before, other.mimetype ≠ ft.mimetype) ∧
        r.put ft = ⟨before ++ ft :: later⟩ := by
  obtain ⟨types⟩ := r
  induction types with
  | nil => exact .inl ⟨List.not_mem_nil, rfl⟩
  | cons first rest ih =>
    have hput : put ⟨first :: rest⟩ ft =
        ⟨if first.mimetype = ft.mimetype then ft :: rest else first :: put.go ft rest⟩ := rfl
    let after (r : FileTypeRegistry σ) : FileTypeRegistry σ := ⟨first :: r.types⟩
    rw [hput]
    by_cases hsame : first.mimetype = ft.mimetype
    · refine .inr ⟨[], first, rest, rfl, hsame, fun _ h => absurd h List.not_mem_nil, ?_⟩
      rw [if_pos hsame]
      rfl
    · rw [if_neg hsame]
      rcases ih with ⟨hnew, hrest⟩ | ⟨before, old, later, hrest, hold, hbefore, hset⟩
      · refine .inl ⟨?_, congrArg after hrest⟩
        exact List.not_mem_cons_of_ne_of_not_mem (Ne.symm hsame) hnew
      · refine .inr ⟨first :: before, old, later, congrArg after hrest, hold, ?_,
          congrArg after hset⟩
        exact List.forall_mem_cons.2 ⟨hsame, hbefore⟩

theorem mimetypes_put (r : FileTypeRegistry σ) (ft : FileType σ) :
    (r.put ft).mimetypes =
      if ft.mimetype ∈ r.mimetypes then r.mimetypes else r.mimetypes ++ [ft.mimetype] := by
  rcases r.put_cases ft with ⟨hnew, hput⟩ | ⟨before, old, later, rfl, hold, -, hput⟩
  · rw [hput, if_neg hnew]
    simp [mimetypes]
  · rw [hput, if_pos (by simp [mimetypes, hold])]
    simp [mimetypes, hold]

theorem nodup_put (h : r.mimetypes.Nodup) (ft : FileType σ) : (r.put ft).mimetypes.Nodup := by
  rw [mimetypes_put]
  split
  next => exact h
  next hnew =>
    refine List.nodup_append.2 ⟨h, List.pairwise_singleton _ _, ?_⟩
    rintro other hother _ hlast rfl
    exact hnew (List.mem_singleton.1 hlast ▸ hother)

theorem find?_put (r : FileTypeRegistry σ) (ft : FileType σ) (mimetype : String) :
    (r.put ft).find? mimetype = if mimetype = ft.mimetype then some ft else r.find? mimetype := by
  rcases r.put_cases ft with ⟨hnew, hput⟩ | ⟨before, old, later, rfl, hold, hbefore, hput⟩
  · have hnone : r.find? ft.mimetype = none := find?_eq_none_iff.2 hnew
    have happend : (r.put ft).find? mimetype =
        (r.find? mimetype).or (if ft.mimetype = mimetype then some ft else none) := by
      rw [hput]
      unfold find?
      rw [List.find?_append, List.find?_singleton]
      simp
    rw [happend]
    by_cases hsame : mimetype = ft.mimetype
    · simp [hsame, hnone]
    · simp [hsame, Ne.symm hsame]
  · have hskip : before.find? (·.mimetype = ft.mimetype) = none :=
      List.find?_eq_none.2 (by simpa using hbefore)
    rw [hput]
    unfold find?
    rw [List.find?_append, List.find?_append, List.find?_cons, List.find?_cons, hold]
    by_cases hsame : mimetype = ft.mimetype
    · simp [hsame, hskip]
    · simp [hsame, Ne.symm hsame]

theorem getOrEmpty_put {ft : FileType σ} (h : ft.mimetype = mimetype) :
    (r.put ft).getOrEmpty mimetype = ft := by
  unfold getOrEmpty
  rw [find?_put, if_pos h.symm]
  rfl

theorem mem_of_mem_put {ft other : FileType σ} (h : other ∈ (r.put ft).types) :
    other = ft ∨ other ∈ r.types := by
  rcases r.put_cases ft with ⟨-, hput⟩ | ⟨before, old, later, rfl, -, -, hput⟩
  · rw [hput] at h
    exact (List.mem_append.1 h).symm.imp_left List.mem_singleton.1
  · rw [hput] at h
    simp only [List.mem_append, List.mem_cons] at h ⊢
    rcases h with hbefore | hnew | hlater
    · exact .inr (.inl hbefore)
    · exact .inl hnew
    · exact .inr (.inr (.inr hlater))

/-- To set what is there changes nothing. -/
theorem put_of_find? {ft : FileType σ} (h : r.find? mimetype = some ft) : r.put ft = r := by
  obtain rfl := mimetype_of_find? h
  rcases r.put_cases ft with ⟨hnew, -⟩ | ⟨before, old, later, rfl, hold, hbefore, hput⟩
  · rw [find?_eq_none_iff.2 hnew] at h
    cases h
  · have hskip : before.find? (·.mimetype = ft.mimetype) = none :=
      List.find?_eq_none.2 (by simpa using hbefore)
    unfold find? at h
    rw [List.find?_append, hskip, List.find?_cons_of_pos (by simpa using hold)] at h
    rw [hput, ← Option.some.inj h]

theorem put_of_not_mem {ft : FileType σ} (h : ft.mimetype ∉ r.mimetypes) :
    r.put ft = ⟨r.types ++ [ft]⟩ := by
  rcases r.put_cases ft with ⟨-, hput⟩ | ⟨before, old, later, rfl, hold, -, -⟩
  · exact hput
  · exact absurd (by simp [mimetypes, hold]) h

/-! ### Calls -/

/-- A known file type is registered just as it is. -/
theorem ensure_of_mem (h : mimetype ∈ r.mimetypes) : r.ensure mimetype = r := by
  obtain ⟨ft, hfind⟩ := mem_mimetypes_iff.1 h
  have hheld : r.getOrEmpty mimetype = ft := by simp [getOrEmpty, hfind]
  rw [ensure, hheld, put_of_find? hfind]

theorem ensure_of_not_mem (h : mimetype ∉ r.mimetypes) :
    r.ensure mimetype = ⟨r.types ++ [.empty mimetype]⟩ := by
  have hempty : r.getOrEmpty mimetype = .empty mimetype := by
    simp [getOrEmpty, find?_eq_none_iff.2 h]
  rw [ensure, hempty, put_of_not_mem h]

theorem request_apply (r : FileTypeRegistry σ) (mimetype : String) :
    request mimetype r = .ok (r.getOrEmpty mimetype) (r.ensure mimetype) := by
  unfold request
  refine (get_bind r).trans ?_
  cases hfind : r.find? mimetype with
  | some ft =>
    rw [ensure_of_mem (mem_mimetypes_iff.2 ⟨ft, hfind⟩)]
    exact congrArg (EStateM.Result.ok · r) (by simp [getOrEmpty, hfind])
  | none =>
    have hempty : r.getOrEmpty mimetype = .empty mimetype := by simp [getOrEmpty, hfind]
    rw [ensure_of_not_mem (find?_eq_none_iff.1 hfind), hempty]
    rfl

section Change

variable (e : FileType.Edit σ)

theorem change_of_mem (h : mimetype ∈ r.mimetypes) :
    change mimetype e r = Registering.onPart (·.getOrEmpty mimetype) put e.run r := by
  unfold change
  refine (get_bind r).trans ?_
  rw [if_pos (contains_iff.2 h)]

theorem change_of_not_mem (h : mimetype ∉ r.mimetypes) :
    change mimetype e r =
      match e.run (.empty mimetype) with
      | .ok () ft => .ok () (r.put ft)
      | .error fault _ => .error fault r := by
  unfold change
  refine (get_bind r).trans ?_
  rw [if_neg (mt contains_iff.1 h)]
  cases hrun : e.run (.empty mimetype) with
  | ok _ ft =>
    have hmimetype : ft.mimetype = mimetype := FileType.Edit.mimetype_run hrun
    exact congrArg (EStateM.Result.ok ()) (put_of_not_mem (hmimetype ▸ h)).symm
  | error fault ft => rfl

variable (mimetype) in
/-- A refused edit puts back the file type that it has found. -/
theorem quits_change : Quits (change mimetype e : Registering (FileTypeRegistry σ) Unit) := by
  intro r r' fault h
  by_cases hknown : mimetype ∈ r.mimetypes
  · rw [change_of_mem e hknown] at h
    exact (e.quits_run.onPart_eq_error h).trans (ensure_of_mem hknown)
  · rw [change_of_not_mem e hknown] at h
    split at h <;> cases h
    rfl

variable (r mimetype) in
theorem edit_eq : r.edit mimetype e = ((r.getOrEmpty mimetype).edit e).map r.put := by
  unfold edit
  by_cases hknown : mimetype ∈ r.mimetypes
  · have hpart := Registering.outcome_onPart (·.getOrEmpty mimetype) put e.run r
    unfold Registering.outcome at hpart ⊢
    rw [change_of_mem e hknown]
    exact hpart
  · have hempty : r.getOrEmpty mimetype = .empty mimetype := by
      simp [getOrEmpty, find?_eq_none_iff.2 hknown]
    unfold FileType.edit Registering.outcome
    rw [change_of_not_mem e hknown, hempty]
    cases e.run (.empty mimetype) <;> rfl

end Change

end FileTypeRegistry

/-! ## Engines -/

namespace EngineRegistry

variable (r : EngineRegistry σ) (extension : String) (engine : Engine σ)

theorem add_apply : add extension engine r =
    match Extension.check extension with
    | .error fault => .error fault r
    | .ok () =>
      if h : extension ∈ r.extensions then .error (.duplicateEngine extension) r
      else .ok () ⟨r.engines ++ [(extension, engine)], nodup_concat h engine⟩ := by
  unfold add
  cases hcheck : Extension.check extension with
  | error fault => exact bind_of_error (Extension.accept_eq_error hcheck r)
  | ok _ =>
    refine (bind_of_ok (Extension.accept_eq_ok hcheck r)).trans ?_
    refine (get_bind r).trans ?_
    by_cases hold : extension ∈ r.extensions
    · rw [dif_pos hold]
      dsimp only
      rw [dif_pos hold]
      rfl
    · rw [dif_neg hold]
      dsimp only
      rw [dif_neg hold]
      rfl

theorem quits_add : Quits (add extension engine) := by
  intro r r' fault h
  rw [add_apply] at h
  split at h
  · cases h
    rfl
  · split at h <;> cases h
    rfl

theorem register_eq : r.register extension engine =
    (Extension.check extension).bind fun _ =>
      if h : extension ∈ r.extensions then .error (.duplicateEngine extension)
      else .ok ⟨r.engines ++ [(extension, engine)], nodup_concat h engine⟩ := by
  unfold register Registering.outcome
  rw [add_apply]
  cases Extension.check extension with
  | error fault => rfl
  | ok _ =>
    by_cases hold : extension ∈ r.extensions
    · simp [hold, Except.bind]
    · simp [hold, Except.bind]

variable {r extension engine}

theorem engines_of_register {r' : EngineRegistry σ} (h : r.register extension engine = .ok r') :
    r'.engines = r.engines ++ [(extension, engine)] := by
  rw [register_eq] at h
  obtain ⟨-, -, h⟩ := except_bind_eq_ok_iff.1 h
  split at h <;> cases h
  rfl

end EngineRegistry

/-! ## Loaders -/

namespace LoaderRegistry

variable (extension : String) (f : List (Loader σ) → List (Loader σ))

theorem change_apply (r : LoaderRegistry σ) : change extension f r =
    match Extension.check extension with
    | .error fault => .error fault r
    | .ok () =>
      .ok () { r with chains := Keyed.put extension (f (r.chainOf extension)) r.chains } := by
  unfold change
  cases hcheck : Extension.check extension with
  | error fault => exact bind_of_error (Extension.accept_eq_error hcheck r)
  | ok _ => exact bind_of_ok (Extension.accept_eq_ok hcheck r)

theorem quits_change : Quits (change extension f) := by
  intro r r' fault h
  rw [change_apply] at h
  split at h <;> cases h
  rfl

theorem edit_eq (r : LoaderRegistry σ) :
    r.edit extension f = (Extension.check extension).map fun _ =>
      { r with chains := Keyed.put extension (f (r.chainOf extension)) r.chains } := by
  unfold edit Registering.outcome
  rw [change_apply]
  cases Extension.check extension <;> rfl

end LoaderRegistry

end RenderChain
