/-
  RenderChain/Proofs/RegistryHistory.lean
  =======================================
  **What the registries of file types and engines owe to the calls before.**

  A file type is asked for by its mime type and then edited, as often as one
  likes; engines are registered under extensions.  Calls may be refused.  The
  registries then hold what a list of all that was asked for and offered would
  say, read from the front: who comes first is kept, who comes again is not.

    * `KeepsFirst`: of the pairs with one name the first;
    * `FileType.Edit.remaining`: the post-processors that edits leave, which the
      edits say from the back;
    * `FileType.follows_foldl`: what edits make of a file type, whatever their
      number and order;
    * `FileTypeRegistry.getOrEmpty_ofVisits`: the file type of a mime type depends on
      the edits of this mime type only, and none of them is lost;
    * `registrations_exact`: all of this, with what a single call can do.
-/
import RenderChain.Placeholder
import RenderChain.Proofs.ListedPaths
import RenderChain.Proofs.Reordering

namespace RenderChain

variable {σ : Type}

/-! ## First come, first kept -/

theorem distinct_concat (xs : List String) (x : String) :
    distinct (xs ++ [x]) = if x ∈ xs then distinct xs else distinct xs ++ [x] := by
  induction xs with
  | nil => simp [distinct]
  | cons y rest ih =>
    rw [List.cons_append, distinct, ih, distinct]
    by_cases hrest : x ∈ rest
    · simp [hrest]
    · by_cases hsame : x = y
      · subst hsame
        simp [hrest]
      · simp [hrest, hsame]

section KeepsFirst

variable {α : Type}

/-- Of the pairs that are given, the first one of each name is kept. -/
structure KeepsFirst (given kept : List (String × α)) : Prop where
  names : kept.map Prod.fst = distinct (given.map Prod.fst)
  values : ∀ name, kept.lookup name = given.lookup name

namespace KeepsFirst

variable {given kept : List (String × α)}

theorem nil : KeepsFirst ([] : List (String × α)) [] := ⟨rfl, fun _ => rfl⟩

theorem nodup (h : KeepsFirst given kept) : (kept.map Prod.fst).Nodup := by
  rw [h.names]
  exact nodup_distinct _

theorem mem_names_iff (h : KeepsFirst given kept) {name : String} :
    name ∈ kept.map Prod.fst ↔ name ∈ given.map Prod.fst := by
  rw [h.names, mem_distinct]

/-- One pair more is kept if its name is new. -/
theorem concat (h : KeepsFirst given kept) (name : String) (value : α) :
    KeepsFirst (given ++ [(name, value)])
      (if name ∈ kept.map Prod.fst then kept else kept ++ [(name, value)]) := by
  by_cases hold : name ∈ kept.map Prod.fst
  · rw [if_pos hold]
    refine ⟨?_, ?_⟩
    · rw [List.map_append, List.map_singleton, distinct_concat, if_pos (h.mem_names_iff.1 hold),
        h.names]
    · intro other
      rw [h.values, List.lookup_append]
      by_cases hsame : other = name
      · -- the value that was given before is found first
        obtain ⟨found, hfound⟩ : ∃ found, given.lookup name = some found := by
          rw [← Option.isSome_iff_exists, List.lookup_isSome_iff]
          obtain ⟨p, hp, hname⟩ := List.mem_map.1 (h.mem_names_iff.1 hold)
          exact ⟨p, hp, by simp [hname]⟩
        simp [hsame, hfound]
      · simp [List.lookup_cons, beq_false_of_ne hsame]
  · rw [if_neg hold]
    refine ⟨?_, ?_⟩
    · rw [List.map_append, List.map_singleton, List.map_append, List.map_singleton,
        distinct_concat, if_neg (mt h.mem_names_iff.2 hold), h.names]
    · intro other
      rw [List.lookup_append, List.lookup_append, h.values]

end KeepsFirst

end KeepsFirst

/-! ## File types -/

namespace FileType

namespace Edit

/-- The extension that an edit adds, if it is one. -/
def extension? : Edit σ → Option String
  | .addExtension extension =>
    if Extension.fault? extension = none then some extension else none
  | .addGlobal _ _ | .addPostprocessor _ | .popPostprocessor => none

def global? : Edit σ → Option (String × Json)
  | .addGlobal name value => some (name, value)
  | .addExtension _ | .addPostprocessor _ | .popPostprocessor => none

/-- The post-processors that edits leave, the last one first.  The edits are read from the
    last one to the first, and `popped` of the next post-processors to be met were taken
    away later. -/
def remaining (popped : Nat) : List (Edit σ) → List (PostProcessor σ)
  | [] => []
  | .addPostprocessor p :: earlier =>
    match popped with
    | 0 => p :: remaining 0 earlier
    | popped + 1 => remaining popped earlier
  | .popPostprocessor :: earlier => remaining (popped + 1) earlier
  | .addExtension _ :: earlier | .addGlobal _ _ :: earlier => remaining popped earlier

/-- One more that is taken away is the last one of those that were left. -/
theorem remaining_succ (popped : Nat) (edits : List (Edit σ)) :
    remaining (popped + 1) edits = (remaining popped edits).tail := by
  induction edits generalizing popped with
  | nil => rfl
  | cons e earlier ih =>
    cases e with
    | addExtension | addGlobal | popPostprocessor => exact ih _
    | addPostprocessor p =>
      cases popped with
      | zero => rfl
      | succ popped => exact ih popped

end Edit

/-- The file type after an edit, whether or not the edit was refused. -/
def after (ft : FileType σ) (e : Edit σ) : FileType σ := stateOf (e.run ft)

section After

variable (ft : FileType σ) (e : Edit σ)

theorem after_addExtension (extension : String) : ft.after (.addExtension extension) =
    if Extension.fault? extension = none ∧ extension ∉ ft.extensions then
      { ft with extensions := ft.extensions ++ [extension] }
    else ft := by
  rw [after, Edit.run_addExtension, Extension.check]
  cases Extension.fault? extension with
  | some fault => rfl
  | none =>
    show (if extension ∈ ft.extensions then ft else _) = _
    by_cases hold : extension ∈ ft.extensions <;> simp [hold]

theorem after_addGlobal (name : String) (value : Json) : ft.after (.addGlobal name value) =
    if name ∈ ft.globals.map Prod.fst then ft
    else { ft with globals := ft.globals ++ [(name, value)] } := by
  rw [after, Edit.run_addGlobal]
  split <;> rfl

theorem extensions_after : (ft.after e).extensions =
    match e.extension? with
    | some extension =>
      if extension ∈ ft.extensions then ft.extensions else ft.extensions ++ [extension]
    | none => ft.extensions := by
  cases e with
  | addExtension extension =>
    rw [after_addExtension, Edit.extension?]
    by_cases hfault : Extension.fault? extension = none
    · by_cases hold : extension ∈ ft.extensions <;> simp [hfault, hold]
    · simp [hfault]
  | addGlobal name value =>
    rw [after_addGlobal, Edit.extension?]
    split <;> rfl
  | addPostprocessor | popPostprocessor => rfl

theorem globals_after : (ft.after e).globals =
    match e.global? with
    | some (name, value) =>
      if name ∈ ft.globals.map Prod.fst then ft.globals else ft.globals ++ [(name, value)]
    | none => ft.globals := by
  cases e with
  | addGlobal name value =>
    rw [after_addGlobal, Edit.global?]
    split
    next hold => simp [hold]
    next hnew => simp [hnew]
  | addExtension extension =>
    rw [after_addExtension, Edit.global?]
    split <;> rfl
  | addPostprocessor | popPostprocessor => rfl

theorem mimetype_after : (ft.after e).mimetype = ft.mimetype := by
  unfold after
  cases hrun : e.run ft with
  | ok _ ft' => exact Edit.mimetype_run hrun
  | error fault ft' => exact congrArg mimetype (e.quits_run _ _ _ hrun)

end After

/-- What a file type owes to the edits that have made it. -/
structure Follows (edits : List (Edit σ)) (ft : FileType σ) : Prop where
  extensions : ft.extensions = distinct (edits.filterMap Edit.extension?)
  globals : KeepsFirst (edits.filterMap Edit.global?) ft.globals
  postprocessors : ft.postprocessors.reverse = Edit.remaining 0 edits.reverse

namespace Follows

variable {edits : List (Edit σ)} {ft : FileType σ}

theorem postprocessors_concat (h : ft.postprocessors.reverse = Edit.remaining 0 edits.reverse)
    (e : Edit σ) :
    (ft.after e).postprocessors.reverse = Edit.remaining 0 (edits ++ [e]).reverse := by
  rw [List.reverse_append, List.reverse_singleton, List.singleton_append]
  cases e with
  | addExtension extension =>
    rw [Edit.remaining, ← h, after_addExtension]
    split <;> rfl
  | addGlobal name value =>
    rw [Edit.remaining, ← h, after_addGlobal]
    split <;> rfl
  | addPostprocessor p =>
    rw [Edit.remaining, ← h, after, Edit.run_addPostprocessor]
    exact List.reverse_concat
  | popPostprocessor =>
    rw [Edit.remaining, Edit.remaining_succ, ← h, List.tail_reverse, after,
      Edit.run_popPostprocessor]
    rfl

theorem concat (h : Follows edits ft) (e : Edit σ) : Follows (edits ++ [e]) (ft.after e) := by
  refine ⟨?_, ?_, postprocessors_concat h.postprocessors e⟩
  · rw [extensions_after, List.filterMap_append, List.filterMap_cons]
    cases e.extension? with
    | none => simpa using h.extensions
    | some extension =>
      have hmem : extension ∈ ft.extensions ↔ extension ∈ edits.filterMap Edit.extension? := by
        rw [h.extensions, mem_distinct]
      simp only [List.filterMap_nil, distinct_concat, ← hmem, ← h.extensions]
  · rw [globals_after, List.filterMap_append, List.filterMap_cons]
    cases e.global? with
    | none => simpa using h.globals
    | some given => exact h.globals.concat given.1 given.2

/-- What is taken away is the last one of those that were left, and is given to the caller. -/
theorem popPostprocessor (h : Follows edits ft) :
    FileType.popPostprocessor ft =
      .ok (Edit.remaining 0 edits.reverse).head? (ft.after .popPostprocessor) := by
  rw [← h.postprocessors, List.head?_reverse]
  rfl

theorem nodup_extensions (h : Follows edits ft) : ft.extensions.Nodup := by
  rw [h.extensions]
  exact nodup_distinct _

theorem valid (h : Follows edits ft) : ∀ extension ∈ ft.extensions,
    Extension.check extension = .ok () := by
  intro extension hmem
  rw [h.extensions, mem_distinct] at hmem
  obtain ⟨e, -, he⟩ := List.mem_filterMap.1 hmem
  cases e with
  | addExtension other =>
    simp only [Edit.extension?, Option.ite_none_right_eq_some, Option.some.injEq] at he
    obtain ⟨hfault, rfl⟩ := he
    simp [Extension.check, hfault]
  | addGlobal | addPostprocessor | popPostprocessor => cases he

end Follows

/-- Edits one after the other, refused ones among them. -/
theorem follows_foldl (edits : List (Edit σ)) (mimetype : String) :
    Follows edits (edits.foldl after (.empty mimetype)) := by
  induction edits using List.reverseRecOn with
  | nil => exact ⟨rfl, .nil, rfl⟩
  | append_singleton edits e ih =>
    rw [List.foldl_append]
    exact ih.concat e

end FileType

/-! ## Calls -/

namespace FileTypeRegistry

/-- The file types of all mime types but one, in their order. -/
def others (r : FileTypeRegistry σ) (mimetype : String) : List (FileType σ) :=
  r.types.filter (·.mimetype ≠ mimetype)

section Calls

variable (r : FileTypeRegistry σ) (mimetype : String) (e : FileType.Edit σ)

theorem others_put (ft : FileType σ) : (r.put ft).others ft.mimetype = r.others ft.mimetype := by
  rcases r.put_cases ft with ⟨-, hput⟩ | ⟨before, old, later, rfl, hold, -, hput⟩
  · rw [hput]
    simp [others, List.filter_append]
  · rw [hput]
    simp [others, List.filter_append, hold]

theorem others_request : (stateOf (request mimetype r)).others mimetype = r.others mimetype := by
  have hput := r.others_put (r.getOrEmpty mimetype)
  rw [mimetype_getOrEmpty] at hput
  rw [request_apply]
  exact hput

variable {mimetype} in
/-- A file type that has been asked for is set as the edit leaves it. -/
theorem stateOf_change (h : mimetype ∈ r.mimetypes) :
    stateOf (change mimetype e r) = r.put ((r.getOrEmpty mimetype).after e) := by
  rw [change_of_mem e h, FileType.after, Registering.onPart]
  cases e.run (r.getOrEmpty mimetype) <;> rfl

theorem others_change : (stateOf (change mimetype e r)).others mimetype = r.others mimetype := by
  by_cases hknown : mimetype ∈ r.mimetypes
  · have hput := r.others_put ((r.getOrEmpty mimetype).after e)
    rw [FileType.mimetype_after, mimetype_getOrEmpty] at hput
    rw [r.stateOf_change e hknown, hput]
  · rw [change_of_not_mem e hknown]
    cases hrun : e.run (.empty mimetype) with
    | ok _ ft =>
      have hmimetype : ft.mimetype = mimetype := FileType.Edit.mimetype_run hrun
      have hput := r.others_put ft
      rw [hmimetype] at hput
      exact hput
    | error fault ft => rfl

variable {r mimetype}

theorem mimetypes_change (h : mimetype ∈ r.mimetypes) :
    (stateOf (change mimetype e r)).mimetypes = r.mimetypes := by
  rw [r.stateOf_change e h, mimetypes_put, FileType.mimetype_after, mimetype_getOrEmpty, if_pos h]

theorem find?_change {ft : FileType σ} (h : r.find? mimetype = some ft) (other : String) :
    (stateOf (change mimetype e r)).find? other =
      if other = mimetype then some (ft.after e) else r.find? other := by
  have hheld : r.getOrEmpty mimetype = ft := by simp [getOrEmpty, h]
  have hknown : mimetype ∈ r.mimetypes := mem_mimetypes_iff.2 ⟨ft, h⟩
  rw [r.stateOf_change e hknown, hheld, find?_put, FileType.mimetype_after, mimetype_of_find? h]

end Calls

/-! ## Visits -/

/-- A mime type that is asked for, and the edits of the file type that is obtained. -/
structure Visit (σ : Type) where
  mimetype : String
  edits : List (FileType.Edit σ)

def changes (mimetype : String) (edits : List (FileType.Edit σ)) (r : FileTypeRegistry σ) :
    FileTypeRegistry σ :=
  edits.foldl (fun r e => stateOf (change mimetype e r)) r

def visit (r : FileTypeRegistry σ) (v : Visit σ) : FileTypeRegistry σ :=
  changes v.mimetype v.edits (stateOf (request v.mimetype r))

/-- The registry that visits lead to, from nothing. -/
def ofVisits (visits : List (Visit σ)) : FileTypeRegistry σ := visits.foldl visit empty

/-- All edits of the file type of a mime type. -/
def editsOf (mimetype : String) (visits : List (Visit σ)) : List (FileType.Edit σ) :=
  visits.flatMap fun v => if v.mimetype = mimetype then v.edits else []

section Visits

variable {r : FileTypeRegistry σ} {mimetype : String}

theorem mimetypes_changes (edits : List (FileType.Edit σ)) (h : mimetype ∈ r.mimetypes) :
    (changes mimetype edits r).mimetypes = r.mimetypes := by
  induction edits generalizing r with
  | nil => rfl
  | cons e rest ih =>
    have hstep := mimetypes_change e h
    rw [changes, List.foldl_cons, ← hstep]
    apply ih
    rwa [hstep]

theorem find?_changes (edits : List (FileType.Edit σ)) {ft : FileType σ}
    (h : r.find? mimetype = some ft) (other : String) :
    (changes mimetype edits r).find? other =
      if other = mimetype then some (edits.foldl FileType.after ft) else r.find? other := by
  induction edits generalizing r ft with
  | nil =>
    by_cases hsame : other = mimetype
    · simp [changes, hsame, h]
    · simp [changes, hsame]
  | cons e rest ih =>
    have hstep := find?_change e h
    have hrest := ih ((hstep mimetype).trans (if_pos rfl))
    rw [changes, List.foldl_cons]
    show (changes mimetype rest _).find? other = _
    rw [hrest, hstep, List.foldl_cons]
    by_cases hsame : other = mimetype <;> simp [hsame]

variable (r) (v : Visit σ)

theorem find?_ensure_self : (r.ensure mimetype).find? mimetype = some (r.getOrEmpty mimetype) := by
  rw [ensure, find?_put, mimetype_getOrEmpty, if_pos rfl]

theorem mimetypes_visit : (r.visit v).mimetypes =
    if v.mimetype ∈ r.mimetypes then r.mimetypes else r.mimetypes ++ [v.mimetype] := by
  have hensure : (r.ensure v.mimetype).mimetypes =
      if v.mimetype ∈ r.mimetypes then r.mimetypes else r.mimetypes ++ [v.mimetype] := by
    rw [ensure, mimetypes_put, mimetype_getOrEmpty]
  rw [visit, request_apply, ← hensure]
  apply mimetypes_changes
  show v.mimetype ∈ (r.ensure v.mimetype).mimetypes
  rw [hensure]
  split
  next hold => exact hold
  next => simp

/-- A visit edits the file type of its mime type, and no other. -/
theorem getOrEmpty_visit (other : String) : (r.visit v).getOrEmpty other =
    if other = v.mimetype then v.edits.foldl FileType.after (r.getOrEmpty other)
    else r.getOrEmpty other := by
  have hvisit : (r.visit v).find? other =
      if other = v.mimetype then some (v.edits.foldl FileType.after (r.getOrEmpty v.mimetype))
      else (r.ensure v.mimetype).find? other := by
    rw [visit, request_apply]
    exact find?_changes v.edits r.find?_ensure_self other
  rw [getOrEmpty, hvisit]
  by_cases hsame : other = v.mimetype
  · simp [hsame]
  · rw [if_neg hsame, if_neg hsame, ensure, find?_put, mimetype_getOrEmpty, if_neg hsame]
    rfl

theorem ofVisits_concat (visits : List (Visit σ)) :
    ofVisits (visits ++ [v]) = (ofVisits visits).visit v := by
  simp [ofVisits]

theorem editsOf_concat (visits : List (Visit σ)) : editsOf mimetype (visits ++ [v]) =
    editsOf mimetype visits ++ if v.mimetype = mimetype then v.edits else [] := by
  simp [editsOf]

/-- Mime types stand in the order in which they were asked for first. -/
theorem mimetypes_ofVisits (visits : List (Visit σ)) :
    (ofVisits visits).mimetypes = distinct (visits.map (·.mimetype)) := by
  induction visits using List.reverseRecOn with
  | nil => rfl
  | append_singleton visits v ih =>
    rw [ofVisits_concat, mimetypes_visit, List.map_append, List.map_singleton, distinct_concat]
    simp only [ih, mem_distinct]

/-- The edits of a mime type are all there, and no others. -/
theorem getOrEmpty_ofVisits (visits : List (Visit σ)) (mimetype : String) :
    (ofVisits visits).getOrEmpty mimetype =
      (editsOf mimetype visits).foldl FileType.after (.empty mimetype) := by
  induction visits using List.reverseRecOn with
  | nil => rfl
  | append_singleton visits v ih =>
    rw [ofVisits_concat, getOrEmpty_visit, ih, editsOf_concat, List.foldl_append]
    by_cases hsame : mimetype = v.mimetype
    · simp [hsame]
    · simp [hsame, Ne.symm hsame]

end Visits

/-- What a registry of file types owes to the visits that have made it. -/
structure Follows (visits : List (Visit σ)) (r : FileTypeRegistry σ) : Prop where
  nodup_mimetypes : r.mimetypes.Nodup
  /-- Mime types stand in the order in which they were asked for first. -/
  mimetypes : r.mimetypes = distinct (visits.map (·.mimetype))
  nodup_extensions : ∀ ft ∈ r.types, ft.extensions.Nodup
  valid_extensions : ∀ ft ∈ r.types, ∀ extension ∈ ft.extensions,
    Extension.check extension = .ok ()
  nodup_globals : ∀ ft ∈ r.types, (ft.globals.map Prod.fst).Nodup
  /-- Extensions, globals and post-processors are those of the edits of the mime type, and no
      others.  A global keeps the value that it got first, and a post-processor stays until it
      is the last one when one is taken away. -/
  edited : ∀ ft ∈ r.types, ft.Follows (editsOf ft.mimetype visits)
  /-- Asking for a known mime type changes nothing, and gives what all edits of it have made. -/
  known : ∀ mimetype ∈ r.mimetypes, request mimetype r =
    .ok ((editsOf mimetype visits).foldl FileType.after (.empty mimetype)) r
  /-- Asking for another one adds an empty file type. -/
  added : ∀ mimetype ∉ r.mimetypes,
    request mimetype r = .ok (.empty mimetype) ⟨r.types ++ [.empty mimetype]⟩

theorem follows_ofVisits (visits : List (Visit σ)) : Follows visits (ofVisits visits) := by
  have hmimetypes := mimetypes_ofVisits visits
  have hnodup : (ofVisits visits).mimetypes.Nodup := by
    rw [hmimetypes]
    exact nodup_distinct _
  have hedited : ∀ ft ∈ (ofVisits visits).types, ft.Follows (editsOf ft.mimetype visits) := by
    intro ft hft
    have hheld : ft = (ofVisits visits).getOrEmpty ft.mimetype := by
      simp [getOrEmpty, (mem_types_iff hnodup).1 hft]
    rw [getOrEmpty_ofVisits] at hheld
    have hfollows := FileType.follows_foldl (editsOf ft.mimetype visits) ft.mimetype
    rwa [← hheld] at hfollows
  refine ⟨hnodup, hmimetypes, fun ft hft => (hedited ft hft).nodup_extensions,
    fun ft hft => (hedited ft hft).valid, fun ft hft => (hedited ft hft).globals.nodup, hedited,
    ?_, ?_⟩
  · intro mimetype hknown
    rw [request_apply, ensure_of_mem hknown, getOrEmpty_ofVisits]
  · intro mimetype hnew
    rw [request_apply, ensure_of_not_mem hnew]
    simp [getOrEmpty, find?_eq_none_iff.2 hnew]

end FileTypeRegistry

/-! ## Engines -/

namespace EngineRegistry

theorem engines_add (r : EngineRegistry σ) (extension : String) (engine : Engine σ) :
    (stateOf (add extension engine r)).engines =
      if Extension.fault? extension = none then
        if extension ∈ r.engines.map Prod.fst then r.engines
        else r.engines ++ [(extension, engine)]
      else r.engines := by
  rw [add_apply, Extension.check]
  cases Extension.fault? extension with
  | some fault => rfl
  | none =>
    by_cases hold : extension ∈ r.extensions
    · simp only [hold, dif_pos, if_pos (show extension ∈ r.engines.map _ from hold)]
      rfl
    · simp only [hold, if_neg (show extension ∉ r.engines.map _ from hold)]
      rfl

/-- The registry that registrations lead to, from nothing. -/
def ofRegistrations (registrations : List (String × Engine σ)) : EngineRegistry σ :=
  registrations.foldl (fun r p => stateOf (add p.1 p.2 r)) empty

/-- What a registry of engines owes to the registrations that have made it. -/
structure Follows (registrations : List (String × Engine σ)) (r : EngineRegistry σ) : Prop where
  nodup_extensions : r.extensions.Nodup
  valid_extensions : ∀ extension ∈ r.extensions, Extension.check extension = .ok ()
  /-- An extension that is one keeps the engine that was registered first. -/
  engines : KeepsFirst (registrations.filter fun p => Extension.fault? p.1 = none) r.engines

theorem keepsFirst_ofRegistrations (registrations : List (String × Engine σ)) :
    KeepsFirst (registrations.filter fun p => Extension.fault? p.1 = none)
      (ofRegistrations registrations).engines := by
  induction registrations using List.reverseRecOn with
  | nil => exact .nil
  | append_singleton registrations p ih =>
    obtain ⟨extension, engine⟩ := p
    have hstep : ofRegistrations (registrations ++ [(extension, engine)]) =
        stateOf (add extension engine (ofRegistrations registrations)) := by
      simp [ofRegistrations]
    rw [hstep, engines_add, List.filter_append]
    by_cases hfault : Extension.fault? extension = none
    · simpa [hfault] using ih.concat extension engine
    · simpa [hfault] using ih

theorem follows_ofRegistrations (registrations : List (String × Engine σ)) :
    Follows registrations (ofRegistrations registrations) := by
  have hkept := keepsFirst_ofRegistrations registrations
  refine ⟨hkept.nodup, ?_, hkept⟩
  intro extension hmem
  obtain ⟨p, hp, rfl⟩ := List.mem_map.1 (hkept.mem_names_iff.1 hmem)
  have hfault := of_decide_eq_true (List.mem_filter.1 hp).2
  simp [Extension.check, hfault]

end EngineRegistry

/-! ## Histories -/

/-- **Registered file types and engines.**  However often file types are asked for and edited,
    and engines registered, and whatever is refused, the registries hold what the calls say from
    the front: mime types in the order in which they were asked for first, with extensions and
    globals that are valid, without repetition and of the first value, and engines under valid
    extensions, each with one.  A call on a mime type leaves the file types of the others as
    they are, and one that is refused leaves its registry as it is. -/
theorem registrations_exact (visits : List (FileTypeRegistry.Visit σ))
    (registrations : List (String × Engine σ)) :
    FileTypeRegistry.Follows visits (.ofVisits visits) ∧
    EngineRegistry.Follows registrations (.ofRegistrations registrations) ∧
    (∀ (r : FileTypeRegistry σ) (mimetype : String) (e : FileType.Edit σ),
      (stateOf (FileTypeRegistry.request mimetype r)).others mimetype = r.others mimetype ∧
      (stateOf (FileTypeRegistry.change mimetype e r)).others mimetype = r.others mimetype) ∧
    (∀ (r r' : FileTypeRegistry σ) (mimetype : String) (e : FileType.Edit σ) fault,
      FileTypeRegistry.change mimetype e r = .error fault r' → r' = r) ∧
    (∀ (r r' : EngineRegistry σ) (extension : String) (engine : Engine σ) fault,
      EngineRegistry.add extension engine r = .error fault r' → r' = r) := by
  refine ⟨FileTypeRegistry.follows_ofVisits visits,
    EngineRegistry.follows_ofRegistrations registrations, ?_, ?_, ?_⟩
  · intro r mimetype e
    exact ⟨r.others_request mimetype, r.others_change mimetype e⟩
  · intro r r' mimetype e fault h
    exact FileTypeRegistry.quits_change mimetype e r r' fault h
  · intro r r' extension engine fault h
    exact EngineRegistry.quits_add extension engine r r' fault h

namespace Notes

def endLine : PostProcessor Unit := fun text => pure (text ++ "\n")

def quote : PostProcessor Unit := fun text => pure ("'" ++ text ++ "'")

/-- Style sheets are asked for twice.  One extension is refused, and a second value, and the
    post-processor that was added last is taken away. -/
def visits : List (FileTypeRegistry.Visit Unit) :=
  [⟨"text/css", [.addExtension "css", .addExtension ".css", .addGlobal "a" (.string "x"),
      .addPostprocessor endLine, .addPostprocessor quote]⟩,
    ⟨"text/plain", [.addExtension "txt"]⟩,
    ⟨"text/css", [.addGlobal "a" (.string "y"), .addExtension "css", .popPostprocessor,
      .addExtension "min.css"]⟩]

/-- An engine, and two that are refused. -/
def registrations : List (String × Engine Unit) :=
  [("tpl", Placeholder.engine (.numbered 0)), (".tpl", Placeholder.engine (.numbered 1)),
    ("tpl", Placeholder.engine (.numbered 2))]

end Notes

/-- The file type of style sheets has the extensions of both visits, the first value and the
    first post-processor, and the first engine stays. -/
theorem registrations_exact_notes :
    (FileTypeRegistry.ofVisits Notes.visits).mimetypes = ["text/css", "text/plain"] ∧
    (∃ ft ∈ (FileTypeRegistry.ofVisits Notes.visits).types,
      FileTypeRegistry.request "text/css" (.ofVisits Notes.visits) =
        .ok ft (.ofVisits Notes.visits) ∧
      ft.extensions = ["css", "min.css"] ∧ ft.globals.lookup "a" = some (.string "x") ∧
      ft.postprocessors = [Notes.endLine]) ∧
    (EngineRegistry.ofRegistrations Notes.registrations).extensions = ["tpl"] ∧
    ∃ r', EngineRegistry.add "tpl" (Placeholder.engine (.numbered 3))
        (.ofRegistrations Notes.registrations) = .error (.duplicateEngine "tpl") r' ∧
      r' = .ofRegistrations Notes.registrations := by
  obtain ⟨hfiles, hengines, -, -, hrefused⟩ := registrations_exact Notes.visits Notes.registrations
  have hmimetypes : (FileTypeRegistry.ofVisits Notes.visits).mimetypes =
      ["text/css", "text/plain"] := hfiles.mimetypes.trans (by decide)
  have hknown := hfiles.known "text/css" (by simp [hmimetypes])
  have hmem : (FileTypeRegistry.editsOf "text/css" Notes.visits).foldl FileType.after
      (.empty "text/css") ∈ (FileTypeRegistry.ofVisits Notes.visits).types := .head _
  have hsheets := hfiles.edited _ hmem
  refine ⟨hmimetypes, ⟨_, hmem, hknown, ?_, ?_, ?_⟩, ?_, ⟨_, rfl, ?_⟩⟩
  · exact hsheets.extensions.trans (by decide)
  · exact (hsheets.globals.values "a").trans rfl
  · exact (List.reverse_eq_iff.1 hsheets.postprocessors).trans rfl
  · exact hengines.engines.names.trans (by decide)
  · exact hrefused _ _ "tpl" (Placeholder.engine (.numbered 3)) _ rfl

end RenderChain
