/-
  RenderChain/Proofs/Members.lean
  ===============================
  **What a chain asks its members.**

  A chain may have chains among its members, but what it asks in the end are its leaves,
  the loaders in it that are no chains, one after the other.  It has a loop of its own
  for each question, and the loops do not stop alike: loading stops at the first leaf
  that does not say that there is no such template, whatever else is wrong with it, and
  so does hashing, while the question whether a template is known goes on to the next
  leaf after any failure.

    * `loadFirst_leaves`, `anyKnows_leaves`: nesting does not matter;
    * `load_eq_ok_iff_foundPast`: a template is loaded past leaves that do not have it;
    * `knows_eq_true_iff`: it is known past leaves that fail in whatever way;
    * `knows_exact`: so the two agree unless loading fails for another reason, and
      `knows_unloadable` is a case where they do not;
    * `hash_exact`: hashing and loading always agree.
-/
import RenderChain.Proofs.Loading

namespace RenderChain

variable {σ : Type}

/-- A loader of the caller's that knows what it can load. -/
def CustomLoader.KnowsLoads (own : CustomLoader σ) : Prop :=
  ∀ path, own.knows path = (own.load path).succeeds

namespace Action

variable {α : Type}

theorem orIfNotFound_assoc (first second third : Action σ α) :
    (first.orIfNotFound second).orIfNotFound third =
      first.orIfNotFound (second.orIfNotFound third) := by
  funext w
  cases hfirst : first w with
  | ok a w₁ =>
    rw [orIfNotFound_of_ok hfirst, orIfNotFound_of_ok (orIfNotFound_of_ok hfirst second)]
  | error e w₁ =>
    have hboth := orIfNotFound_of_error hfirst second
    rw [orIfNotFound_of_error hfirst]
    cases hnotFound : e.isNotFound with
    | true =>
      rw [hnotFound, if_pos rfl] at hboth
      rw [if_pos rfl]
      unfold orIfNotFound at hboth ⊢
      rw [hboth]
    | false =>
      rw [hnotFound, if_neg Bool.false_ne_true] at hboth
      rw [orIfNotFound_of_error hboth, hnotFound, if_neg Bool.false_ne_true,
        if_neg Bool.false_ne_true]

end Action

namespace Loader

/-! ## Leaves -/

mutual

/-- The loaders that a loader is made of, from left to right. -/
def leaves : Loader σ → List (Loader σ)
  | .inline templates => [.inline templates]
  | .folders roots extension => [.folders roots extension]
  | .chain members => leavesOfAll members
  | .custom own => [.custom own]

def leavesOfAll : List (Loader σ) → List (Loader σ)
  | [] => []
  | l :: rest => l.leaves ++ leavesOfAll rest

end

section Asking

variable {path : String}

theorem loadFirst_append (front back : List (Loader σ)) :
    loadFirst path (front ++ back) =
      (loadFirst path front).orIfNotFound (loadFirst path back) := by
  induction front with
  | nil =>
    rw [List.nil_append, loadFirst.eq_1]
    rfl
  | cons l rest ih =>
    rw [List.cons_append, loadFirst, loadFirst, ih, Action.orIfNotFound_assoc]

theorem anyKnows_append (front back : List (Loader σ)) :
    anyKnows path (front ++ back) = (do
      if ← anyKnows path front then return true
      anyKnows path back) := by
  induction front with
  | nil =>
    rw [List.nil_append, anyKnows.eq_1, pure_bind]
    rfl
  | cons l rest ih =>
    rw [List.cons_append, anyKnows, anyKnows, ih, bind_assoc]
    congr 1
    funext known
    cases known with
    | true => rw [if_pos rfl, if_pos rfl, pure_bind]; rfl
    | false => rfl

theorem anyKnows_singleton (l : Loader σ) : anyKnows path [l] = l.knows path := by
  rw [anyKnows, anyKnows.eq_1]
  refine Eq.trans ?_ (bind_pure (l.knows path))
  congr 1
  funext known
  cases known <;> rfl

end Asking

mutual

/-- To load past a loader is to load past its leaves. -/
theorem loadFirst_leaves (path : String) : (l : Loader σ) →
    loadFirst path l.leaves = loadFirst path [l]
  | .inline templates => by rw [leaves]
  | .folders roots extension => by rw [leaves]
  | .chain members => by
    have hagain : loadFirst path (members ++ []) = _ := loadFirst_append members []
    rw [List.append_nil, loadFirst.eq_1] at hagain
    rw [leaves, loadFirst_leavesOfAll path members, loadFirst, load, loadFirst.eq_1]
    exact hagain
  | .custom own => by rw [leaves]

theorem loadFirst_leavesOfAll (path : String) : (members : List (Loader σ)) →
    loadFirst path (leavesOfAll members) = loadFirst path members
  | [] => by rw [leavesOfAll]
  | l :: rest => by
    rw [leavesOfAll, loadFirst_append, loadFirst_leaves path l, loadFirst_leavesOfAll path rest,
      ← loadFirst_append, List.singleton_append]

end

mutual

/-- What a loader knows is what its leaves know. -/
theorem anyKnows_leaves (path : String) : (l : Loader σ) →
    anyKnows path l.leaves = l.knows path
  | .inline templates => by rw [leaves, anyKnows_singleton]
  | .folders roots extension => by rw [leaves, anyKnows_singleton]
  | .chain members => by rw [leaves, knows, anyKnows_leavesOfAll path members]
  | .custom own => by rw [leaves, anyKnows_singleton]

theorem anyKnows_leavesOfAll (path : String) : (members : List (Loader σ)) →
    anyKnows path (leavesOfAll members) = anyKnows path members
  | [] => by rw [leavesOfAll]
  | l :: rest => by
    rw [leavesOfAll, anyKnows_append, anyKnows_leaves path l, anyKnows_leavesOfAll path rest,
      anyKnows]

end

/-! ## One leaf after the other -/

/-- None of the loaders loads the template, and each fails in a way that lets the next one be
    asked. -/
inductive AllFail (path : String) (passes : Error → Bool) :
    World σ → List (Loader σ) → World σ → Prop
  | nil (w : World σ) : AllFail path passes w [] w
  | cons {l : Loader σ} {rest : List (Loader σ)} {w w₁ w' : World σ} {e : Error} :
      l.load path w = .error e w₁ → passes e = true → AllFail path passes w₁ rest w' →
      AllFail path passes w (l :: rest) w'

/-- One of the loaders loads the template, and those before it fail in a way that lets the next
    one be asked. -/
inductive FoundPast (path : String) (passes : Error → Bool) :
    World σ → List (Loader σ) → Loaded → World σ → Prop
  | here {l : Loader σ} {rest : List (Loader σ)} {w w' : World σ} {loaded : Loaded} :
      l.load path w = .ok loaded w' → FoundPast path passes w (l :: rest) loaded w'
  | later {l : Loader σ} {rest : List (Loader σ)} {w w₁ w' : World σ} {e : Error}
      {loaded : Loaded} :
      l.load path w = .error e w₁ → passes e = true → FoundPast path passes w₁ rest loaded w' →
      FoundPast path passes w (l :: rest) loaded w'

section Leaves

variable {path : String} {passes : Error → Bool} {ls : List (Loader σ)} {l : Loader σ}
  {loaded : Loaded} {w w' : World σ}

/-- Any failure lets the next loader be asked. -/
abbrev anyFailure : Error → Bool := fun _ => true

theorem FoundPast.any (h : FoundPast path passes w ls loaded w') :
    FoundPast path anyFailure w ls loaded w' := by
  induction h with
  | here hload => exact .here hload
  | later hload _ _ ih => exact .later hload rfl ih

theorem loadFirst_eq_ok_iff :
    loadFirst path ls w = .ok loaded w' ↔ FoundPast path Error.isNotFound w ls loaded w' := by
  induction ls generalizing w with
  | nil =>
    rw [loadFirst]
    constructor
    · intro h
      cases h
    · intro h
      cases h
  | cons l rest ih =>
    rw [loadFirst]
    cases hload : l.load path w with
    | ok found w₁ =>
      rw [Action.orIfNotFound_of_ok hload]
      constructor
      · intro h
        cases h
        exact .here hload
      · intro h
        cases h with
        | here hload' => rw [← hload, hload']
        | later hload' => rw [hload] at hload'; cases hload'
    | error e w₁ =>
      rw [Action.orIfNotFound_of_error hload]
      constructor
      · intro h
        split at h
        next hpass => exact .later hload hpass (ih.1 h)
        next => cases h
      · intro h
        cases h with
        | here hload' => rw [hload] at hload'; cases hload'
        | later hload' hpass hrest =>
          obtain ⟨rfl, rfl⟩ := EStateM.Result.error.inj (hload.symm.trans hload')
          rw [if_pos hpass]
          exact ih.2 hrest

theorem allFail_of_loadFirst {e : Error} (h : loadFirst path ls w = .error e w')
    (hnotFound : e.isNotFound = true) : AllFail path Error.isNotFound w ls w' := by
  induction ls generalizing w with
  | nil =>
    rw [loadFirst] at h
    cases h
    exact .nil _
  | cons l rest ih =>
    rw [loadFirst] at h
    cases hload : l.load path w with
    | ok found w₁ =>
      rw [Action.orIfNotFound_of_ok hload] at h
      cases h
    | error e' w₁ =>
      rw [Action.orIfNotFound_of_error hload] at h
      split at h
      next hpass => exact .cons hload hpass (ih h)
      next hother =>
        obtain ⟨rfl, rfl⟩ := EStateM.Result.error.inj h
        exact absurd hnotFound hother

/-! ### Loaders that know what they can load -/

theorem anyKnows_of_load {rest : List (Loader σ)} (hl : l.knows path = (l.load path).succeeds)
    (h : l.load path w = .ok loaded w') : anyKnows path (l :: rest) w = .ok true w' := by
  have hknows : l.knows path w = .ok true w' := by
    rw [hl]
    unfold Action.succeeds
    rw [h]
  rw [anyKnows, bind_of_ok hknows]
  rfl

theorem anyKnows_of_failure {rest : List (Loader σ)} {e : Error}
    (hl : l.knows path = (l.load path).succeeds) (h : l.load path w = .error e w') :
    anyKnows path (l :: rest) w = anyKnows path rest w' := by
  have hknows : l.knows path w = .ok false w' := by
    rw [hl]
    unfold Action.succeeds
    rw [h]
  rw [anyKnows, bind_of_ok hknows]
  rfl

theorem FoundPast.anyKnows (h : FoundPast path passes w ls loaded w')
    (hls : ∀ l ∈ ls, l.knows path = (l.load path).succeeds) : anyKnows path ls w = .ok true w' := by
  induction h with
  | here hload => exact anyKnows_of_load (hls _ List.mem_cons_self) hload
  | later hload _ _ ih =>
    rw [anyKnows_of_failure (hls _ List.mem_cons_self) hload]
    exact ih (List.forall_mem_cons.1 hls).2

theorem AllFail.anyKnows (h : AllFail path passes w ls w')
    (hls : ∀ l ∈ ls, l.knows path = (l.load path).succeeds) :
    anyKnows path ls w = .ok false w' := by
  induction h with
  | nil w => rw [Loader.anyKnows]; rfl
  | cons hload _ _ ih =>
    rw [anyKnows_of_failure (hls _ List.mem_cons_self) hload]
    exact ih (List.forall_mem_cons.1 hls).2

theorem foundPast_or_allFail (path : String) (ls : List (Loader σ)) (w : World σ) :
    (∃ loaded w', FoundPast path anyFailure w ls loaded w') ∨
      ∃ w', AllFail path anyFailure w ls w' := by
  induction ls generalizing w with
  | nil => exact .inr ⟨w, .nil w⟩
  | cons l rest ih =>
    cases hload : l.load path w with
    | ok loaded w₁ => exact .inl ⟨loaded, w₁, .here hload⟩
    | error e w₁ =>
      rcases ih w₁ with ⟨loaded, w', hfound⟩ | ⟨w', hfail⟩
      · exact .inl ⟨loaded, w', .later hload rfl hfound⟩
      · exact .inr ⟨w', .cons hload rfl hfail⟩

/-- Whether a template is known is whether one of the loaders can load it. -/
theorem anyKnows_eq_true_iff (hls : ∀ l ∈ ls, l.knows path = (l.load path).succeeds) :
    anyKnows path ls w = .ok true w' ↔ ∃ loaded, FoundPast path anyFailure w ls loaded w' := by
  constructor
  · intro h
    rcases foundPast_or_allFail path ls w with ⟨loaded, w₁, hfound⟩ | ⟨w₁, hfail⟩
    · cases h.symm.trans (hfound.anyKnows hls)
      exact ⟨loaded, hfound⟩
    · cases h.symm.trans (hfail.anyKnows hls)
  · rintro ⟨loaded, hfound⟩
    exact hfound.anyKnows hls

end Leaves

mutual

theorem knows_of_mem_leaves (path : String) : (l : Loader σ) →
    (∀ own ∈ l.customs, own.KnowsLoads) → ∀ leaf ∈ l.leaves,
      leaf.knows path = (leaf.load path).succeeds
  | .inline templates, _, leaf, hleaf => by
    rw [leaves, List.mem_singleton] at hleaf
    subst hleaf
    rw [knows, load]
    cases Keyed.find? path templates <;> rfl
  | .folders roots extension, _, leaf, hleaf => by
    rw [leaves, List.mem_singleton] at hleaf
    subst hleaf
    rw [knows]
  | .chain members, h, leaf, hleaf => by
    rw [leaves] at hleaf
    exact knows_of_mem_leavesOfAll path members h leaf hleaf
  | .custom own, h, leaf, hleaf => by
    rw [leaves, List.mem_singleton] at hleaf
    subst hleaf
    rw [knows, load]
    exact h own (List.mem_singleton.2 rfl) path

theorem knows_of_mem_leavesOfAll (path : String) : (members : List (Loader σ)) →
    (∀ own ∈ customsOfAll members, own.KnowsLoads) → ∀ leaf ∈ leavesOfAll members,
      leaf.knows path = (leaf.load path).succeeds
  | [], _, leaf, hleaf => by
    rw [leavesOfAll] at hleaf
    cases hleaf
  | l :: rest, h, leaf, hleaf => by
    rw [leavesOfAll] at hleaf
    rcases List.mem_append.1 hleaf with hfirst | hlater
    · exact knows_of_mem_leaves path l (fun own hown => h own (List.mem_append_left _ hown))
        leaf hfirst
    · exact knows_of_mem_leavesOfAll path rest
        (fun own hown => h own (List.mem_append_right _ hown)) leaf hlater

end

/-! ## Knowing and loading -/

section Knowing

variable {l : Loader σ} {path : String} {loaded : Loaded} {w w' : World σ}

/-- A template is loaded past leaves that do not have it. -/
theorem load_eq_ok_iff_foundPast :
    l.load path w = .ok loaded w' ↔ FoundPast path Error.isNotFound w l.leaves loaded w' := by
  rw [← loadFirst_eq_ok_iff, loadFirst_leaves, loadFirst_eq_ok_iff]
  constructor
  · intro h
    exact .here h
  · intro h
    cases h with
    | here hload => exact hload
    | later _ _ hrest => cases hrest

theorem allFail_of_load {e : Error} (h : l.load path w = .error e w')
    (hnotFound : e.isNotFound = true) : AllFail path Error.isNotFound w l.leaves w' := by
  have hfirst : loadFirst path l.leaves w = .error (.templateNotFound path) w' := by
    rw [loadFirst_leaves, loadFirst, Action.orIfNotFound_of_error h, if_pos hnotFound, loadFirst]
    rfl
  exact allFail_of_loadFirst hfirst rfl

/-- A template is known past leaves that fail in whatever way. -/
theorem knows_eq_true_iff (h : ∀ own ∈ l.customs, own.KnowsLoads) :
    l.knows path w = .ok true w' ↔ ∃ loaded, FoundPast path anyFailure w l.leaves loaded w' := by
  rw [← anyKnows_leaves, anyKnows_eq_true_iff (knows_of_mem_leaves path l h)]

theorem knows_of_load (h : ∀ own ∈ l.customs, own.KnowsLoads)
    (hload : l.load path w = .ok loaded w') : l.knows path w = .ok true w' :=
  (knows_eq_true_iff h).2 ⟨loaded, (load_eq_ok_iff_foundPast.1 hload).any⟩

theorem knows_of_not_found (h : ∀ own ∈ l.customs, own.KnowsLoads) {e : Error}
    (hload : l.load path w = .error e w') (hnotFound : e.isNotFound = true) :
    l.knows path w = .ok false w' := by
  rw [← anyKnows_leaves]
  exact (allFail_of_load hload hnotFound).anyKnows (knows_of_mem_leaves path l h)

end Knowing

/-- **Knowing and loading.**  If the caller's own loaders know what they can load, every loader
    says whether it knows a template, and this is whether one of its leaves can load it, the
    leaves before it failing in whatever way.  To load it is more: the leaves before must not
    have the template.  So the two agree, in what they change as well, unless loading fails
    for another reason than that the template is not found. -/
theorem knows_exact {l : Loader σ} (h : ∀ own ∈ l.customs, own.KnowsLoads) (path : String)
    (w : World σ) :
    (∃ known w', l.knows path w = .ok known w') ∧
    (∀ w', l.knows path w = .ok true w' ↔
      ∃ loaded, FoundPast path anyFailure w l.leaves loaded w') ∧
    (∀ loaded w', l.load path w = .ok loaded w' ↔
      FoundPast path Error.isNotFound w l.leaves loaded w') ∧
    ((∀ e w', l.load path w = .error e w' → e.isNotFound = true) →
      l.knows path w = (l.load path).succeeds w) := by
  refine ⟨?_, fun w' => knows_eq_true_iff h, fun loaded w' => load_eq_ok_iff_foundPast, ?_⟩
  · have hleaves := knows_of_mem_leaves path l h
    rw [← anyKnows_leaves]
    rcases foundPast_or_allFail path l.leaves w with ⟨loaded, w', hfound⟩ | ⟨w', hfail⟩
    · exact ⟨true, w', hfound.anyKnows hleaves⟩
    · exact ⟨false, w', hfail.anyKnows hleaves⟩
  · intro honly
    unfold Action.succeeds
    cases hload : l.load path w with
    | ok loaded w' => exact knows_of_load h hload
    | error e w' => exact knows_of_not_found h hload (honly e w' hload)

/-- A world without any files. -/
def bare : World Unit := ⟨Files.empty, [], 0, ()⟩

/-- A loader of the caller's that never loads anything. -/
def refusing (e : Error) : CustomLoader Unit := .ofLoad (fun _ => throw e) fun _ => []

/-- A nested chain whose first leaf reports another path as not found. -/
def detour : Loader Unit :=
  .chain [.chain [.custom (refusing (.templateNotFound "elsewhere"))], .inline [("a", "x")]]

theorem knows_exact_detour :
    (∀ own ∈ detour.customs, own.KnowsLoads) ∧
    detour.load "a" bare = .ok (.inline "x") bare ∧
    detour.knows "a" bare = .ok true bare := by
  have hcustoms : ∀ own ∈ detour.customs, own.KnowsLoads := by
    intro own hown
    obtain rfl := List.mem_singleton.1 hown
    exact fun _ => rfl
  have hload : detour.load "a" bare = .ok (.inline "x") bare := rfl
  refine ⟨hcustoms, hload, ?_⟩
  rw [(knows_exact hcustoms "a" bare).2.2.2 (by simp [hload])]
  unfold Action.succeeds
  rw [hload]

/-- A chain whose first member is broken. -/
def broken : Loader Unit :=
  .chain [.custom (refusing (.io "a" (.other "disk on fire"))), .inline [("a", "x")]]

/-- A template may be known and not be loaded: if a member before the one that has it fails for
    another reason, a chain knows the template but does not load it. -/
theorem knows_unloadable :
    (∀ own ∈ broken.customs, own.KnowsLoads) ∧
    broken.knows "a" bare = .ok true bare ∧
    broken.load "a" bare =
      .error (.io "a" (.other "disk on fire")) bare := by
  refine ⟨?_, rfl, rfl⟩
  intro own hown
  obtain rfl := List.mem_singleton.1 hown
  exact fun _ => rfl

/-! ## Hashing and loading -/

theorem toUTF8_of_fromUTF8? {content : ByteArray} {text : String}
    (h : String.fromUTF8? content = some text) : text.toUTF8 = content := by
  unfold String.fromUTF8? at h
  split at h
  · cases h
    rfl
  · cases h

/-- The bytes of a text that is read are all that the file holds. -/
theorem readBytes_of_readText {fs : Files} {path text : String}
    (h : fs.readText path = .ok text) : fs.readBytes path = .ok text.toUTF8 := by
  unfold Files.readText at h
  split at h
  · cases h
  next content hbytes =>
    split at h
    next text' htext =>
      cases h
      rw [hbytes, toUTF8_of_fromUTF8? htext]
    · cases h

theorem bytes_of_read {loaded : Loaded} {text : String} {w w' : World σ}
    (h : loaded.read w = .ok text w') : loaded.bytes w = .ok text.toUTF8.toList w' := by
  cases loaded with
  | inline content =>
    cases h
    rfl
  | file path =>
    obtain ⟨fs, w₁, hfiles, hresult⟩ := bind_eq_ok_iff.1 h
    cases hfiles
    cases hread : w.files.readText path with
    | error fault =>
      rw [hread] at hresult
      cases hresult
    | ok found =>
      rw [hread] at hresult
      cases hresult
      exact bind_of_ok (Action.readBytes_of_ok (readBytes_of_readText hread))

/-- **Hashing and loading.**  If the caller's own loaders hash what they load, the hash of a
    template is the digest of its bytes: there is one exactly if the template can be loaded
    and what is loaded has bytes, and otherwise the failure is that of loading or that of
    reading the bytes.  If what is loaded can be read as a text, the bytes are those of the text. -/
theorem hash_exact {l : Loader σ} (h : ∀ own ∈ l.customs, own.HashesLoads) (path : String)
    (w : World σ) :
    (∀ digest w', l.hash path w = .ok digest w' ↔
      ∃ loaded w₁ bytes, l.load path w = .ok loaded w₁ ∧ loaded.bytes w₁ = .ok bytes w' ∧
        digest = Digest.hex bytes) ∧
    (∀ e w', l.hash path w = .error e w' ↔
      l.load path w = .error e w' ∨
        ∃ loaded w₁, l.load path w = .ok loaded w₁ ∧ loaded.bytes w₁ = .error e w') ∧
    ∀ loaded w₁ text w', l.load path w = .ok loaded w₁ → loaded.read w₁ = .ok text w' →
      l.hash path w = .ok (Digest.hex text.toUTF8.toList) w' := by
  have hok : ∀ digest w', l.hash path w = .ok digest w' ↔
      ∃ loaded w₁ bytes, l.load path w = .ok loaded w₁ ∧ loaded.bytes w₁ = .ok bytes w' ∧
        digest = Digest.hex bytes := by
    intro digest w'
    rw [hash_eq_hashOf l h path]
    constructor
    · intro hhash
      obtain ⟨loaded, w₁, hload, hrest⟩ := bind_eq_ok_iff.1 hhash
      obtain ⟨bytes, w₂, hbytes, hpure⟩ := bind_eq_ok_iff.1 hrest
      cases hpure
      exact ⟨loaded, w₁, bytes, hload, hbytes, rfl⟩
    · rintro ⟨loaded, w₁, bytes, hload, hbytes, rfl⟩
      exact bind_eq_ok_iff.2 ⟨loaded, w₁, hload, bind_eq_ok_iff.2 ⟨bytes, w', hbytes, rfl⟩⟩
  refine ⟨hok, ?_, ?_⟩
  · intro e w'
    rw [hash_eq_hashOf l h path]
    refine bind_eq_error_iff.trans (or_congr_right ?_)
    constructor
    · rintro ⟨loaded, w₁, hload, hrest⟩
      rcases bind_eq_error_iff.1 hrest with hbytes | ⟨_, _, -, hpure⟩
      · exact ⟨loaded, w₁, hload, hbytes⟩
      · cases hpure
    · rintro ⟨loaded, w₁, hload, hbytes⟩
      exact ⟨loaded, w₁, hload, bind_of_error hbytes⟩
  · intro loaded w₁ text w' hload hread
    exact (hok _ _).2 ⟨loaded, w₁, _, hload, bytes_of_read hread, rfl⟩

/-- A nested chain whose first leaves do not have the template, and whose next one names a file
    that is gone. -/
def dangling : Loader Unit :=
  .chain [.chain [.custom (refusing (.templateNotFound "elsewhere")), .inline [("b", "y")]],
    .custom (.ofLoad (fun _ => pure (.file "gone")) fun _ => []), .inline [("a", "x")]]

/-- The template that counts is the one that is loaded, although its file cannot be read: no later
    member is asked for a hash. -/
theorem hash_exact_dangling :
    (∀ own ∈ dangling.customs, own.HashesLoads) ∧
    dangling.hash "b" bare = .ok (Digest.hex "y".toUTF8.toList) bare ∧
    dangling.load "a" bare = .ok (.file "gone") bare ∧
    dangling.hash "a" bare = .error (.io "gone" .notFound) bare := by
  have hcustoms : ∀ own ∈ dangling.customs, own.HashesLoads := by
    intro own hown
    rcases List.mem_cons.1 hown with rfl | hown
    · exact fun _ => rfl
    · obtain rfl := List.mem_singleton.1 hown
      exact fun _ => rfl
  have hother : dangling.load "b" bare = .ok (.inline "y") bare := rfl
  have hload : dangling.load "a" bare = .ok (.file "gone") bare := rfl
  have hbytes : (Loaded.file "gone").bytes bare = .error (.io "gone" .notFound) bare := by
    have hsplit : Text.split '/' "gone" = ["gone"] := by decide
    have hread : bare.files.readBytes "gone" = .error .notFound := by
      simp +decide [bare, Files.readBytes, Files.empty, Files.locate, Files.locateWith,
        Files.follow, Files.entry?, List.lookup_cons, hsplit]
    have hfiles : Action.files bare = .ok bare.files bare := rfl
    refine bind_of_error ((bind_of_ok hfiles).trans ?_)
    rw [hread]
    rfl
  obtain ⟨-, -, hread⟩ := hash_exact hcustoms "b" bare
  obtain ⟨-, hfail, -⟩ := hash_exact hcustoms "a" bare
  exact ⟨hcustoms, hread _ _ "y" bare hother rfl, hload, (hfail _ _).2 (.inr ⟨_, _, hload, hbytes⟩)⟩

end Loader

end RenderChain
