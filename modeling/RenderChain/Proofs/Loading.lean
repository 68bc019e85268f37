/-
  RenderChain/Proofs/Loading.lean
  ===============================
  **What loaders find, and what they hash.**

  Loading is an action, because a loader of the caller's may do anything.  A
  loader without such parts only looks: what it finds depends on the files and on
  nothing else, it changes nothing, and if it finds nothing then the template is
  not found (`load_eq_found`).

  A hash is the digest of what loading gives.  For chains this is not how `hash`
  is written, which asks the members for their hashes one after the other.  It
  comes to the same, because a template that has been found but cannot be read is
  not a template that is not found: no later member is asked
  (`hash_eq_hashOf`).
-/
import RenderChain.Proofs.Agreement

namespace RenderChain

variable {σ : Type}

/-! ## Hashes of what is loaded -/

/-- A loader of the caller's that hashes what it loads. -/
def CustomLoader.HashesLoads (own : CustomLoader σ) : Prop :=
  ∀ path, own.hash path = hashOf own.load path

/-! A file that cannot be read is not a template that is not found. -/

section Reading

variable {loaded : Loaded} {path : String} {w w' : World σ} {e : Error}

theorem Action.isNotFound_of_readBytes (h : Action.readBytes path w = .error e w') :
    e.isNotFound = false := by
  rcases bind_eq_error_iff.1 h with hfiles | ⟨fs, w₁, -, hresult⟩
  · cases hfiles
  · cases hread : fs.readBytes path <;> rw [hread] at hresult <;> cases hresult
    rfl

theorem Loaded.isNotFound_of_bytes (h : loaded.bytes w = .error e w') : e.isNotFound = false := by
  cases loaded with
  | inline content => cases h
  | file path =>
    rcases bind_eq_error_iff.1 h with hread | ⟨_, _, -, hpure⟩
    · exact Action.isNotFound_of_readBytes hread
    · cases hpure

end Reading

theorem Action.orIfNotFound_of_ok {α : Type} {first : Action σ α} {w w' : World σ} {a : α}
    (h : first w = .ok a w') (second : Action σ α) :
    first.orIfNotFound second w = .ok a w' := by
  unfold orIfNotFound
  rw [h]

theorem Action.orIfNotFound_of_error {α : Type} {first : Action σ α} {w w' : World σ}
    {e : Error} (h : first w = .error e w') (second : Action σ α) :
    first.orIfNotFound second w = if e.isNotFound then second w' else .error e w' := by
  unfold orIfNotFound
  rw [h]

/-- What follows may be done in each of two alternatives, if it never fails as the first
    one must fail for the second one to be tried. -/
theorem Action.orIfNotFound_bind {α β : Type} {f : α → Action σ β}
    (hf : ∀ a w e w', f a w = .error e w' → e.isNotFound = false) (first second : Action σ α) :
    first.orIfNotFound second >>= f = (first >>= f).orIfNotFound (second >>= f) := by
  funext w
  cases hfirst : first w with
  | ok a w₁ =>
    rw [bind_of_ok (orIfNotFound_of_ok hfirst second)]
    cases hrest : f a w₁ with
    | ok b w₂ => rw [orIfNotFound_of_ok ((bind_of_ok hfirst).trans hrest)]
    | error e w₂ =>
      rw [orIfNotFound_of_error ((bind_of_ok hfirst).trans hrest), hf a w₁ e w₂ hrest]
      rfl
  | error e w₁ =>
    have heither := orIfNotFound_of_error hfirst second
    rw [orIfNotFound_of_error (bind_of_error hfirst)]
    cases hnotFound : e.isNotFound with
    | true =>
      rw [hnotFound, if_pos rfl] at heither
      rw [if_pos rfl]
      cases hsecond : second w₁ with
      | ok b w₂ => rw [bind_of_ok (heither.trans hsecond), bind_of_ok hsecond]
      | error e w₂ => rw [bind_of_error (heither.trans hsecond), bind_of_error hsecond]
    | false =>
      rw [hnotFound] at heither
      exact bind_of_error heither

/-- Asking for hashes one after the other is hashing what is found one after the other. -/
theorem hashOf_orIfNotFound (first second : String → Action σ Loaded) (path : String) :
    hashOf (fun path => (first path).orIfNotFound (second path)) path =
      (hashOf first path).orIfNotFound (hashOf second path) := by
  refine Action.orIfNotFound_bind ?_ (first path) (second path)
  intro loaded w e w' hfail
  rcases bind_eq_error_iff.1 hfail with hbytes | ⟨_, _, -, hpure⟩
  · exact Loaded.isNotFound_of_bytes hbytes
  · cases hpure

namespace Loader

mutual

/-- If the caller's own loaders hash what they load, so does every loader. -/
theorem hash_eq_hashOf : (l : Loader σ) → (∀ own ∈ l.customs, own.HashesLoads) →
    (path : String) → l.hash path = hashOf (fun path => l.load path) path
  | .inline templates, _, path => by
    unfold hash
    rfl
  | .folders roots extension, _, path => by
    unfold hash
    rfl
  | .chain members, h, path => by
    unfold hash
    rw [hashFirst_eq_hashOf members h path]
    unfold hashOf
    dsimp only
    unfold load
    rfl
  | .custom own, h, path => by
    unfold hash
    rw [h own (List.mem_singleton.2 rfl) path]
    unfold hashOf
    dsimp only
    unfold load
    rfl

theorem hashFirst_eq_hashOf : (members : List (Loader σ)) →
    (∀ own ∈ customsOfAll members, own.HashesLoads) → (path : String) →
    hashFirst path members = hashOf (fun path => loadFirst path members) path
  | [], _, path => by
    unfold hashFirst
    rfl
  | l :: rest, h, path => by
    unfold hashFirst
    rw [hash_eq_hashOf l (fun own hown => h own (List.mem_append_left _ hown)) path,
      hashFirst_eq_hashOf rest (fun own hown => h own (List.mem_append_right _ hown)) path,
      ← hashOf_orIfNotFound]
    unfold hashOf
    dsimp only
    rw [loadFirst]

end

/-! ## Loaders without custom parts -/

mutual

/-- The template that a loader finds among the files; custom parts are left out. -/
def found (fs : Files) (path : String) : Loader σ → Option Loaded
  | .inline templates => (Keyed.find? path templates).map .inline
  | .folders roots _ => (fs.find? roots path).map .file
  | .chain members => foundFirst fs path members
  | .custom _ => none

def foundFirst (fs : Files) (path : String) : List (Loader σ) → Option Loaded
  | [] => none
  | l :: rest => (l.found fs path).or (foundFirst fs path rest)

end

/-- What was found, as the result of an action that changes nothing. -/
def outcome (path : String) (w : World σ) : Option Loaded → EStateM.Result Error (World σ) Loaded
  | some loaded => .ok loaded w
  | none => .error (.templateNotFound path) w

theorem outcome_or {path : String} {w : World σ} {first second : Action σ Loaded}
    {found found' : Option Loaded} (h : first w = outcome path w found)
    (h' : second w = outcome path w found') :
    first.orIfNotFound second w = outcome path w (found.or found') := by
  cases found with
  | some loaded => exact Action.orIfNotFound_of_ok h second
  | none =>
    rw [Action.orIfNotFound_of_error h]
    exact h'

mutual

/-- A loader without custom parts gives what it finds among the files, and changes
    nothing. -/
theorem load_eq_found : (l : Loader σ) → l.customs = [] → (path : String) → (w : World σ) →
    l.load path w = outcome path w (l.found w.files path)
  | .inline templates, _, path, w => by
    unfold load found
    cases Keyed.find? path templates <;> rfl
  | .folders roots extension, _, path, w => by
    unfold load found
    show (match w.files.find? roots path with
      | some full => return .file full
      | none => throw (.templateNotFound path) : Action σ Loaded) w = _
    cases w.files.find? roots path <;> rfl
  | .chain members, h, path, w => by
    unfold load found
    exact loadFirst_eq_foundFirst members h path w
  | .custom own, h, path, w => absurd h (List.cons_ne_nil own [])

theorem loadFirst_eq_foundFirst : (members : List (Loader σ)) → customsOfAll members = [] →
    (path : String) → (w : World σ) →
    loadFirst path members w = outcome path w (foundFirst w.files path members)
  | [], _, path, w => by
    unfold loadFirst foundFirst
    rfl
  | l :: rest, h, path, w => by
    obtain ⟨hl, hrest⟩ := List.append_eq_nil_iff.1 h
    unfold loadFirst foundFirst
    exact outcome_or (load_eq_found l hl path w) (loadFirst_eq_foundFirst rest hrest path w)

end

section Results

variable {l : Loader σ} {path : String} {w w' : World σ}

theorem load_eq_ok_iff (hown : l.customs = []) {loaded : Loaded} :
    l.load path w = .ok loaded w' ↔ l.found w.files path = some loaded ∧ w' = w := by
  rw [load_eq_found l hown]
  cases l.found w.files path with
  | some found => simp [outcome, eq_comm]
  | none => simp [outcome]

theorem load_eq_error_iff (hown : l.customs = []) {e : Error} :
    l.load path w = .error e w' ↔
      l.found w.files path = none ∧ e = .templateNotFound path ∧ w' = w := by
  rw [load_eq_found l hown]
  cases l.found w.files path with
  | some found => simp [outcome]
  | none => simp [outcome, eq_comm]

end Results

end Loader

end RenderChain
