/-
  RenderChain/Proofs/Answers.lean
  ===============================
  **What a chain answers.**

  A chain asks its members one after the other, and an answer of any kind ends the search, be
  it a template or a failure, unless it is that there is no such template (`FirstAnswer`).
  Members are loaders of any kind, so each finds the world as those before it left it.

  A chain of one loader is linked to the loader itself, and of more loaders to a loader of its
  own.  This makes no difference to what is answered (`firstAnswer_iff_of_link`), and where no
  member has the template, it shows only in the path that the error names.
-/
import RenderChain.Loader.Registry
import RenderChain.Proofs.Members

namespace RenderChain

variable {σ : Type}

namespace Loader

variable {path : String}

/-- The answer that there is no such template. -/
def IsMissing : EStateM.Result Error (World σ) Loaded → Prop
  | .ok _ _ => False
  | .error e _ => e.isNotFound = true

/-- The first answer of one of the loaders that is not that there is no such template.  A
    loader that is asked later finds the world as the earlier ones left it. -/
inductive FirstAnswer (path : String) :
    World σ → List (Loader σ) → EStateM.Result Error (World σ) Loaded → Prop
  | here {l : Loader σ} {rest : List (Loader σ)} {w : World σ}
      {answer : EStateM.Result Error (World σ) Loaded} (h : l.load path w = answer)
      (hanswer : ¬ IsMissing answer) : FirstAnswer path w (l :: rest) answer
  | later {l : Loader σ} {rest : List (Loader σ)} {w w₁ : World σ} {e : Error}
      {answer : EStateM.Result Error (World σ) Loaded} (h : l.load path w = .error e w₁)
      (hmissing : e.isNotFound = true) (hrest : FirstAnswer path w₁ rest answer) :
      FirstAnswer path w (l :: rest) answer

section Answers

variable {members : List (Loader σ)} {l : Loader σ} {w w' : World σ}
  {answer : EStateM.Result Error (World σ) Loaded}

theorem firstAnswer_iff :
    FirstAnswer path w members answer ↔ loadFirst path members w = answer ∧ ¬ IsMissing answer := by
  induction members generalizing w with
  | nil =>
    rw [loadFirst]
    constructor
    · intro h
      cases h
    · rintro ⟨rfl, hanswer⟩
      exact absurd rfl hanswer
  | cons l rest ih =>
    rw [loadFirst]
    cases hload : l.load path w with
    | ok loaded w₁ =>
      rw [Action.orIfNotFound_of_ok hload]
      constructor
      · intro h
        cases h with
        | here h hanswer => exact ⟨hload.symm.trans h, hanswer⟩
        | later h => rw [hload] at h; cases h
      · rintro ⟨rfl, hanswer⟩
        exact .here hload hanswer
    | error e w₁ =>
      rw [Action.orIfNotFound_of_error hload]
      by_cases hmissing : e.isNotFound = true
      · rw [if_pos hmissing, ← ih]
        constructor
        · intro h
          cases h with
          | here h hanswer =>
            rw [hload] at h
            rw [← h] at hanswer
            exact absurd hmissing hanswer
          | later h _ hrest =>
            obtain ⟨rfl, rfl⟩ := EStateM.Result.error.inj (hload.symm.trans h)
            exact hrest
        · intro h
          exact .later hload hmissing h
      · rw [if_neg hmissing]
        constructor
        · intro h
          cases h with
          | here h hanswer => exact ⟨hload.symm.trans h, hanswer⟩
          | later h hnotFound =>
            obtain ⟨rfl, rfl⟩ := EStateM.Result.error.inj (hload.symm.trans h)
            exact absurd hnotFound hmissing
        · rintro ⟨rfl, hanswer⟩
          exact .here hload hanswer

theorem allFail_iff :
    AllFail path Error.isNotFound w members w' ↔
      loadFirst path members w = .error (.templateNotFound path) w' := by
  constructor
  · intro h
    induction h with
    | nil w => rw [loadFirst]; rfl
    | cons hload hmissing _ ih =>
      rw [loadFirst, Action.orIfNotFound_of_error hload, if_pos hmissing, ih]
  · intro h
    exact allFail_of_loadFirst h rfl

/-- A linked chain answers as its members one after the other, but for the error of a single
    loader that has no such template. -/
theorem loadFirst_of_link (h : LoaderRegistry.link members = some l) (path : String)
    (w : World σ) :
    loadFirst path members w = l.load path w ∨ ∃ e w', e.isNotFound = true ∧
      l.load path w = .error e w' ∧
      loadFirst path members w = .error (.templateNotFound path) w' := by
  unfold LoaderRegistry.link at h
  split at h
  · cases h
  next only =>
    obtain rfl := Option.some.inj h
    rw [loadFirst]
    cases hload : only.load path w with
    | ok loaded w₁ => exact .inl (Action.orIfNotFound_of_ok hload _)
    | error e w₁ =>
      rw [Action.orIfNotFound_of_error hload]
      by_cases hmissing : e.isNotFound = true
      · refine .inr ⟨e, w₁, hmissing, rfl, ?_⟩
        rw [if_pos hmissing, loadFirst]
        rfl
      · rw [if_neg hmissing]
        exact .inl rfl
  · obtain rfl := Option.some.inj h
    rw [load]
    exact .inl rfl

/-- One loader or more, a linked chain gives the first answer of its members. -/
theorem firstAnswer_iff_of_link (h : LoaderRegistry.link members = some l) :
    FirstAnswer path w members answer ↔ l.load path w = answer ∧ ¬ IsMissing answer := by
  rw [firstAnswer_iff]
  rcases loadFirst_of_link h path w with hsame | ⟨e, w₁, hmissing, hload, hfirst⟩
  · rw [hsame]
  · rw [hload, hfirst]
    constructor
    · rintro ⟨rfl, hanswer⟩
      exact absurd rfl hanswer
    · rintro ⟨rfl, hanswer⟩
      exact absurd hmissing hanswer

/-- It finds no template if no member has one. -/
theorem allFail_iff_of_link (h : LoaderRegistry.link members = some l) :
    AllFail path Error.isNotFound w members w' ↔
      ∃ e, e.isNotFound = true ∧ l.load path w = .error e w' := by
  rcases loadFirst_of_link h path w with hsame | ⟨e, w₁, hmissing, hload, hfirst⟩
  · rw [allFail_iff, hsame]
    constructor
    · intro hload
      exact ⟨_, rfl, hload⟩
    · rintro ⟨e, hmissing, hload⟩
      exact hsame.symm.trans (allFail_iff.1 (allFail_of_loadFirst (hsame.trans hload) hmissing))
  · rw [allFail_iff, hfirst, hload]
    constructor
    · intro h
      obtain ⟨-, rfl⟩ := EStateM.Result.error.inj h
      exact ⟨e, hmissing, rfl⟩
    · rintro ⟨e', -, h⟩
      obtain ⟨-, rfl⟩ := EStateM.Result.error.inj h
      rfl

end Answers

end Loader

end RenderChain
