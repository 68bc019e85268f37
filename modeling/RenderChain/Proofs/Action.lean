/-
  RenderChain/Proofs/Action.lean
  ==============================
  **Running one computation after another.**

  Actions and calls are functions from a state to a result.  The lemmas below
  say what a sequence of two gives, so that later proofs take a sequence apart
  by its results and never unfold the monad.
-/
import RenderChain.Engine.Registry

namespace RenderChain

section Sequence

variable {ε σ α β : Type} {x : EStateM ε σ α} {f : α → EStateM ε σ β} {s s₁ : σ}

theorem bind_of_ok {a : α} (h : x s = .ok a s₁) : (x >>= f) s = f a s₁ := by
  show EStateM.bind x f s = f a s₁
  simp only [EStateM.bind, h]

theorem bind_of_error {e : ε} (h : x s = .error e s₁) : (x >>= f) s = .error e s₁ := by
  show EStateM.bind x f s = .error e s₁
  simp only [EStateM.bind, h]

theorem get_bind {g : σ → EStateM ε σ β} (s : σ) : (get >>= g) s = g s s := rfl

theorem bind_eq_ok_iff {b : β} {s' : σ} :
    (x >>= f) s = .ok b s' ↔ ∃ a s₁, x s = .ok a s₁ ∧ f a s₁ = .ok b s' := by
  cases h : x s with
  | ok a s₁ =>
    rw [bind_of_ok h]
    constructor
    · intro hf
      exact ⟨a, s₁, rfl, hf⟩
    · rintro ⟨_, _, hx, hf⟩
      cases hx
      exact hf
  | error e s₁ => simp [bind_of_error h]

theorem bind_eq_error_iff {e : ε} {s' : σ} :
    (x >>= f) s = .error e s' ↔
      x s = .error e s' ∨ ∃ a s₁, x s = .ok a s₁ ∧ f a s₁ = .error e s' := by
  cases h : x s with
  | ok a s₁ =>
    rw [bind_of_ok h]
    constructor
    · intro hf
      exact .inr ⟨a, s₁, rfl, hf⟩
    · rintro (hx | ⟨_, _, hx, hf⟩)
      · cases hx
      · cases hx
        exact hf
  | error e s₁ => simp [bind_of_error h]

end Sequence

theorem except_bind_eq_ok_iff {ε α β : Type} {x : Except ε α} {f : α → Except ε β} {b : β} :
    x >>= f = .ok b ↔ ∃ a, x = .ok a ∧ f a = .ok b := by
  cases x with
  | ok a =>
    constructor
    · intro h
      exact ⟨a, rfl, h⟩
    · rintro ⟨_, hx, h⟩
      cases hx
      exact h
  | error e =>
    constructor
    · intro h
      cases h
    · rintro ⟨_, hx, -⟩
      cases hx

variable {σ α : Type}

/-! ## Reading -/

theorem Action.readText_of_ok {path text : String} {w : World σ}
    (h : w.files.readText path = .ok text) : Action.readText path w = .ok text w := by
  have hfiles : Action.files w = .ok w.files w := rfl
  refine (bind_of_ok hfiles).trans ?_
  rw [h]
  rfl

theorem Action.readBytes_of_ok {path : String} {content : ByteArray} {w : World σ}
    (h : w.files.readBytes path = .ok content) : Action.readBytes path w = .ok content w := by
  have hfiles : Action.files w = .ok w.files w := rfl
  refine (bind_of_ok hfiles).trans ?_
  rw [h]
  rfl

/-! ## Actions inside calls -/

/-- The result of an action, as the result of a call that leaves the cells alone. -/
def keepCells (cells : Cells σ) :
    EStateM.Result Error (World σ) α → EStateM.Result Error (Session σ) α
  | .ok a w => .ok a ⟨cells, w⟩
  | .error e w => .error e ⟨cells, w⟩

theorem Call.ofAction_apply (action : Action σ α) (s : Session σ) :
    Call.ofAction action s = keepCells s.cells (action s.world) := by
  unfold Call.ofAction
  cases action s.world <;> rfl

end RenderChain
