/-
  RenderChain/Proofs/Refusal.lean
  ===============================
  **What a refused configuration call leaves behind.**

  A call that is refused changes no registry: it fails before anything is stored.
  But a call that changes loaders is counted before its extension is looked at,
  and stays counted.  So the history with the refused call and the one without it
  go on alike, with counts that differ by one; and as nothing but the cache keys
  looks at the count, only these give the refused call away.

    * `run_eq_error`: a refused call leaves the builder as it was, but for the
      count;
    * `after_counting`, `finalize_counting`, `ask_counting`: the count is looked
      at by no later call, not by `finalize`, and by no question but that for a
      cache key;
    * `refused_leaves_count_only`: so the count is all that is left;
    * `refused_loader_changes_key`: and it is seen.
-/
import RenderChain.Proofs.CacheKey

namespace RenderChain

open PipelineBuilder (Step)

variable {σ : Type}

/-! ## Refused calls -/

namespace PipelineBuilder

/-- The builder with `n` more calls counted. -/
def counting (b : PipelineBuilder σ) (n : Nat) : PipelineBuilder σ :=
  { b with generation := b.generation + n }

/-- How often a call is counted although it is refused. -/
def Step.countIfRefused : Step σ → Nat
  | .editLoaders _ _ => 1
  | .filetype _ | .editFileType _ _ | .setDefaultLoader _ | .registerEngine _ _
  | .setDefaultFileType _ => 0

theorem run_eq_error {b b' : PipelineBuilder σ} {step : Step σ} {e : RegistrationError}
    (h : step.run b = .error e b') : b' = b.counting step.countIfRefused := by
  cases step with
  | filetype mimetype =>
    rw [run_filetype] at h
    cases h
  | editFileType mimetype edit =>
    rw [Step.run, editFileType_apply] at h
    cases hedit : b.filetypes.edit mimetype edit <;> rw [hedit] at h <;> cases h
    rfl
  | editLoaders extension change =>
    rw [Step.run, editLoaders_apply] at h
    cases hedit : b.loaders.edit extension change <;> rw [hedit] at h <;> cases h
    rfl
  | setDefaultLoader loader => cases h
  | registerEngine extension engine =>
    rw [Step.run, registerEngine_apply] at h
    cases hregister : b.engines.register extension engine <;> rw [hregister] at h <;> cases h
    rfl
  | setDefaultFileType mimetype => cases h

/-! ## The count while configuring -/

section Counting

variable (b : PipelineBuilder σ) (n : Nat)

theorem after_counting (step : Step σ) :
    (b.counting n).after step = (b.after step).counting n := by
  have hcounted : (b.counting n).isCounted step = b.isCounted step := by cases step <;> rfl
  rw [after_eq, after_eq, hcounted]
  exact congrArg (PipelineBuilder.mk _ _ _ _ _) (Nat.add_right_comm _ _ _)

theorem foldl_after_counting (steps : List (Step σ)) :
    steps.foldl after (b.counting n) = (steps.foldl after b).counting n := by
  induction steps generalizing b with
  | nil => rfl
  | cons step rest ih => rw [List.foldl_cons, List.foldl_cons, after_counting, ih]

theorem outcomes_counting (steps : List (Step σ)) :
    (b.counting n).outcomes steps = b.outcomes steps := by
  induction steps generalizing b with
  | nil => rfl
  | cons step rest ih =>
    have houtcome : step.outcome (b.counting n) = step.outcome b := by
      rw [Step.outcome_eq, Step.outcome_eq]
      rfl
    unfold outcomes
    rw [houtcome, after_counting, ih]

end Counting

end PipelineBuilder

/-! ## The count of a pipeline -/

namespace Pipeline

/-- The pipeline with `n` more calls counted. -/
def counting (p : Pipeline σ) (n : Nat) : Pipeline σ := { p with generation := p.generation + n }

section Counting

variable (p : Pipeline σ) (n : Nat)

theorem sameButLoaders_counting : p.SameButLoaders (p.counting n) := ⟨rfl, rfl, rfl⟩

theorem resolve_counting (path : String) : (p.counting n).resolve path = p.resolve path := by
  unfold resolve instantiate
  simp only [(p.sameButLoaders_counting n).renderers]
  rfl

/-- Only cache keys depend on the count. -/
theorem ask_counting {q : Query} (hq : ∀ path, q ≠ .hash path) :
    (p.counting n).ask q = p.ask q := by
  unfold ask
  cases q with
  | resolve path =>
    dsimp only
    rw [resolve_counting]
  | render path vars =>
    unfold render
    dsimp only
    rw [resolve_counting]
  | renderContent content path vars =>
    dsimp only
    rw [(p.sameButLoaders_counting n).renderContent]
  | mimetype path => rfl
  | hash path => exact absurd rfl (hq path)
  | paths wanted includeHidden => rfl

/-- Hashing fails with the same error, whatever the count is. -/
theorem hash_counting_eq_error_iff {path : String} {w w' : World σ} {e : Error} :
    (p.counting n).hash path w = .error e w' ↔ p.hash path w = .error e w' := by
  unfold hash
  rw [show (p.counting n).plan path true = p.plan path true from rfl]
  cases p.plan path true with
  | error fault => rfl
  | ok plan =>
    dsimp only
    cases plan.loader with
    | none => rfl
    | some loader =>
      dsimp only
      rw [bind_eq_error_iff, bind_eq_error_iff]
      constructor
      · rintro (hhash | ⟨content, w₁, -, hpure⟩)
        · exact .inl hhash
        · cases hpure
      · rintro (hhash | ⟨content, w₁, -, hpure⟩)
        · exact .inl hhash
        · cases hpure

end Counting

/-- The same run, with another count. -/
def HashRun.counting {p : Pipeline σ} {path : String} {w : World σ} (run : p.HashRun path w)
    (n : Nat) : (p.counting n).HashRun path w :=
  ⟨run.plan, run.loader, run.content, run.after, run.planned, run.selected, run.hashed⟩

/-- One count more is told by the bytes of a key. -/
theorem keyBytes_succ_ne (path : String) (generation : Nat) (mimetype : String)
    (engines : List String) (content : String) :
    keyBytes path (generation + 1) mimetype engines content ≠
      keyBytes path generation mimetype engines content := by
  intro h
  unfold keyBytes at h
  simp only [List.append_assoc, List.cons_append, List.append_cancel_left_eq,
    List.append_cancel_right_eq, List.cons.injEq, true_and] at h
  have hcount := littleEndian64_eq_iff.1 h
  omega

end Pipeline

theorem PipelineBuilder.finalize_counting (b : PipelineBuilder σ) (n : Nat) :
    (b.counting n).finalize = b.finalize.map (·.counting n) := by
  rw [finalize_eq, finalize_eq]
  unfold counting
  dsimp only
  split
  · rfl
  · cases b.filetypes.finalize b.defaultFileType <;> rfl

/-! ## The history without the refused call -/

namespace Pipeline

/-- **A refused call leaves nothing but its count.**  A configuration call is refused, and
    others are made after it.  Without the refused call these have the same outcomes, and
    the builder is finished or refused with the same error.  If it is finished, the two
    pipelines answer every question alike, and leave the session in the same state, but for
    cache keys.  A key is the digest of the same bytes with the count in it; this is one more
    if the refused call would have changed loaders, so that other bytes are digested, and else
    the same. -/
theorem refused_leaves_count_only {b b' : PipelineBuilder σ} {refused : Step σ}
    {fault : RegistrationError} (h : refused.run b = .error fault b') (later : List (Step σ)) :
    b'.outcomes later = b.outcomes later ∧
    (∀ e, (later.foldl PipelineBuilder.after b').finalize = .error e ↔
      (later.foldl PipelineBuilder.after b).finalize = .error e) ∧
    ∀ p, (later.foldl PipelineBuilder.after b).finalize = .ok p →
      ∃ p', (later.foldl PipelineBuilder.after b').finalize = .ok p' ∧
        (∀ q, (∀ path, q ≠ .hash path) → ∀ s, p'.ask q s = p.ask q s) ∧
        (∀ path w e w', p'.hash path w = .error e w' ↔ p.hash path w = .error e w') ∧
        ∀ path w key w', p.hash path w = .ok key w' →
          ∃ mimetype engines content,
            key = Digest.hex (keyBytes path p.generation mimetype engines content) ∧
            p'.hash path w = .ok (Digest.hex (keyBytes path
              (p.generation + refused.countIfRefused) mimetype engines content)) w' ∧
            ((∃ extension change, refused = .editLoaders extension change) →
              keyBytes path (p.generation + refused.countIfRefused) mimetype engines content ≠
                keyBytes path p.generation mimetype engines content) := by
  obtain rfl := PipelineBuilder.run_eq_error h
  rw [PipelineBuilder.foldl_after_counting, PipelineBuilder.finalize_counting]
  refine ⟨PipelineBuilder.outcomes_counting b _ later, ?_, ?_⟩
  · intro e
    cases (later.foldl PipelineBuilder.after b).finalize with
    | ok p => exact ⟨fun hfail => (by cases hfail), fun hfail => (by cases hfail)⟩
    | error e' => rfl
  · intro p hp
    rw [hp]
    refine ⟨_, rfl, fun q hq s => ?_, fun path w e w' => p.hash_counting_eq_error_iff _, ?_⟩
    · rw [p.ask_counting _ hq]
    · intro path w key w' hkey
      obtain ⟨run, rfl, hafter⟩ := hash_eq_ok_iff.1 hkey
      refine ⟨run.plan.filetype.mimetype, run.plan.engines, run.content, rfl,
        hash_eq_ok_iff.2 ⟨run.counting _, rfl, hafter⟩, ?_⟩
      rintro ⟨extension, change, rfl⟩
      exact keyBytes_succ_ne path p.generation _ _ _

namespace Notes

/-- A second engine for a key. -/
def again : Step Unit := .registerEngine "tpl" engine

theorem run_again : again.run (steps.foldl PipelineBuilder.after (.new ⟨[], none⟩)) =
    .error (.duplicateEngine "tpl") (steps.foldl PipelineBuilder.after (.new ⟨[], none⟩)) := rfl

/-- An extension must not start with a period. -/
def misnamed : Step Unit := .editLoaders ".tpl" (· ++ [templates])

theorem run_misnamed (b : PipelineBuilder Unit) :
    misnamed.run b = .error (.invalidExtension ".tpl" .leadingPeriod) (b.counting 1) := rfl

theorem hash_css : pipeline.hash "a.css.txt" session.world =
    .ok (hashRun styleSheet hash_templates).key session.world :=
  hash_eq_ok_iff.2 ⟨hashRun styleSheet hash_templates, rfl, rfl⟩

end Notes

/-- An engine that is refused is not even seen in the keys. -/
theorem refused_leaves_count_only_again :
    ∃ key p', (Notes.steps.foldl PipelineBuilder.after (.new ⟨[], none⟩)).finalize = .ok p' ∧
      Notes.pipeline.hash "a.css.txt" Notes.session.world = .ok key Notes.session.world ∧
      p'.hash "a.css.txt" Notes.session.world = .ok key Notes.session.world ∧
      ∀ vars, p'.ask (.render "a.tpl.txt" vars) Notes.session =
        Notes.pipeline.ask (.render "a.tpl.txt" vars) Notes.session := by
  obtain ⟨-, -, hpipelines⟩ := refused_leaves_count_only Notes.run_again []
  obtain ⟨p', hp', hask, -, hhash⟩ := hpipelines _ Notes.finalize_steps
  obtain ⟨mimetype, engines, content, hkey, hkey', -⟩ := hhash _ _ _ _ Notes.hash_css
  refine ⟨_, p', hp', Notes.hash_css, ?_, ?_⟩
  · rw [hkey', hkey]
    rfl
  · intro vars
    exact hask _ (by simp) _

/-- The refused call is seen in the keys: a loader for a misnamed extension changes the key of a
    style sheet that has nothing to do with it. -/
theorem refused_loader_changes_key :
    ¬ ∀ (b b' : PipelineBuilder Unit) (refused : Step Unit) (fault : RegistrationError)
      (p p' : Pipeline Unit), Configured b → refused.run b = .error fault b' →
      b.finalize = .ok p → b'.finalize = .ok p' →
      ∀ path s, seen (p'.hash path s) = seen (p.hash path s) := by
  intro h
  have hsame := h _ _ Notes.misnamed _ Notes.pipeline (Notes.pipeline.counting 1)
    ((Configured.new _).foldl Notes.steps) (Notes.run_misnamed _) Notes.finalize_steps rfl
    "a.css.txt" Notes.session.world
  have hkey : (Notes.pipeline.counting 1).hash "a.css.txt" Notes.session.world = _ :=
    hash_eq_ok_iff.2 ⟨(Notes.hashRun Notes.styleSheet Notes.hash_templates).counting 1, rfl, rfl⟩
  rw [Notes.hash_css, hkey] at hsame
  have hkeys := Except.ok.inj hsame
  have hdigests : Digest.hex (keyBytes "a.css.txt" 5 "text/css" []
      (Digest.hex "x".toUTF8.toList)) ≠
      Digest.hex (keyBytes "a.css.txt" 4 "text/css" [] (Digest.hex "x".toUTF8.toList)) := by
    decide +kernel
  exact hdigests hkeys

end Pipeline

end RenderChain
