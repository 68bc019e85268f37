/-
  RenderChain/Proofs/Independence.lean
  ====================================
  **Configuration calls that do not see each other.**

  Every call acts on one target: a file type, the chain of an extension, the
  engine of an extension, the default loader or the default file type.  It
  changes what the builder holds of its target and nothing else
  (`held_after_of_ne`), and its outcome depends on what is held of its target
  and nothing else (`actsAlike`).  Calls with different targets can therefore be
  made in either order: each has the same outcome, and the builder holds the same
  in the end.

    * `similar_swap`: two neighbours can be swapped;
    * `Reordered`: histories in which calls in a row, all with different targets,
      change places, which comes to swaps (`Reordered.swapped`);
    * `Similar`: builders that hold the same of every target;
    * `similar_of_swapped`: swaps lead to similar builders, and every call keeps
      its outcome.
-/
import RenderChain.Proofs.LoaderIndex

namespace RenderChain

open PipelineBuilder (Step)

variable {σ : Type}

namespace PipelineBuilder

/-! ## Targets -/

/-- What a configuration call acts on. -/
inductive Target
  | filetype (mimetype : String)
  | loaders (extension : String)
  | engine (extension : String)
  | defaultLoader
  | defaultFileType
  deriving DecidableEq

def Step.target : Step σ → Target
  | .filetype mimetype | .editFileType mimetype _ => .filetype mimetype
  | .editLoaders extension _ => .loaders extension
  | .setDefaultLoader _ => .defaultLoader
  | .registerEngine extension _ => .engine extension
  | .setDefaultFileType _ => .defaultFileType

/-- What is registered for a target. -/
inductive Held (σ : Type)
  | filetype (ft : Option (FileType σ))
  | loaders (members : Option (List (Loader σ)))
  | engine (engine : Option (Engine σ))
  | defaultLoader (loader : Option (Loader σ))
  | defaultFileType (mimetype : Option String)

end PipelineBuilder

/-! ### Single registrations -/

namespace EngineRegistry

/-- The engine of an extension. -/
def find? (r : EngineRegistry σ) (extension : String) : Option (Engine σ) :=
  Keyed.find? extension (Keyed.ofList r.engines)

theorem find?_eq_some_iff {r : EngineRegistry σ} {extension : String} {engine : Engine σ} :
    r.find? extension = some engine ↔ (extension, engine) ∈ r.engines :=
  Keyed.find?_ofList_eq_some_iff r.nodup

theorem isSome_find?_iff {r : EngineRegistry σ} {extension : String} :
    (r.find? extension).isSome = true ↔ extension ∈ r.extensions := by
  rw [Option.isSome_iff_exists]
  constructor
  · rintro ⟨engine, h⟩
    exact List.mem_map.2 ⟨_, find?_eq_some_iff.1 h, rfl⟩
  · intro h
    obtain ⟨⟨extension', engine⟩, hmem, rfl⟩ := List.mem_map.1 h
    exact ⟨engine, find?_eq_some_iff.2 hmem⟩

/-- Whether an engine is refused depends on what is registered for its extension. -/
theorem register_map (r : EngineRegistry σ) (extension : String) (engine : Engine σ) :
    (r.register extension engine).map (fun _ => ()) =
      (Extension.check extension).bind fun _ =>
        if (r.find? extension).isSome then .error (.duplicateEngine extension) else .ok () := by
  rw [register_eq]
  cases Extension.check extension with
  | error fault => rfl
  | ok _ =>
    show Except.map _ (if h : extension ∈ r.extensions then _ else _) =
      (if (r.find? extension).isSome then _ else _)
    by_cases hold : extension ∈ r.extensions
    · rw [dif_pos hold, if_pos (isSome_find?_iff.2 hold)]
      rfl
    · rw [dif_neg hold, if_neg (mt isSome_find?_iff.1 hold)]
      rfl

theorem find?_register {r r' : EngineRegistry σ} {extension : String} {engine : Engine σ}
    (h : r.register extension engine = .ok r') (other : String) :
    r'.find? other = if other = extension then some engine else r.find? other := by
  have hput : Keyed.ofList (r.engines ++ [(extension, engine)]) =
      Keyed.put extension engine (Keyed.ofList r.engines) := by
    unfold Keyed.ofList
    rw [List.foldl_append]
    rfl
  unfold find?
  rw [engines_of_register h, hput, Keyed.find?_put]

end EngineRegistry

namespace PipelineBuilder

def held (b : PipelineBuilder σ) : Target → Held σ
  | .filetype mimetype => .filetype (b.filetypes.find? mimetype)
  | .loaders extension => .loaders (Keyed.find? extension b.loaders.chains)
  | .engine extension => .engine (b.engines.find? extension)
  | .defaultLoader => .defaultLoader b.loaders.default
  | .defaultFileType => .defaultFileType b.defaultFileType

/-! ## What a call does to its target -/

section Calls

variable {b b' : PipelineBuilder σ} {step : Step σ}

theorem find?_onFiletypes {mimetype : String} (h : step.target ≠ .filetype mimetype)
    (r : FileTypeRegistry σ) : (step.onFiletypes r).find? mimetype = r.find? mimetype := by
  have hput : ∀ {other : String} {ft : FileType σ}, ft.mimetype = other →
      Target.filetype other ≠ .filetype mimetype →
      (r.put ft).find? mimetype = r.find? mimetype := by
    intro other ft hft hne
    rw [FileTypeRegistry.find?_put, if_neg]
    rintro rfl
    exact hne (congrArg Target.filetype hft.symm)
  cases step with
  | filetype other => exact hput (r.mimetype_getOrEmpty other) h
  | editFileType other e =>
    rw [Step.onFiletypes, FileTypeRegistry.edit_eq]
    cases hedit : (r.getOrEmpty other).edit e with
    | error fault => rfl
    | ok ft =>
      exact hput ((FileType.mimetype_edit hedit).trans (r.mimetype_getOrEmpty other)) h
  | editLoaders | setDefaultLoader | registerEngine | setDefaultFileType => rfl

theorem find?_onEngines {extension : String} (h : step.target ≠ .engine extension)
    (r : EngineRegistry σ) : (step.onEngines r).find? extension = r.find? extension := by
  cases step with
  | registerEngine other engine =>
    rw [Step.onEngines]
    cases hregister : r.register other engine with
    | error fault => rfl
    | ok r' =>
      show r'.find? extension = _
      rw [EngineRegistry.find?_register hregister, if_neg]
      rintro rfl
      exact h rfl
  | filetype | editFileType | editLoaders | setDefaultLoader | setDefaultFileType => rfl

theorem default_onLoaders (h : step.target ≠ .defaultLoader) (r : LoaderRegistry σ) :
    (step.onLoaders r).default = r.default := by
  rcases r.onLoaders_cases step with hsame | ⟨loader, hset⟩ | ⟨extension, change, -, hput⟩
  · rw [hsame]
  · cases step with
    | setDefaultLoader loader => exact absurd rfl h
    | editLoaders extension change =>
      rw [Step.onLoaders, LoaderRegistry.edit_eq]
      cases Extension.check extension <;> rfl
    | filetype | editFileType | registerEngine | setDefaultFileType => rfl
  · rw [hput]

/-- A call leaves all targets but its own as they are. -/
theorem held_after_of_ne {t : Target} (h : step.target ≠ t) (b : PipelineBuilder σ) :
    (b.after step).held t = b.held t := by
  cases t with
  | filetype mimetype =>
    rw [after_eq]
    exact congrArg Held.filetype (find?_onFiletypes h b.filetypes)
  | loaders extension =>
    refine congrArg Held.loaders (find?_after ?_ b)
    rintro change rfl
    exact h rfl
  | engine extension =>
    rw [after_eq]
    exact congrArg Held.engine (find?_onEngines h b.engines)
  | defaultLoader =>
    rw [after_eq]
    exact congrArg Held.defaultLoader (default_onLoaders h b.loaders)
  | defaultFileType =>
    rw [after_eq]
    cases step with
    | setDefaultFileType mimetype => exact absurd rfl h
    | filetype | editFileType | editLoaders | setDefaultLoader | registerEngine => rfl

/-- What a call does, and what its caller gets, depends on what is held of its target. -/
structure ActsAlike (step : Step σ) (b b' : PipelineBuilder σ) : Prop where
  outcome : step.outcome b = step.outcome b'
  counted : b.isCounted step = b'.isCounted step
  held : (b.after step).held step.target = (b'.after step).held step.target

theorem actsAlike_filetype {mimetype : String}
    (h : b.filetypes.find? mimetype = b'.filetypes.find? mimetype) :
    ActsAlike (.filetype mimetype) b b' := by
  have hget := FileTypeRegistry.getOrEmpty_congr h
  have hmime := b.filetypes.mimetype_getOrEmpty mimetype
  have hmime' := b'.filetypes.mimetype_getOrEmpty mimetype
  refine ⟨?_, rfl, ?_⟩
  · rw [Step.outcome_eq, Step.outcome_eq]
    dsimp only [FileTypeRegistry.ensure]
    rw [FileTypeRegistry.getOrEmpty_put hmime, FileTypeRegistry.getOrEmpty_put hmime', hget]
  · rw [after_eq, after_eq]
    refine congrArg Held.filetype ?_
    dsimp only [Step.onFiletypes, FileTypeRegistry.ensure]
    rw [FileTypeRegistry.find?_put, FileTypeRegistry.find?_put, hmime, hmime', if_pos rfl,
      if_pos rfl, hget]

theorem actsAlike_editFileType {mimetype : String} {e : FileType.Edit σ}
    (h : b.filetypes.find? mimetype = b'.filetypes.find? mimetype) :
    ActsAlike (.editFileType mimetype e) b b' := by
  have hget := FileTypeRegistry.getOrEmpty_congr h
  have hmime := b.filetypes.mimetype_getOrEmpty mimetype
  refine ⟨?_, rfl, ?_⟩
  · rw [Step.outcome_eq, Step.outcome_eq]
    dsimp only
    rw [FileTypeRegistry.edit_eq, FileTypeRegistry.edit_eq, ← hget]
    cases hedit : (b.filetypes.getOrEmpty mimetype).edit e with
    | error fault => rfl
    | ok ft =>
      have hft := (FileType.mimetype_edit hedit).trans hmime
      show Except.ok (Shown.filetype ((b.filetypes.put ft).getOrEmpty mimetype)) =
        .ok (.filetype ((b'.filetypes.put ft).getOrEmpty mimetype))
      rw [FileTypeRegistry.getOrEmpty_put hft, FileTypeRegistry.getOrEmpty_put hft]
  · rw [after_eq, after_eq]
    refine congrArg Held.filetype ?_
    dsimp only [Step.onFiletypes]
    rw [FileTypeRegistry.edit_eq, FileTypeRegistry.edit_eq, ← hget]
    cases hedit : (b.filetypes.getOrEmpty mimetype).edit e with
    | error fault => exact h
    | ok ft =>
      have hft := (FileType.mimetype_edit hedit).trans hmime
      show (b.filetypes.put ft).find? mimetype = (b'.filetypes.put ft).find? mimetype
      rw [FileTypeRegistry.find?_put, FileTypeRegistry.find?_put, if_pos hft.symm,
        if_pos hft.symm]

theorem actsAlike_editLoaders {extension : String} {change : List (Loader σ) → List (Loader σ)}
    (hroots : b.loaders.roots = b'.loaders.roots)
    (h : Keyed.find? extension b.loaders.chains = Keyed.find? extension b'.loaders.chains) :
    ActsAlike (.editLoaders extension change) b b' := by
  have hchain : b.loaders.chainOf extension = b'.loaders.chainOf extension := by
    unfold LoaderRegistry.chainOf
    rw [h, hroots]
  refine ⟨?_, rfl, ?_⟩
  · rw [Step.outcome_eq, Step.outcome_eq]
    dsimp only
    rw [LoaderRegistry.edit_eq, LoaderRegistry.edit_eq, hchain]
    cases Extension.check extension <;> rfl
  · rw [after_eq, after_eq]
    refine congrArg Held.loaders ?_
    dsimp only [Step.onLoaders]
    rw [LoaderRegistry.edit_eq, LoaderRegistry.edit_eq, hchain]
    cases Extension.check extension with
    | error fault => exact h
    | ok _ => exact (Keyed.find?_put_self _ _ _).trans (Keyed.find?_put_self _ _ _).symm

theorem actsAlike_registerEngine {extension : String} {engine : Engine σ}
    (h : b.engines.find? extension = b'.engines.find? extension) :
    ActsAlike (.registerEngine extension engine) b b' := by
  have hrefusal : (b.engines.register extension engine).map (fun _ => ()) =
      (b'.engines.register extension engine).map fun _ => () := by
    rw [EngineRegistry.register_map, EngineRegistry.register_map, h]
  have hcounted : ∀ b : PipelineBuilder σ, b.isCounted (.registerEngine extension engine) =
    (b.engines.register extension engine).isOk := fun _ => rfl
  have hafter : ∀ b : PipelineBuilder σ, (b.after (.registerEngine extension engine)).engines =
      (b.engines.register extension engine).toOption.getD b.engines := by
    intro b
    rw [after_eq]
    rfl
  have houtcome := fun b : PipelineBuilder σ =>
    Step.outcome_eq b (.registerEngine extension engine)
  dsimp only at houtcome
  -- both registries refuse the engine for the same reason, or both take it
  cases hb : b.engines.register extension engine <;>
    cases hb' : b'.engines.register extension engine <;> rw [hb, hb'] at hrefusal <;>
    cases hrefusal
  next fault =>
    refine ⟨?_, ?_, congrArg Held.engine ?_⟩
    · rw [houtcome, houtcome, hb, hb']
    · rw [hcounted, hcounted, hb, hb']
    · rw [hafter, hafter, hb, hb']
      exact h
  next r r' =>
    refine ⟨?_, ?_, congrArg Held.engine ?_⟩
    · rw [houtcome, houtcome, hb, hb']
      rfl
    · rw [hcounted, hcounted, hb, hb']
      rfl
    · rw [hafter, hafter, hb, hb']
      show r.find? extension = r'.find? extension
      rw [EngineRegistry.find?_register hb, EngineRegistry.find?_register hb', if_pos rfl,
        if_pos rfl]

theorem actsAlike (hroots : b.loaders.roots = b'.loaders.roots)
    (h : b.held step.target = b'.held step.target) : ActsAlike step b b' := by
  cases step with
  | filetype mimetype => exact actsAlike_filetype (Held.filetype.inj h)
  | editFileType mimetype e => exact actsAlike_editFileType (Held.filetype.inj h)
  | editLoaders extension change => exact actsAlike_editLoaders hroots (Held.loaders.inj h)
  | registerEngine extension engine => exact actsAlike_registerEngine (Held.engine.inj h)
  | setDefaultLoader loader => exact ⟨rfl, rfl, rfl⟩
  | setDefaultFileType mimetype => exact ⟨rfl, rfl, rfl⟩

end Calls

/-! ## Similar builders -/

/-- Builders that hold the same of every target, and have counted the same calls. -/
structure Similar (b b' : PipelineBuilder σ) : Prop where
  context : b.context = b'.context
  roots : b.loaders.roots = b'.loaders.roots
  generation : b.generation = b'.generation
  held : ∀ t, b.held t = b'.held t

theorem roots_after (b : PipelineBuilder σ) (step : Step σ) :
    (b.after step).loaders.roots = b.loaders.roots := by
  rw [b.loaders_after]
  rcases b.loaders.onLoaders_cases step with hsame | ⟨loader, hset⟩ | ⟨extension, change, -, hput⟩
  · rw [hsame]
  · rw [hset]
    rfl
  · rw [hput]

namespace Similar

variable {b b' b'' : PipelineBuilder σ}

theorem refl (b : PipelineBuilder σ) : Similar b b := ⟨rfl, rfl, rfl, fun _ => rfl⟩

theorem trans (h : Similar b b') (h' : Similar b' b'') : Similar b b'' :=
  ⟨h.context.trans h'.context, h.roots.trans h'.roots, h.generation.trans h'.generation,
    fun t => (h.held t).trans (h'.held t)⟩

theorem after (h : Similar b b') (step : Step σ) : Similar (b.after step) (b'.after step) := by
  have hacts : ActsAlike step b b' := actsAlike h.roots (h.held step.target)
  refine ⟨?_, ?_, ?_, ?_⟩
  · rw [after_eq, after_eq]
    exact h.context
  · rw [roots_after, roots_after, h.roots]
  · rw [generation_after, generation_after, h.generation, hacts.counted]
  · intro t
    by_cases ht : step.target = t
    · rw [← ht, hacts.held]
    · rw [held_after_of_ne ht, held_after_of_ne ht, h.held]

theorem foldl (h : Similar b b') (steps : List (Step σ)) :
    Similar (steps.foldl PipelineBuilder.after b) (steps.foldl PipelineBuilder.after b') := by
  induction steps generalizing b b' with
  | nil => exact h
  | cons step rest ih => exact ih (h.after step)

theorem outcomes (h : Similar b b') (steps : List (Step σ)) :
    b.outcomes steps = b'.outcomes steps := by
  induction steps generalizing b b' with
  | nil => rfl
  | cons step rest ih =>
    unfold PipelineBuilder.outcomes
    rw [(actsAlike h.roots (h.held step.target)).outcome, ih (h.after step)]

end Similar

/-! ## Neighbours with different targets -/

section Neighbours

variable {first second : Step σ}

/-- A call acts as it would if the call before it, with another target, had not been made. -/
theorem actsAlike_after (h : first.target ≠ second.target) (b : PipelineBuilder σ) :
    ActsAlike second (b.after first) b :=
  actsAlike (b.roots_after first) (held_after_of_ne h b)

/-- Two calls with different targets can be made in either order. -/
theorem similar_swap (h : first.target ≠ second.target) (b : PipelineBuilder σ) :
    Similar ((b.after first).after second) ((b.after second).after first) := by
  have hsecond := actsAlike_after h b
  have hfirst := actsAlike_after (Ne.symm h) b
  refine ⟨?_, ?_, ?_, ?_⟩
  · simp only [after_eq]
  · simp only [roots_after]
  · rw [generation_after, generation_after, generation_after, generation_after,
      hsecond.counted, hfirst.counted, Nat.add_right_comm]
  · intro t
    by_cases ht : second.target = t
    · subst ht
      rw [hsecond.held, held_after_of_ne h]
    · rw [held_after_of_ne ht]
      by_cases ht' : first.target = t
      · subst ht'
        rw [hfirst.held]
      · rw [held_after_of_ne ht', held_after_of_ne ht', held_after_of_ne ht]

end Neighbours

/-! ## Reordered histories -/

/-- Histories that differ by swaps of neighbours with different targets. -/
inductive Swapped : List (Step σ) → List (Step σ) → Prop
  | refl (steps : List (Step σ)) : Swapped steps steps
  | swap {front back steps : List (Step σ)} {first second : Step σ}
      (h : first.target ≠ second.target)
      (rest : Swapped (front ++ second :: first :: back) steps) :
      Swapped (front ++ first :: second :: back) steps

theorem Swapped.trans {steps steps' steps'' : List (Step σ)} (h : Swapped steps steps')
    (h' : Swapped steps' steps'') : Swapped steps steps'' := by
  induction h with
  | refl steps => exact h'
  | swap hne _ ih => exact .swap hne (ih h')

/-- Calls that all have different targets are put in any order by swaps. -/
theorem Swapped.of_perm {block block' : List (Step σ)} (h : block.Perm block')
    (htargets : block.Pairwise fun first second => first.target ≠ second.target)
    (front back : List (Step σ)) :
    Swapped (front ++ block ++ back) (front ++ block' ++ back) := by
  induction h generalizing front with
  | nil => exact .refl _
  | cons step _ ih =>
    have hmoved := ih (List.pairwise_cons.1 htargets).2 (front ++ [step])
    simpa using hmoved
  | swap second first rest =>
    have hne := (List.pairwise_cons.1 htargets).1 second List.mem_cons_self
    rw [List.append_assoc, List.append_assoc]
    exact .swap hne (.refl _)
  | trans h _ ih ih' =>
    refine (ih htargets front).trans (ih' ?_ front)
    exact htargets.perm h fun hne => Ne.symm hne

/-- Histories in which calls in a row, all with different targets, change places; two
    neighbours that are swapped are the smallest case. -/
inductive Reordered : List (Step σ) → List (Step σ) → Prop
  | refl (steps : List (Step σ)) : Reordered steps steps
  | permute {front block block' back steps : List (Step σ)} (hperm : block.Perm block')
      (htargets : block.Pairwise fun first second => first.target ≠ second.target)
      (rest : Reordered (front ++ block' ++ back) steps) :
      Reordered (front ++ block ++ back) steps

theorem Reordered.swapped {steps steps' : List (Step σ)} (h : Reordered steps steps') :
    Swapped steps steps' := by
  induction h with
  | refl steps => exact .refl steps
  | permute hperm htargets _ ih => exact (Swapped.of_perm hperm htargets _ _).trans ih

/-- The calls on a target, each with its outcome. -/
def callsOn (t : Target) (b : PipelineBuilder σ) (steps : List (Step σ)) :
    List (Step σ × Except RegistrationError (Shown σ)) :=
  (steps.zip (b.outcomes steps)).filter fun call => call.1.target = t

theorem callsOn_cons (t : Target) (b : PipelineBuilder σ) (step : Step σ)
    (rest : List (Step σ)) :
    callsOn t b (step :: rest) =
      if step.target = t then (step, step.outcome b) :: callsOn t (b.after step) rest
      else callsOn t (b.after step) rest := by
  have houtcomes : b.outcomes (step :: rest) =
    step.outcome b :: (b.after step).outcomes rest := rfl
  unfold callsOn
  rw [houtcomes, List.zip_cons_cons, List.filter_cons]
  simp only [decide_eq_true_eq]

theorem callsOn_append (t : Target) (b : PipelineBuilder σ) (front back : List (Step σ)) :
    callsOn t b (front ++ back) =
      callsOn t b front ++ callsOn t (front.foldl PipelineBuilder.after b) back := by
  induction front generalizing b with
  | nil => rfl
  | cons step rest ih =>
    rw [List.cons_append, callsOn_cons, callsOn_cons, ih, List.foldl_cons]
    split <;> rfl

theorem Similar.callsOn {b b' : PipelineBuilder σ} (h : Similar b b') (t : Target)
    (steps : List (Step σ)) : callsOn t b steps = PipelineBuilder.callsOn t b' steps := by
  unfold PipelineBuilder.callsOn
  rw [h.outcomes]

/-- Swaps lead to similar builders, and every call keeps its outcome. -/
theorem similar_of_swapped {steps steps' : List (Step σ)} (h : Swapped steps steps')
    (b : PipelineBuilder σ) :
    Similar (steps.foldl after b) (steps'.foldl after b) ∧
      ∀ t, callsOn t b steps = callsOn t b steps' := by
  induction h with
  | refl steps => exact ⟨.refl _, fun t => rfl⟩
  | @swap front back steps first second hne rest ih =>
    have hswap := similar_swap hne (front.foldl after b)
    constructor
    · refine Similar.trans ?_ ih.1
      rw [List.foldl_append, List.foldl_append]
      exact hswap.foldl back
    · intro t
      rw [← ih.2 t, callsOn_append, callsOn_append, callsOn_cons, callsOn_cons, callsOn_cons,
        callsOn_cons, hswap.callsOn, (actsAlike_after hne _).outcome,
        (actsAlike_after (Ne.symm hne) _).outcome]
      by_cases hfirst : first.target = t
      · rw [if_pos hfirst, if_neg (fun hsecond => hne (hfirst.trans hsecond.symm)),
          if_neg (fun hsecond => hne (hfirst.trans hsecond.symm)), if_pos hfirst]
      · rw [if_neg hfirst, if_neg hfirst]

end PipelineBuilder

end RenderChain
