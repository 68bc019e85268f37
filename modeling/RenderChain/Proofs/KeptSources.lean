/-
  RenderChain/Proofs/KeptSources.lean
  ===================================
  **What a renderer has kept does not show in a rendering.**

  A rendering reads the templates that it includes, and hands on their sources for
  the renderings to come.  As long as they are what would be read again, they
  change nothing: two runs that differ in no more than kept sources stay so, step
  by step, and come to the same value or the same fault.  Steps with this property
  are called quiet.  All steps are: one asks for a template by its name and finds
  it among the kept sources or reads it, and no other step looks at them.

    * `Quiet.bind`, `Quiet.modify`, …: steps made of quiet steps are quiet;
    * `AllQuiet.succ`: with more fuel, all functions of the evaluator are quiet if
      they were so with less;
    * `render_of_kept`: so the output depends on the template, its variables and
      the sources that can be read, and what is kept can be read again.
-/
import RenderChain.Jinja.Evaluate
import RenderChain.Proofs.Agreement

namespace RenderChain.Jinja

variable {α β : Type} {sourceOf : SourceOf}

/-! ## Runs that differ in what they have kept -/

/-- Kept sources that would be read again. -/
def Kept (sourceOf : SourceOf) (sources : List (String × String)) : Prop :=
  ∀ e ∈ sources, sourceOf e.1 = .ok (some e.2)

theorem Kept.of_lookup {sources : List (String × String)} (h : Kept sourceOf sources)
    {name source : String} (hfound : sources.lookup name = some source) :
    sourceOf name = .ok (some source) := by
  obtain ⟨front, back, rfl, -⟩ := List.lookup_eq_some_iff.1 hfound
  exact h (name, source) (by simp)

theorem Kept.cons {sources : List (String × String)} (h : Kept sourceOf sources)
    {name source : String} (hread : sourceOf name = .ok (some source)) :
    Kept sourceOf ((name, source) :: sources) := by
  rintro e (_ | ⟨_, he⟩)
  · exact hread
  · exact h e he

inductive SameButKept (sourceOf : SourceOf) : Run → Run → Prop
  | mk (r : Run) {sources sources' : List (String × String)} (h : Kept sourceOf sources)
      (h' : Kept sourceOf sources') :
      SameButKept sourceOf { r with sources := sources } { r with sources := sources' }

theorem SameButKept.kept {r r' : Run} (h : SameButKept sourceOf r r') :
    Kept sourceOf r.sources := by
  cases h with
  | mk _ h _ => exact h

/-- A step that comes to the same from runs that differ in what they have kept. -/
def Quiet (sourceOf : SourceOf) (x : Eval α) : Prop := Agree (SameButKept sourceOf) Eq x x

/-- A statement about a value that may not mention it.  Rules for `grind` need this form:
    it only instantiates a hypothesis about all values if the value occurs in it. -/
def About (_ : α) (P : Prop) : Prop := P

@[grind =]
theorem about_iff {a : α} {P : Prop} : About a P ↔ P := .rfl

/-! ### Templates by name -/

/-- A template is the same whether its source was kept or is read. -/
theorem templateOf_of_kept {c : Scope} {sources : List (String × String)}
    (h : Kept c.sourceOf sources) (line : Nat) (name : String) (r : Run) :
    templateOf c line name { r with sources := sources } =
      match c.sourceOf name with
      | .error f => .error (f.located ⟨c.template, line⟩) { r with sources := sources }
      | .ok none => .ok none { r with sources := sources }
      | .ok (some source) =>
        match Template.parse name source with
        | .error f => .error (f.located ⟨c.template, line⟩) { r with sources := sources }
        | .ok t => .ok (some t) { r with
            sources := if (sources.lookup name).isSome then sources
              else (name, source) :: sources } := by
  unfold templateOf
  rw [bind_of_ok (show (get : Eval Run) { r with sources := sources } = .ok _ _ from rfl)]
  cases hfound : sources.lookup name with
  | some source =>
    rw [h.of_lookup hfound]
    dsimp only
    cases Template.parse name source <;> rfl
  | none =>
    cases c.sourceOf name with
    | error f => rfl
    | ok found =>
      cases found with
      | none => rfl
      | some source =>
        show (c.at_ line (Template.parse name source) >>= _ : Eval _) _ = _
        dsimp only
        cases Template.parse name source <;> rfl

namespace Quiet

/-! ### Rules -/

@[grind ←]
theorem pure (a : α) : Quiet sourceOf (Pure.pure a : Eval α) := Agree.pure rfl

@[grind ←]
theorem throw (f : Fault) : Quiet sourceOf (MonadExcept.throw f : Eval α) := Agree.throw f

@[grind ←]
theorem bind {x : Eval α} {f : α → Eval β} (hx : Quiet sourceOf x)
    (hf : ∀ a, About a (Quiet sourceOf (f a))) : Quiet sourceOf (x >>= f) :=
  Agree.bind_eq hx hf

/-- What is done with the run does not depend on what it has kept. -/
@[grind ←]
theorem read {f : Run → Eval β}
    (hblind : ∀ r sources, About (r, sources) (f { r with sources := sources } = f r))
    (hf : ∀ r, About r (Quiet sourceOf (f r))) : Quiet sourceOf (get >>= f) := by
  rintro _ _ ⟨r, h, h'⟩
  rename_i sources sources'
  have hleft : f { r with sources := sources } = f r := hblind r sources
  have hright : f { r with sources := sources' } = f r := hblind r sources'
  show Agreed _ _ (f { r with sources := sources } _) (f { r with sources := sources' } _)
  rw [hleft, hright]
  exact hf r _ _ ⟨r, h, h'⟩

/-- The run is replaced by one that has kept the same, and what follows does not depend on
    what that is. -/
theorem replace {g : Run → Run} {f : Run → Eval β}
    (hg : ∀ r sources, g { r with sources := sources } = { g r with sources := sources })
    (hblind : ∀ r sources, f { r with sources := sources } = f r)
    (hf : ∀ r, Quiet sourceOf (f r)) :
    Quiet sourceOf (do let r ← get; set (g r); f r) := by
  rintro _ _ ⟨r, h, h'⟩
  rename_i sources sources'
  show Agreed _ _ (f { r with sources := sources } (g { r with sources := sources }))
    (f { r with sources := sources' } (g { r with sources := sources' }))
  rw [hblind, hblind r sources', hg, hg r sources']
  exact hf r _ _ ⟨g r, h, h'⟩

/-- What is done to the run does not depend on what it has kept, and leaves that alone. -/
@[grind ←]
theorem modify {f : Run → Run}
    (hf : ∀ r sources, About (r, sources)
      (f { r with sources := sources } = { f r with sources := sources })) :
    Quiet sourceOf (modify f) := by
  rintro _ _ ⟨r, h, h'⟩
  rename_i sources sources'
  have hleft : f { r with sources := sources } = { f r with sources := sources } := hf r sources
  have hright : f { r with sources := sources' } = { f r with sources := sources' } :=
    hf r sources'
  show Agreed _ _ (.ok () (f { r with sources := sources }))
    (.ok () (f { r with sources := sources' }))
  rw [hleft, hright]
  exact .ok rfl ⟨f r, h, h'⟩

theorem modifyGet {f : Run → α × Run}
    (hf : ∀ r sources,
      f { r with sources := sources } = ((f r).1, { (f r).2 with sources := sources })) :
    Quiet sourceOf (modifyGet f) := by
  rintro _ _ ⟨r, h, h'⟩
  rename_i sources sources'
  have hleft := hf r sources
  have hright := hf r sources'
  show Agreed _ _ (match f { r with sources := sources } with | (a, r) => .ok a r)
    (match f { r with sources := sources' } with | (a, r) => .ok a r)
  rw [hleft, hright]
  exact .ok rfl ⟨(f r).2, h, h'⟩

@[grind ←]
theorem tryCatch {x : Eval α} {f : Fault → Eval α} (hx : Quiet sourceOf x)
    (hf : ∀ fault, About fault (Quiet sourceOf (f fault))) :
    Quiet sourceOf (tryCatch x f) := by
  intro r r' hr
  have h := hx r r' hr
  show Agreed _ _ (EStateM.tryCatch x f r) (EStateM.tryCatch x f r')
  unfold EStateM.tryCatch
  generalize x r = result at h ⊢
  generalize x r' = result' at h ⊢
  cases h with
  | ok hr hs => exact .ok hr hs
  | error hs => exact hf _ _ _ hs

section Lists

variable {γ : Type}

@[grind ←]
theorem mapM {f : γ → Eval α} {items : List γ} (h : ∀ c, About c (Quiet sourceOf (f c))) :
    Quiet sourceOf (items.mapM f) := by
  induction items with
  | nil => exact .pure _
  | cons item rest ih =>
    rw [List.mapM_cons]
    exact .bind (h item) fun a => .bind ih fun others => .pure _

@[grind ←]
theorem forM {f : γ → Eval Unit} {items : List γ} (h : ∀ c, About c (Quiet sourceOf (f c))) :
    Quiet sourceOf (items.forM f) := by
  induction items with
  | nil => exact .pure _
  | cons item rest ih => exact .bind (h item) fun _ => ih

@[grind ←]
theorem foldlM {f : α → γ → Eval α} {items : List γ}
    (h : ∀ a c, About (a, c) (Quiet sourceOf (f a c))) (a : α) :
    Quiet sourceOf (items.foldlM f a) :=
  Agree.foldlM (fun b item _ => h b item) a

@[grind ←]
theorem filterM {f : γ → Eval Bool} {items : List γ}
    (h : ∀ c, About c (Quiet sourceOf (f c))) : Quiet sourceOf (items.filterM f) := by
  -- The items that are kept are collected while the list is filtered.
  have haux : ∀ (items kept : List γ), Quiet sourceOf (items.filterAuxM f kept) := by
    intro items
    induction items with
    | nil => exact fun kept => .pure kept
    | cons item rest ih => exact fun kept => .bind (h item) fun keeps => ih _
  exact .bind (haux items []) fun kept => .pure _

end Lists

/-! ### Small steps -/

@[grind ←]
theorem at_ (c : Scope) (line : Nat) (result : Except Fault α) :
    Quiet sourceOf (c.at_ line result) := by
  cases result with
  | ok a => exact .pure a
  | error f => exact .throw _

@[grind ←]
theorem fault (c : Scope) (line : Nat) (f : Fault) :
    Quiet sourceOf (c.fault line f : Eval α) := .throw _

/-- After a fault nothing is run. -/
@[grind ←]
theorem bind_fault (c : Scope) (line : Nat) (f : Fault) (g : α → Eval β) :
    Quiet sourceOf (c.fault line f >>= g) :=
  fun _ _ hr => .error hr

@[grind ←]
theorem templateOf {c : Scope} (hc : c.sourceOf = sourceOf) (line : Nat) (name : String) :
    Quiet sourceOf (templateOf c line name) := by
  subst hc
  rintro _ _ ⟨r, h, h'⟩
  rw [templateOf_of_kept h, templateOf_of_kept h']
  cases hread : c.sourceOf name with
  | error f => exact .error ⟨r, h, h'⟩
  | ok found =>
    cases found with
    | none => exact .ok rfl ⟨r, h, h'⟩
    | some source =>
      have hkept : ∀ sources : List (String × String), Kept c.sourceOf sources →
          Kept c.sourceOf (if (sources.lookup name).isSome then sources
            else (name, source) :: sources) := by
        intro sources hsources
        split
        · exact hsources
        · exact hsources.cons hread
      dsimp only
      cases Template.parse name source with
      | error f => exact .error ⟨r, h, h'⟩
      | ok t => exact .ok rfl ⟨r, hkept _ h, hkept _ h'⟩

@[grind ←]
theorem lookup (c : Scope) (name : String) : Quiet sourceOf (lookup c name) :=
  .read (fun _ _ => rfl) fun _ => .pure _

@[grind ←]
theorem distinct (v : Value) : Quiet sourceOf (distinct v) := modifyGet fun _ _ => rfl

@[grind ←]
theorem hasChanged (loop : LoopState) (arguments : List Value) :
    Quiet sourceOf (hasChanged loop arguments) := modifyGet fun _ _ => rfl

@[grind ←]
theorem leave : Quiet sourceOf leave := modify fun _ _ => rfl

@[grind ←]
theorem isDropping (c : Scope) : Quiet sourceOf (isDropping c) :=
  .read (fun _ _ => rfl) fun _ => .pure _

@[grind ←]
theorem deeper (c : Scope) (line cost : Nat) : Quiet sourceOf (c.deeper line cost) := by
  unfold Scope.deeper
  grind

/-- A deeper scope reads the same sources. -/
theorem bind_deeper {c : Scope} (hc : c.sourceOf = sourceOf) {line cost : Nat}
    {f : Scope → Eval β} (hf : ∀ d, d.sourceOf = sourceOf → Quiet sourceOf (f d)) :
    Quiet sourceOf (c.deeper line cost >>= f) := by
  have hdeeper : Agree (SameButKept sourceOf) (fun d d' => d = d' ∧ d.sourceOf = sourceOf)
      (c.deeper line cost) (c.deeper line cost) := by
    unfold Scope.deeper
    rintro _ _ ⟨r, h, h'⟩
    rename_i sources sources'
    show Agreed _ _
      ((if depthLimit < c.depth + cost + r.frames.length then _ else _ : Eval Scope) _)
      ((if depthLimit < c.depth + cost + r.frames.length then _ else _ : Eval Scope) _)
    split
    · exact .error ⟨r, h, h'⟩
    · exact .ok ⟨rfl, hc⟩ ⟨r, h, h'⟩
  refine hdeeper.bind ?_
  rintro d _ ⟨rfl, hd⟩
  exact hf d hd

@[grind ←]
theorem enter (c : Scope) (line : Nat) (f : Frame) : Quiet sourceOf (c.enter line f) := by
  unfold Scope.enter
  grind

@[grind ←]
theorem apart {x : Eval α} (hx : Quiet sourceOf x) : Quiet sourceOf (apart x) := by
  unfold Jinja.apart
  refine .read (fun _ _ => rfl) fun r => ?_
  grind

end Quiet

/-! ### Frames -/

namespace Run

variable (r : Run) (sources : List (String × String))

@[grind =]
theorem store_with_sources (name : String) (v : Value) :
    ({ r with sources := sources }).store name v = { r.store name v with sources := sources } := by
  unfold store
  obtain ⟨frames, _⟩ := r
  cases frames <;> rfl

@[grind =]
theorem modifyFrame_with_sources (change : Frame → Frame) :
    ({ r with sources := sources }).modifyFrame change =
      { r.modifyFrame change with sources := sources } := by
  unfold modifyFrame
  obtain ⟨frames, _⟩ := r
  cases frames <;> rfl

@[grind =]
theorem loop?_with_sources : ({ r with sources := sources }).loop? = r.loop? := rfl

@[grind =]
theorem addBlocks_with_sources (t : Template) :
    ({ r with sources := sources }).addBlocks t = { r.addBlocks t with sources := sources } :=
  rfl

@[grind =]
theorem setDepth_with_sources (block : String) (depth : Nat) :
    ({ r with sources := sources }).setDepth block depth =
      { r.setDepth block depth with sources := sources } := rfl

theorem withCapture_with_sources :
    ({ r with sources := sources }).withCapture =
      (r.withCapture.1, { r.withCapture.2 with sources := sources }) := by
  unfold withCapture
  dsimp only
  cases r.frames.head?.bind (·.capture) with
  | some number => rfl
  | none =>
    dsimp only
    rw [modifyFrame_with_sources]

end Run

@[grind ←]
theorem Quiet.procedureHere (c : Scope) (name : String)
    (parameters : List (String × Option Expr)) (body : List Statement) :
    Quiet sourceOf (procedureHere c name parameters body) := by
  refine .modifyGet ?_
  intro r sources
  dsimp only
  split
  · rfl
  · rw [Run.withCapture_with_sources]
    rfl

/-! ## The evaluator -/

/-- With this fuel all functions of the evaluator are quiet. -/
structure AllQuiet (sourceOf : SourceOf) (fuel : Nat) : Prop where
  eval : ∀ c, c.sourceOf = sourceOf → ∀ e, Quiet sourceOf (eval fuel c e)
  evalComparison : ∀ c, c.sourceOf = sourceOf → ∀ e, Quiet sourceOf (evalComparison fuel c e)
  evalAll : ∀ c, c.sourceOf = sourceOf → ∀ es, Quiet sourceOf (evalAll fuel c es)
  evalBoth : ∀ c, c.sourceOf = sourceOf → ∀ l r, Quiet sourceOf (evalBoth fuel c l r)
  evalArguments : ∀ c, c.sourceOf = sourceOf → ∀ e arguments line,
    Quiet sourceOf (evalArguments fuel c e arguments line)
  evalCall : ∀ c, c.sourceOf = sourceOf → ∀ callee arguments line,
    Quiet sourceOf (evalCall fuel c callee arguments line)
  callMethod : ∀ c, c.sourceOf = sourceOf → ∀ v name values line,
    Quiet sourceOf (callMethod fuel c v name values line)
  callValue : ∀ c, c.sourceOf = sourceOf → ∀ f arguments line,
    Quiet sourceOf (callValue fuel c f arguments line)
  callProcedure : ∀ c, c.sourceOf = sourceOf → ∀ p arguments line,
    Quiet sourceOf (callProcedure fuel c p arguments line)
  assign : ∀ c, c.sourceOf = sourceOf → ∀ t v, Quiet sourceOf (assign fuel c t v)
  exec : ∀ c, c.sourceOf = sourceOf → ∀ statements, Quiet sourceOf (exec fuel c statements)
  catchText : ∀ c, c.sourceOf = sourceOf → ∀ statements,
    Quiet sourceOf (catchText fuel c statements)
  runBody : ∀ c, c.sourceOf = sourceOf → ∀ body, Quiet sourceOf (runBody fuel c body)
  runLoop : ∀ c, c.sourceOf = sourceOf → ∀ repetition recursive items,
    Quiet sourceOf (runLoop fuel c repetition recursive items)
  recurse : ∀ c, c.sourceOf = sourceOf → ∀ repetition v line,
    Quiet sourceOf (recurse fuel c repetition v line)
  select : ∀ c, c.sourceOf = sourceOf → ∀ target condition items line conditionLine,
    Quiet sourceOf (select fuel c target condition items line conditionLine)
  showBlock : ∀ c, c.sourceOf = sourceOf → ∀ name required line,
    Quiet sourceOf (showBlock fuel c name required line)
  showLayer : ∀ c, c.sourceOf = sourceOf → ∀ layers line,
    Quiet sourceOf (showLayer fuel c layers line)
  superBlock : ∀ c, c.sourceOf = sourceOf → ∀ line, Quiet sourceOf (superBlock fuel c line)
  runIncluded : ∀ c, c.sourceOf = sourceOf → ∀ t line,
    Quiet sourceOf (runIncluded fuel c t line)
  includeFirst : ∀ c, c.sourceOf = sourceOf → ∀ names missing tried line,
    Quiet sourceOf (includeFirst fuel c names missing tried line)
  importFrom : ∀ c, c.sourceOf = sourceOf → ∀ e line read, Quiet sourceOf read →
    Quiet sourceOf (importFrom fuel c e line read)
  execOne : ∀ c, c.sourceOf = sourceOf → ∀ s, Quiet sourceOf (execOne fuel c s)

/-! With one more unit of fuel each function is a sequence of the steps above and of calls
with the fuel of the hypothesis.  The calls are at scopes that read the same sources as
`c`: at `c`, at `c` with another field changed, or at one that is deeper. -/

section Step

variable {fuel : Nat} {c : Scope} (h : AllQuiet sourceOf fuel) (hc : c.sourceOf = sourceOf)

include h hc

/-! ### Expressions -/

theorem quiet_eval_succ (e : Expr) : Quiet sourceOf (eval (fuel + 1) c e) := by
  unfold eval
  cases e <;> grind [AllQuiet]

theorem quiet_evalComparison_succ (e : Expr) :
    Quiet sourceOf (evalComparison (fuel + 1) c e) := by
  unfold evalComparison
  cases e <;> grind [AllQuiet]

theorem quiet_evalAll_succ (es : List Expr) : Quiet sourceOf (evalAll (fuel + 1) c es) := by
  have heval := h.eval c hc
  unfold evalAll
  refine .read (fun _ _ => rfl) fun r => ?_
  refine .bind (.mapM ?_) fun values => ?_
  · grind
  · grind

theorem quiet_evalBoth_succ (l r : Expr) : Quiet sourceOf (evalBoth (fuel + 1) c l r) := by
  unfold evalBoth
  grind [AllQuiet]

theorem quiet_evalArguments_succ (e : Expr) (arguments : List (Passing × Expr)) (line : Nat) :
    Quiet sourceOf (evalArguments (fuel + 1) c e arguments line) := by
  unfold evalArguments
  grind [AllQuiet]

/-! ### Calls -/

theorem quiet_evalCall_succ (callee : Expr) (arguments : List (Passing × Expr)) (line : Nat) :
    Quiet sourceOf (evalCall (fuel + 1) c callee arguments line) := by
  unfold evalCall
  split
  · refine .bind (h.evalAll c hc _) fun values => .bind (.at_ c line _) fun values => ?_
    split
    · grind [AllQuiet]
    · grind [AllQuiet]
  · grind [AllQuiet]
  · grind [AllQuiet]
  · grind [AllQuiet]

theorem quiet_callMethod_succ (v : Value) (name : String) (values : List Value) (line : Nat) :
    Quiet sourceOf (callMethod (fuel + 1) c v name values line) := by
  unfold callMethod
  grind [AllQuiet]

theorem quiet_callValue_succ (f : Value) (arguments : List Value) (line : Nat) :
    Quiet sourceOf (callValue (fuel + 1) c f arguments line) := by
  unfold callValue
  grind [AllQuiet]

theorem quiet_callProcedure_succ (p : Procedure) (arguments : List Value) (line : Nat) :
    Quiet sourceOf (callProcedure (fuel + 1) c p arguments line) := by
  unfold callProcedure
  refine .bind (.at_ c line _) fun (values, caller) => ?_
  refine .replace (fun _ _ => rfl) (fun _ _ => rfl) fun before => .bind_deeper hc fun d hd => ?_
  grind [AllQuiet]

/-! ### Statements -/

theorem quiet_assign_succ (t : Target) (v : Value) :
    Quiet sourceOf (assign (fuel + 1) c t v) := by
  unfold assign
  cases t <;> grind [AllQuiet]

theorem quiet_exec_succ (statements : List Statement) :
    Quiet sourceOf (exec (fuel + 1) c statements) := by
  unfold exec
  grind [AllQuiet]

theorem quiet_catchText_succ (statements : List Statement) :
    Quiet sourceOf (catchText (fuel + 1) c statements) := by
  unfold catchText
  grind [AllQuiet]

theorem quiet_runBody_succ (body : List Statement) :
    Quiet sourceOf (runBody (fuel + 1) c body) := by
  unfold runBody
  refine .bind (h.exec c hc body) fun text => .read (fun _ _ => rfl) fun r => ?_
  cases r.parent with
  | none => exact .pure _
  | some t => grind [AllQuiet]

theorem quiet_runLoop_succ (repetition : Repetition) (recursive : Bool) (items : List Value) :
    Quiet sourceOf (runLoop (fuel + 1) c repetition recursive items) := by
  unfold runLoop
  refine .read (fun _ _ => rfl) fun r => .read (fun _ _ => rfl) fun r' => ?_
  refine .bind (.modify fun _ _ => rfl) fun _ => .bind (.enter c _ _) fun _ => ?_
  refine .bind (.foldlM ?_ _) fun text => ?_
  · -- One round: the frame of the loop is set for the item, and the body is run.
    rintro text ⟨⟨v, previous, next⟩, i⟩
    refine .bind (.modify fun r sources => ?_) fun _ => ?_
    · exact r.modifyFrame_with_sources sources _
    · grind [AllQuiet]
  · grind

theorem quiet_recurse_succ (repetition : Option Repetition) (v : Value) (line : Nat) :
    Quiet sourceOf (recurse (fuel + 1) c repetition v line) := by
  unfold recurse
  cases repetition with
  | none => exact .fault c line _
  | some repetition =>
    dsimp only
    cases iterate v with
    | error f => exact .fault c _ _
    | ok items => grind [AllQuiet]

theorem quiet_select_succ (target : Target) (condition : Expr) (items : List Value)
    (line conditionLine : Nat) :
    Quiet sourceOf (select (fuel + 1) c target condition items line conditionLine) := by
  unfold select
  refine .bind (.enter c line _) fun _ => .bind (.filterM ?_) fun kept => ?_
  · grind [AllQuiet]
  · grind

theorem quiet_showBlock_succ (name : String) (required : Bool) (line : Nat) :
    Quiet sourceOf (showBlock (fuel + 1) c name required line) := by
  unfold showBlock
  refine .read (fun _ _ => rfl) fun r => ?_
  split
  · exact .pure _
  · refine .read (fun _ _ => rfl) fun r' => ?_
    grind [AllQuiet]

theorem quiet_showLayer_succ (layers : Layers) (line : Nat) :
    Quiet sourceOf (showLayer (fuel + 1) c layers line) := by
  unfold showLayer
  cases layers.bodies[layers.depth]? with
  | none => exact .fault c line _
  | some layer =>
    refine .read (fun _ _ => rfl) fun r => .bind (.modify fun _ _ => rfl) fun _ => ?_
    refine .bind (.enter c line _) fun _ => ?_
    grind [AllQuiet]

theorem quiet_superBlock_succ (line : Nat) :
    Quiet sourceOf (superBlock (fuel + 1) c line) := by
  unfold superBlock
  refine .read (fun _ _ => rfl) fun r => ?_
  dsimp only
  split
  · exact .fault c line _
  · split
    · exact .bind_fault c line _ _
    · grind [AllQuiet]

theorem quiet_runIncluded_succ (t : Template) (line : Nat) :
    Quiet sourceOf (runIncluded (fuel + 1) c t line) := by
  unfold runIncluded
  refine .bind_deeper hc fun d hd => .bind (.isDropping c) fun dropping => ?_
  refine .replace ?_ (fun _ _ => rfl) fun before => ?_
  · intro r sources
    rw [r.modifyFrame_with_sources]
  · grind [AllQuiet]

theorem quiet_includeFirst_succ (names : List Value) (missing : Fault ⊕ Bool)
    (tried : List String) (line : Nat) :
    Quiet sourceOf (includeFirst (fuel + 1) c names missing tried line) := by
  unfold includeFirst
  cases names <;> grind [AllQuiet]

theorem quiet_importFrom_succ (e : Expr) (line : Nat) {read : Eval (List Value)}
    (hread : Quiet sourceOf read) :
    Quiet sourceOf (importFrom (fuel + 1) c e line read) := by
  unfold importFrom
  refine .bind (.enter c line _) fun _ => .bind (h.eval c hc e) fun v => ?_
  grind [AllQuiet]

theorem quiet_execOne_succ (s : Statement) : Quiet sourceOf (execOne (fuel + 1) c s) := by
  unfold execOne
  cases s
  case data => grind [AllQuiet]
  case emit => split <;> grind [AllQuiet]
  case forLoop => grind [AllQuiet]
  case branch => grind [AllQuiet]
  case scope => grind [AllQuiet]
  case assign => grind [AllQuiet]
  case capture => grind [AllQuiet]
  case escaping => grind [AllQuiet]
  case filtered => grind [AllQuiet]
  case block => grind [AllQuiet]
  case inherit e line =>
    refine .bind (h.eval c hc e) fun v => .read (fun _ _ => rfl) fun r => ?_
    cases v <;> grind
  case insert => grind [AllQuiet]
  case importAll => grind [AllQuiet]
  case importNames => grind [AllQuiet]
  case define => grind [AllQuiet]
  case perform => grind [AllQuiet]
  case callWith => grind [AllQuiet]

end Step

/-! ### Any fuel -/

namespace AllQuiet

theorem zero : AllQuiet sourceOf 0 := by
  constructor
  all_goals
    intros
    simp only [Jinja.eval, Jinja.evalComparison, Jinja.evalAll, Jinja.evalBoth,
      Jinja.evalArguments, Jinja.evalCall, Jinja.callMethod, Jinja.callValue,
      Jinja.callProcedure, Jinja.assign, Jinja.exec, Jinja.catchText, Jinja.runBody,
      Jinja.runLoop, Jinja.recurse, Jinja.select, Jinja.showBlock, Jinja.showLayer,
      Jinja.superBlock, Jinja.runIncluded, Jinja.includeFirst, Jinja.importFrom, Jinja.execOne]
    exact .throw exhausted

theorem succ {fuel : Nat} (h : AllQuiet sourceOf fuel) : AllQuiet sourceOf (fuel + 1) where
  eval _ hc e := quiet_eval_succ h hc e
  evalComparison _ hc e := quiet_evalComparison_succ h hc e
  evalAll _ hc es := quiet_evalAll_succ h hc es
  evalBoth _ hc l r := quiet_evalBoth_succ h hc l r
  evalArguments _ hc e arguments line := quiet_evalArguments_succ h hc e arguments line
  evalCall _ hc callee arguments line := quiet_evalCall_succ h hc callee arguments line
  callMethod _ hc v name values line := quiet_callMethod_succ h hc v name values line
  callValue _ hc f arguments line := quiet_callValue_succ h hc f arguments line
  callProcedure _ hc p arguments line := quiet_callProcedure_succ h hc p arguments line
  assign _ hc t v := quiet_assign_succ h hc t v
  exec _ hc statements := quiet_exec_succ h hc statements
  catchText _ hc statements := quiet_catchText_succ h hc statements
  runBody _ hc body := quiet_runBody_succ h hc body
  runLoop _ hc repetition recursive items := quiet_runLoop_succ h hc repetition recursive items
  recurse _ hc repetition v line := quiet_recurse_succ h hc repetition v line
  select _ hc target condition items line conditionLine :=
    quiet_select_succ h hc target condition items line conditionLine
  showBlock _ hc name required line := quiet_showBlock_succ h hc name required line
  showLayer _ hc layers line := quiet_showLayer_succ h hc layers line
  superBlock _ hc line := quiet_superBlock_succ h hc line
  runIncluded _ hc t line := quiet_runIncluded_succ h hc t line
  includeFirst _ hc names missing tried line :=
    quiet_includeFirst_succ h hc names missing tried line
  importFrom _ hc e line _ hread := quiet_importFrom_succ h hc e line hread
  execOne _ hc s := quiet_execOne_succ h hc s

end AllQuiet

theorem allQuiet (fuel : Nat) : AllQuiet sourceOf fuel := by
  induction fuel with
  | zero => exact .zero
  | succ fuel ih => exact ih.succ

/-! ## Renderings -/

/-- What has been kept changes no rendering, and what is kept afterwards would be read
    again, also if the rendering fails. -/
theorem render_of_kept (env : Environment) {sources sources' : List (String × String)}
    (h : Kept sourceOf sources) (h' : Kept sourceOf sources') (name source : String)
    (vars : Keyed Value) :
    (render env sourceOf sources name source vars).1 =
        (render env sourceOf sources' name source vars).1 ∧
      Kept sourceOf (render env sourceOf sources name source vars).2 := by
  unfold render
  cases Template.parse name source with
  | error fault => exact ⟨rfl, h⟩
  | ok t =>
    -- The fuel is a large number, and no step below may compute with it.
    have hquiet := (allQuiet evaluationFuel).runBody
      ⟨env, sourceOf, name, env.escapes, 0, false, false, none, .undefined⟩ rfl t.body _ _
      (.mk ⟨[.ofBase (.given vars)], Run.blocksOf t, [], none, #[], #[], 0, [], #[], []⟩ h h')
    generalize evaluationFuel = fuel at hquiet ⊢
    dsimp only [EStateM.run] at hquiet ⊢
    generalize runBody fuel _ t.body _ = result at hquiet ⊢
    generalize runBody fuel _ t.body _ = result' at hquiet ⊢
    cases hquiet with
    | ok hr hs => exact ⟨congrArg Except.ok hr, hs.kept⟩
    | error hs => exact ⟨rfl, hs.kept⟩

end RenderChain.Jinja
