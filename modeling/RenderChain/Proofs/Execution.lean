/-
  RenderChain/Proofs/Execution.lean
  =================================
  **Which calls rendering a path makes.**

  A rendered text has passed through *stages*: the renderers of the resolution
  and then the post-processors of its file type.  Stages are arbitrary actions:
  each may fail, and each may read and change the world.  A `CallLog` lists the
  calls of one run, with what each call was given and what came of it, and says
  what a reader of the list may rely on: the calls follow the stages in order
  and skip none, each works on what the one before it made, and a failure is
  the last call and the result.

    * `exists_callLog`: every run of stages has such a log;
    * `find?_mergeVariables`: which value a variable has;
    * `render_calls`: the log of `Pipeline.render`, once the path is resolved and
      its template is loaded.
-/
import Mathlib.Data.List.Chain
import RenderChain.Proofs.Resolution

namespace RenderChain

variable {σ : Type}

/-! ## Stages and their calls -/

/-- One thing that a text passes through. -/
inductive Stage (σ : Type)
  | renderer (r : Renderer σ)
  | postprocessor (p : PostProcessor σ)

/-- What a stage makes of what it is given.  A renderer gets a file as a file. -/
def Stage.act (path : String) (vars : Variables) : Stage σ → Loaded → Action σ String
  | .renderer r, .file file => r.renderFile file vars (some path)
  | .renderer r, .inline content => r.renderString content vars (some path)
  | .postprocessor p, source => do p (← source.read)

/-- A call of a stage. -/
structure StageCall (σ : Type) where
  stage : Stage σ
  given : Loaded
  start : World σ
  outcome : EStateM.Result Error (World σ) String

/-- The stages of a resolution, the first one first. -/
def Resolution.stages (r : Resolution σ) : List (Stage σ) :=
  r.chain.map (fun link => .renderer link.2) ++ r.filetype.postprocessors.map .postprocessor

/-- The calls that are made when `given` passes through stages, starting in the world
    `start`, and the result that they lead to. -/
structure CallLog (path : String) (vars : Variables) (stages : List (Stage σ)) (given : Loaded)
    (start : World σ) (calls : List (StageCall σ))
    (result : EStateM.Result Error (World σ) String) : Prop where
  /-- The stages are called in their order, each at most once. -/
  inOrder : calls.map (·.stage) <+: stages
  answered : ∀ c ∈ calls, c.outcome = c.stage.act path vars c.given c.start
  first : ∀ c, calls.head? = some c → c.given = given ∧ c.start = start
  /-- A call is only made after a success, and gets what that one made. -/
  linked : calls.IsChain fun c d =>
    ∃ text w, c.outcome = .ok text w ∧ d.given = .inline text ∧ d.start = w
  /-- The result is the outcome of the last call, and without stages the text itself. -/
  result_eq : result = (calls.getLast?.map (·.outcome)).getD (given.read start)
  /-- No stage is left out, unless the last call failed. -/
  complete : calls.map (·.stage) = stages ∨
    ∃ c e w, calls.getLast? = some c ∧ c.outcome = .error e w

section CallLog

variable {path : String} {vars : Variables} {stages : List (Stage σ)} {stage : Stage σ}
  {given : Loaded} {w w' : World σ}

theorem CallLog.nil (path : String) (vars : Variables) (text : String) (w : World σ) :
    CallLog path vars [] (.inline text) w [] (.ok text w) where
  inOrder := List.prefix_rfl
  answered c hc := absurd hc List.not_mem_nil
  first c hc := by simp at hc
  linked := .nil
  result_eq := rfl
  complete := .inl rfl

theorem CallLog.failed {e : Error} (h : stage.act path vars given w = .error e w') :
    CallLog path vars (stage :: stages) given w [⟨stage, given, w, .error e w'⟩]
      (.error e w') where
  inOrder := by simp
  answered c hc := by
    rw [List.mem_singleton] at hc
    subst hc
    exact h.symm
  first c hc := by
    cases hc
    exact ⟨rfl, rfl⟩
  linked := .singleton _
  result_eq := rfl
  complete := .inr ⟨_, e, w', rfl, rfl⟩

theorem CallLog.passed {text : String} {calls : List (StageCall σ)}
    {result : EStateM.Result Error (World σ) String}
    (h : stage.act path vars given w = .ok text w')
    (tail : CallLog path vars stages (.inline text) w' calls result) :
    CallLog path vars (stage :: stages) given w (⟨stage, given, w, .ok text w'⟩ :: calls)
      result where
  inOrder := by
    rw [List.map_cons, List.cons_prefix_cons]
    exact ⟨rfl, tail.inOrder⟩
  answered c hc := by
    rcases List.mem_cons.1 hc with rfl | hc
    · exact h.symm
    · exact tail.answered c hc
  first c hc := by
    cases hc
    exact ⟨rfl, rfl⟩
  linked := by
    rw [List.isChain_cons]
    refine ⟨?_, tail.linked⟩
    intro d hd
    obtain ⟨hgiven, hstart⟩ := tail.first d hd
    exact ⟨text, w', rfl, hgiven, hstart⟩
  result_eq := by
    rw [tail.result_eq]
    cases calls with
    | nil => rfl
    | cons c rest =>
      obtain ⟨d, hd⟩ : ∃ d, (c :: rest).getLast? = some d :=
        ⟨_, List.getLast?_eq_some_getLast (List.cons_ne_nil c rest)⟩
      rw [List.getLast?_cons_cons, hd]
      rfl
  complete := by
    rcases tail.complete with hall | ⟨c, e, w'', hlast, hc⟩
    · exact .inl (by rw [List.map_cons, hall])
    · refine .inr ⟨c, e, w'', ?_, hc⟩
      cases calls with
      | nil => simp at hlast
      | cons d rest => rw [List.getLast?_cons_cons, hlast]

end CallLog

/-! ## Runs of stages -/

/-- Passes a text through stages, up to the first that fails. -/
def runStages (path : String) (vars : Variables) (stages : List (Stage σ)) (text : String) :
    Action σ String :=
  stages.foldlM (fun text stage => stage.act path vars (.inline text)) text

theorem exists_callLog_act {path : String} {vars : Variables} {stages : List (Stage σ)}
    (htail : ∀ text w, ∃ calls, CallLog path vars stages (.inline text) w calls
      (runStages path vars stages text w))
    (stage : Stage σ) (given : Loaded) (w : World σ) :
    ∃ calls, CallLog path vars (stage :: stages) given w calls
      ((stage.act path vars given >>= runStages path vars stages) w) := by
  cases h : stage.act path vars given w with
  | error e w' =>
    rw [bind_of_error h]
    exact ⟨_, .failed h⟩
  | ok text w' =>
    rw [bind_of_ok h]
    obtain ⟨calls, hcalls⟩ := htail text w'
    exact ⟨_, .passed h hcalls⟩

theorem exists_callLog (path : String) (vars : Variables) (stages : List (Stage σ))
    (text : String) (w : World σ) :
    ∃ calls, CallLog path vars stages (.inline text) w calls
      (runStages path vars stages text w) := by
  induction stages generalizing text w with
  | nil => exact ⟨[], .nil path vars text w⟩
  | cons stage rest ih => exact exists_callLog_act ih stage (.inline text) w

theorem postprocess_eq_runStages (ft : FileType σ) (path : String) (vars : Variables)
    (text : String) :
    ft.postprocess text =
      runStages path vars (ft.postprocessors.map .postprocessor) text := by
  unfold FileType.postprocess runStages
  rw [List.foldlM_map]
  rfl

theorem runStages_append (path : String) (vars : Variables) (front back : List (Stage σ))
    (text : String) :
    runStages path vars (front ++ back) text =
      runStages path vars front text >>= runStages path vars back :=
  List.foldlM_append

namespace Pipeline

theorem renderAll_eq_runStages (path : String) (vars : Variables) (text : String)
    (chain : List (String × Renderer σ)) :
    renderAll path vars text chain =
      runStages path vars (chain.map fun link => .renderer link.2) text := by
  induction chain generalizing text with
  | nil => rfl
  | cons link rest ih =>
    unfold renderAll
    simp only [ih]
    rfl

theorem renderChain_cons (path : String) (vars : Variables) (source : Loaded)
    (link : String × Renderer σ) (rest : List (String × Renderer σ)) :
    renderChain path vars source (link :: rest) =
      (Stage.renderer link.2).act path vars source >>=
        runStages path vars (rest.map fun link => .renderer link.2) := by
  unfold renderChain
  simp only [renderAll_eq_runStages]
  cases source <;> rfl

/-! ## Variables -/

/-- The fields that a caller's variables have; only objects and null have any. -/
theorem mergeVariables_of_fields {ft : FileType σ} {path : String} {vars : Json}
    {fields : List (String × Json)} (h : vars = .object fields ∨ vars = .null ∧ fields = []) :
    mergeVariables ft path vars = .ok ((Keyed.ofList ft.globals).overlay fields) := by
  rcases h with rfl | ⟨rfl, rfl⟩
  · rfl
  · rfl

theorem mergeVariables_of_other {ft : FileType σ} {path : String} {vars : Json}
    (hobject : ∀ fields, vars ≠ .object fields) (hnull : vars ≠ .null) :
    mergeVariables ft path vars =
      .error (.render path ("variables must be a map, got " ++ vars.compact)) := by
  cases vars with
  | object fields => exact absurd rfl (hobject fields)
  | null => exact absurd rfl hnull
  | bool _ | int _ | float _ | string _ | array _ => rfl

/-- The caller's value of a name wins over the global one. -/
theorem find?_mergeVariables (ft : FileType σ) (fields : List (String × Json)) (name : String) :
    Keyed.find? name ((Keyed.ofList ft.globals).overlay fields) =
      (fields.reverse.lookup name).or (ft.globals.reverse.lookup name) := by
  rw [Keyed.find?_overlay, Keyed.find?_ofList]

/-! ## Rendering what was loaded -/

section Execute

variable {r : Resolution σ} {path : String} {vars : Json} {merged : Variables}

theorem execute_of_merge_error {e : Error}
    (h : mergeVariables r.filetype path vars = .error e) (source : Loaded) (w : World σ) :
    execute r path source vars w = .error e w := by
  unfold execute
  rw [h]
  rfl

theorem execute_of_merge_ok (h : mergeVariables r.filetype path vars = .ok merged)
    (source : Loaded) (w : World σ) :
    execute r path source vars w =
      (renderChain path merged source r.chain >>= r.filetype.postprocess) w := by
  unfold execute
  rw [h]
  rfl

/-- Without renderers the text that was loaded goes to the post-processors. -/
theorem execute_nil (h : mergeVariables r.filetype path vars = .ok merged)
    (hchain : r.chain = []) (source : Loaded) (w : World σ) :
    execute r path source vars w = (source.read >>= runStages path merged r.stages) w := by
  have hstages : r.filetype.postprocess = runStages path merged r.stages := by
    funext text
    rw [postprocess_eq_runStages r.filetype path merged, Resolution.stages, hchain]
    rfl
  rw [execute_of_merge_ok h, hchain, hstages]
  rfl

/-- The first renderer gets what was loaded, and its text goes to the other stages. -/
theorem execute_cons (h : mergeVariables r.filetype path vars = .ok merged)
    {link : String × Renderer σ} {rest : List (String × Renderer σ)}
    (hchain : r.chain = link :: rest) (source : Loaded) (w : World σ) :
    execute r path source vars w =
      ((Stage.renderer link.2).act path merged source >>=
        runStages path merged (rest.map (fun link => .renderer link.2) ++
          r.filetype.postprocessors.map .postprocessor)) w := by
  have hpost : r.filetype.postprocess =
      runStages path merged (r.filetype.postprocessors.map .postprocessor) :=
    funext (postprocess_eq_runStages r.filetype path merged)
  have happend : ∀ front back : List (Stage σ),
      (fun text => runStages path merged front text >>= runStages path merged back) =
        runStages path merged (front ++ back) := by
    intro front back
    funext text
    rw [runStages_append]
  rw [execute_of_merge_ok h, hchain, renderChain_cons, bind_assoc, hpost, happend]

theorem exists_callLog_execute_cons (h : mergeVariables r.filetype path vars = .ok merged)
    (hchain : r.chain ≠ []) (source : Loaded) (w : World σ) :
    ∃ calls, CallLog path merged r.stages source w calls (execute r path source vars w) := by
  obtain ⟨link, rest, hcons⟩ := List.exists_cons_of_ne_nil hchain
  rw [execute_cons h hcons, Resolution.stages, hcons]
  exact exists_callLog_act (exists_callLog path merged _) (.renderer link.2) source w

end Execute

/-- Once a path is resolved and its template loaded, the rest is done without cells. -/
theorem render_of_load {p : Pipeline σ} {path : String} {s s₁ : Session σ} {r : Resolution σ}
    {loader : Loader σ} {loaded : Loaded} {w : World σ} (hr : p.resolve path s = .ok r s₁)
    (hloader : r.loader = some loader) (hload : loader.load path s₁.world = .ok loaded w)
    (vars : Json) :
    p.render path vars s = keepCells s₁.cells (execute r path loaded vars w) := by
  unfold render
  rw [bind_of_ok hr, hloader]
  dsimp only
  rw [Call.ofAction_apply, bind_of_ok hload]

/-- **The calls of a render.**  Once the path is resolved and its template loaded, a render
    with variables that are neither an object nor null fails before any call.  Otherwise
    all stages see one table of variables, in which a value of the caller wins over a
    global, and the stages are called as a `CallLog` says: with the template as it was
    loaded if there is a renderer, else with its text, if that can be read. -/
theorem render_calls (p : Pipeline σ) (path : String) (vars : Json) {s s₁ : Session σ}
    {r : Resolution σ} {loader : Loader σ} {loaded : Loaded} {w : World σ}
    (hr : p.resolve path s = .ok r s₁) (hloader : r.loader = some loader)
    (hload : loader.load path s₁.world = .ok loaded w) :
    ((∀ fields, vars ≠ .object fields) → vars ≠ .null →
      p.render path vars s =
        .error (.render path ("variables must be a map, got " ++ vars.compact))
          ⟨s₁.cells, w⟩) ∧
    ∀ fields, vars = .object fields ∨ vars = .null ∧ fields = [] →
      ∃ merged : Variables,
        (∀ name, Keyed.find? name merged =
          (fields.reverse.lookup name).or (r.filetype.globals.reverse.lookup name)) ∧
        (r.chain ≠ [] → ∃ calls result,
          CallLog path merged r.stages loaded w calls result ∧
            p.render path vars s = keepCells s₁.cells result) ∧
        (r.chain = [] → ∀ text w', loaded.read w = .ok text w' → ∃ calls result,
          CallLog path merged r.stages (.inline text) w' calls result ∧
            p.render path vars s = keepCells s₁.cells result) ∧
        (r.chain = [] → ∀ e w', loaded.read w = .error e w' →
          p.render path vars s = .error e ⟨s₁.cells, w'⟩) := by
  rw [render_of_load hr hloader hload]
  constructor
  · intro hobject hnull
    rw [execute_of_merge_error (mergeVariables_of_other hobject hnull)]
    rfl
  · intro fields hfields
    have hmerge : mergeVariables r.filetype path vars =
        .ok ((Keyed.ofList r.filetype.globals).overlay fields) :=
      mergeVariables_of_fields hfields
    refine ⟨_, find?_mergeVariables r.filetype fields, ?_, ?_, ?_⟩
    · intro hchain
      obtain ⟨calls, hcalls⟩ := exists_callLog_execute_cons hmerge hchain loaded w
      exact ⟨calls, _, hcalls, rfl⟩
    · intro hchain text w' hread
      rw [execute_nil hmerge hchain, bind_of_ok hread]
      obtain ⟨calls, hcalls⟩ := exists_callLog path _ r.stages text w'
      exact ⟨calls, _, hcalls, rfl⟩
    · intro hchain e w' hread
      rw [execute_nil hmerge hchain, bind_of_error hread]
      rfl

/-- The renderer gets the text in memory, and without a map of variables nothing does. -/
theorem render_calls_tpl :
    ∃ r s₁ loader loaded w, Notes.pipeline.resolve "a.tpl.txt" Notes.session = .ok r s₁ ∧
      r.loader = some loader ∧ loader.load "a.tpl.txt" s₁.world = .ok loaded w ∧
      (∃ merged calls result, CallLog "a.tpl.txt" merged r.stages loaded w calls result ∧
        Notes.pipeline.render "a.tpl.txt" .null Notes.session = keepCells s₁.cells result) ∧
      ∃ s', Notes.pipeline.render "a.tpl.txt" (.bool true) Notes.session =
        .error (.render "a.tpl.txt" "variables must be a map, got true") s' := by
  have hload : Notes.templates.load "a.tpl.txt" Notes.session.world =
      .ok (.inline "y") Notes.session.world := rfl
  refine ⟨_, _, _, _, _, Notes.resolve_tpl, rfl, hload, ?_, ?_⟩
  · obtain ⟨merged, -, hcalls, -⟩ :=
      (render_calls Notes.pipeline "a.tpl.txt" .null Notes.resolve_tpl rfl hload).2 []
        (.inr ⟨rfl, rfl⟩)
    obtain ⟨calls, result, hlog, hrender⟩ := hcalls (List.cons_ne_nil _ _)
    exact ⟨merged, calls, result, hlog, hrender⟩
  · have hother :=
      (render_calls Notes.pipeline "a.tpl.txt" (.bool true) Notes.resolve_tpl rfl hload).1
    exact ⟨_, hother (fun fields h => by cases h) (fun h => by cases h)⟩

end Pipeline

end RenderChain
