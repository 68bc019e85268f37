/-
  RenderChain/Proofs/TagOutput.lean
  =================================
  **What texts with names render to.**

  A text whose tags are names renders to what its parts leave, one after the other: a name
  leaves its value, escaped if need be.

  This is followed part by part from the tokens to the statements and from there to
  the output.  A name is an expression, and so it goes down all levels of binding
  and comes back from each as it was, as no operator follows.

    * `Parse.ReadsName`: parsers that read a name, level by level;
    * `statements_parts`, `spells_settleBody`: the statements of the parts;
    * `execOne_of_output`, `runBody_of_output`: what they print, one and all of them;
    * `language_evaluatesNames`: the template language of this library evaluates names.
-/
import RenderChain.Proofs.Tags

namespace RenderChain.Jinja

open TemplateLanguage (EndsOnLine IsName Tagged together together_assoc empty_together)

/-! ## Statements -/

/-- The statement that a part is read as. -/
inductive Spells : Part → Statement → Prop
  | data (text : String) (line : Nat) : Spells (.data text) (.data text line)
  | value (name : String) (line valueLine : Nat) :
      Spells (.value name) (.emit (.variable name valueLine) line)

namespace Parse

/-! ### Names as expressions -/

/-- At a name and the end of its tag, it reads the name as a variable and stops at the end. -/
def ReadsName (name : String) (depth : Nat) (x : Parser Expr) : Prop :=
  ∀ (nameLine closeLine line : Nat) (rest : List Located),
    x ⟨⟨.ident name, nameLine⟩ :: ⟨.closeExpr, closeLine⟩ :: rest, none, line, depth, false, []⟩ =
      .ok (.variable name nameLine)
        ⟨⟨.closeExpr, closeLine⟩ :: rest, none, nameLine, depth, false, []⟩

theorem skip_of_ne {s : State} {name word : String} {line : Nat} {rest : List Located}
    (hs : s.tokens = ⟨.ident name, line⟩ :: rest) (h : name ≠ word) :
    skip (.ident word) s = .ok false s := by
  have hother : (some (Token.ident name) == some (Token.ident word)) = false := by
    rw [Option.some_beq_some]
    show (name == word) = false
    simpa using h
  have hpeek : peek s = .ok (some (.ident name)) s := by
    unfold peek
    rw [hs]
  unfold skip
  rw [bind_of_ok hpeek, hother]
  rfl

namespace ReadsName

variable {name : String} {depth fuel : Nat} {x : Parser Expr}

theorem nested (h : ReadsName name (depth + 1) x) (hdepth : depth < nestingLimit) :
    ReadsName name depth (nested x) := by
  intro nameLine closeLine line rest
  have hinside : ¬ nestingLimit ≤ depth := Nat.not_le.2 hdepth
  unfold Parse.nested
  refine (bind_of_ok (show (get : Parser State) _ = .ok _ _ from rfl)).trans ?_
  dsimp only
  rw [if_neg hinside]
  exact (bind_of_ok (h nameLine closeLine line rest)).trans rfl

theorem primary (h : IsName name) : ReadsName name depth (primary (fuel + 1)) := by
  intro nameLine closeLine line rest
  have hconstant : constant? name = none := by
    obtain ⟨-, -, hfree⟩ := h
    simp only [TemplateLanguage.reserved, List.mem_cons, List.not_mem_nil, or_false, not_or]
      at hfree
    simp [constant?, hfree]
  unfold Parse.primary
  refine (bind_of_ok (show take _ = .ok (some (.ident name)) _ from rfl)).trans ?_
  refine (bind_of_ok (show lastLine _ = .ok nameLine _ from rfl)).trans ?_
  dsimp only
  rw [hconstant]
  rfl

theorem signed (h : ReadsName name depth (Parse.nested (Parse.primary fuel))) :
    ReadsName name depth (signed (fuel + 1)) := by
  intro nameLine closeLine line rest
  unfold Parse.signed
  exact h nameLine closeLine line rest

theorem operand (h : ReadsName name depth (Parse.signed (fuel + 1))) :
    ReadsName name depth (operand (fuel + 2)) := by
  intro nameLine closeLine line rest
  unfold Parse.operand
  refine (bind_of_ok (h nameLine closeLine line rest)).trans ?_
  unfold access
  rfl

theorem filtered (h : ReadsName name depth (Parse.operand (fuel + 1))) :
    ReadsName name depth (filtered (fuel + 2)) := by
  intro nameLine closeLine line rest
  unfold Parse.filtered
  refine (bind_of_ok (h nameLine closeLine line rest)).trans ?_
  unfold moreFilters
  rfl

/-- No operator comes next. -/
theorem leftToRight (table : List (String × Operator)) (h : ReadsName name depth x) :
    ReadsName name depth (do
      let line ← nextLine
      leftToRight fuel line table x (← x)) := by
  intro nameLine closeLine line rest
  refine (bind_of_ok (h nameLine closeLine line rest)).trans ?_
  cases fuel <;> rfl

theorem negation (hname : name ≠ "not") (h : ReadsName name depth (Parse.sum fuel)) :
    ReadsName name depth (negation (fuel + 1)) := by
  intro nameLine closeLine line rest
  unfold Parse.negation
  refine (bind_of_ok (show nextLine _ = .ok nameLine _ from rfl)).trans ?_
  refine (bind_of_ok (skip_of_ne rfl hname)).trans ?_
  refine (bind_of_ok (show lastLine _ = .ok line _ from rfl)).trans ?_
  exact (bind_of_ok (h nameLine closeLine line rest)).trans rfl

theorem conjunction (h : ReadsName name depth (Parse.negation (fuel + 1))) :
    ReadsName name depth (conjunction (fuel + 2)) := by
  intro nameLine closeLine line rest
  unfold Parse.conjunction
  refine (bind_of_ok (h nameLine closeLine line rest)).trans ?_
  unfold moreConjuncts
  rfl

theorem disjunction (h : ReadsName name depth (Parse.conjunction (fuel + 1))) :
    ReadsName name depth (disjunction (fuel + 2)) := by
  intro nameLine closeLine line rest
  unfold Parse.disjunction
  refine (bind_of_ok (h nameLine closeLine line rest)).trans ?_
  unfold moreDisjuncts
  rfl

theorem conditional (h : ReadsName name depth (Parse.disjunction (fuel + 1))) :
    ReadsName name depth (conditional (fuel + 2)) := by
  intro nameLine closeLine line rest
  unfold Parse.conditional
  refine (bind_of_ok (h nameLine closeLine line rest)).trans ?_
  unfold moreConditions
  rfl

theorem expression (h : IsName name) (fuel : Nat) :
    ReadsName name 0 (expression (fuel + 13)) := by
  have hnot : name ≠ "not" := by
    rintro rfl
    exact h.2.2 (by decide)
  have hfiltered : ReadsName name 1 (Parse.filtered (fuel + 4)) :=
    filtered (operand (signed (nested (primary h) (by decide))))
  have hpower : ReadsName name 1 (Parse.power (fuel + 5)) := by
    rw [Parse.power]
    exact leftToRight _ hfiltered
  have hproduct : ReadsName name 1 (Parse.product (fuel + 6)) := by
    rw [Parse.product]
    exact leftToRight _ hpower
  have hconcatenation : ReadsName name 1 (Parse.concatenation (fuel + 7)) := by
    rw [Parse.concatenation]
    exact leftToRight _ hproduct
  have hsum : ReadsName name 1 (Parse.sum (fuel + 8)) := by
    rw [Parse.sum]
    exact leftToRight _ hconcatenation
  rw [Parse.expression]
  exact nested (conditional (disjunction (conjunction (negation hnot hsum)))) (by decide)

end ReadsName

/-- Parts are read one after the other, up to the end. -/
theorem statements_parts {parts : List Part} {located : List Located}
    (hparts : ∀ name, .value name ∈ parts → IsName name)
    (hlocated : located.map (·.token) = parts.flatMap Part.tokens) (fuel line : Nat) :
    ∃ body last, statements [] (fuel + 13 + (parts.length + 1))
        ⟨located, none, line, 0, false, []⟩ =
        .ok (body, "") ⟨[], none, last, 0, false, []⟩ ∧ List.Forall₂ Spells parts body := by
  induction parts generalizing located line with
  | nil =>
    obtain rfl := List.map_eq_nil_iff.1 hlocated
    exact ⟨[], line, by unfold statements; rfl, .nil⟩
  | cons part parts ih =>
    have hlater : ∀ name, .value name ∈ parts → IsName name := fun name hname =>
      hparts name (List.mem_cons_of_mem part hname)
    cases part with
    | data text =>
      obtain ⟨⟨_, textLine⟩, after, rfl, rfl, hafter⟩ := List.map_eq_cons_iff.1 hlocated
      obtain ⟨body, last, hbody, hspells⟩ := ih hlater hafter textLine
      refine ⟨.data text textLine :: body, last, ?_, .cons (.data text textLine) hspells⟩
      unfold statements
      exact (bind_of_ok hbody).trans rfl
    | value name =>
      obtain ⟨⟨_, openLine⟩, _, rfl, rfl, hinside⟩ := List.map_eq_cons_iff.1 hlocated
      obtain ⟨⟨_, nameLine⟩, _, rfl, rfl, hclose⟩ := List.map_eq_cons_iff.1 hinside
      obtain ⟨⟨_, closeLine⟩, after, rfl, rfl, hafter⟩ := List.map_eq_cons_iff.1 hclose
      have hname : IsName name := hparts name List.mem_cons_self
      have hvalue := ReadsName.expression hname (fuel + (parts.length + 1)) nameLine closeLine
        openLine after
      obtain ⟨body, last, hbody, hspells⟩ := ih hlater hafter closeLine
      refine ⟨.emit (.variable name nameLine) openLine :: body, last, ?_,
        .cons (.value name openLine nameLine) hspells⟩
      unfold statements
      rw [Nat.add_right_comm] at hvalue
      refine (bind_of_ok hvalue).trans ?_
      exact (bind_of_ok hbody).trans rfl

end Parse

namespace Template

theorem spells_settleBody {parts : List Part} {body : List Statement}
    (h : List.Forall₂ Spells parts body) (line : Nat) :
    List.Forall₂ Spells parts ((settleBody body).run line).1 := by
  induction h generalizing line with
  | nil =>
    unfold settleBody
    exact .nil
  | cons hspells _ ih =>
    cases hspells with
    | data text textLine =>
      unfold settleBody settleStatement
      exact .cons (.data text textLine) (ih textLine)
    | value name openLine nameLine =>
      unfold settleBody settleStatement settle
      exact .cons (.value name nameLine nameLine) (ih nameLine)

end Template

/-! ## Output -/

def Environment.print (env : Environment) (v : Value) : String :=
  if env.escapes && !v.isSafe then Text.escapeMarkup v.toText else v.toText

/-- What is printed for the value of a variable. -/
def printed : language.Printer := fun (env : Environment) _ _ j =>
  match Value.ofJson j with
  | .undefined => none
  | v => some (env.print v)

/-- What is printed for a part, if there is something for each name. -/
def Part.output (value : String → Option String) : Part → Option String
  | .data text => some text
  | .value name => value name

/-- What is printed for parts, if there is something for each. -/
def outputOf (value : String → Option String) : List Part → Option String
  | [] => some ""
  | part :: parts => together (part.output value) (outputOf value parts)

section Output

variable {value : String → Option String}

theorem outputOf_append (parts more : List Part) :
    outputOf value (parts ++ more) = together (outputOf value parts) (outputOf value more) := by
  induction parts with
  | nil => exact (empty_together _).symm
  | cons part parts ih => rw [List.cons_append, outputOf, outputOf, ih, together_assoc]

theorem outputOf_ofText (cs : List Char) :
    outputOf value (Part.ofText cs) = some (String.ofList cs) := by
  cases cs with
  | nil => rfl
  | cons c rest => exact congrArg some String.append_empty

/-- The parts leave what the text is shown as. -/
theorem outputOf_partsOf (m : Tagged) : outputOf value (partsOf m) = m.shown value := by
  induction m with
  | text cs => exact outputOf_ofText cs
  | tagged cs name rest ih =>
    rw [partsOf, outputOf_append, outputOf_ofText, outputOf, ih]
    rfl

variable {vars : Variables} {c : Scope} {r : Run}

/-- Nothing has happened yet but that the template was called with the variables. -/
structure Starts (c : Scope) (vars : Variables) (r : Run) : Prop where
  frames : r.frames = [.ofBase (.given (valuesOf vars))]
  parent : r.parent = none
  escape : c.escape = c.env.escapes

theorem find?_valuesOf (name : String) (vars : Variables) :
    Keyed.find? name (valuesOf vars) = (Keyed.find? name vars).map Value.ofJson := by
  unfold valuesOf
  induction vars with
  | nil => rfl
  | cons v rest ih =>
    rw [List.map_cons, Keyed.find?, Keyed.find?, ih]
    split <;> rfl

/-- What the variables are printed as. -/
def valueIn (env : Environment) (vars : Variables) : String → Option String :=
  printed.values env "" vars

theorem Starts.lookup (h : Starts c vars r) (globals : Keyed Value) (name : String) :
    r.lookup globals name =
      ((Keyed.find? name vars).map Value.ofJson).or (Keyed.find? name globals) := by
  unfold Run.lookup
  rw [h.frames]
  simp [Run.lookupInFrame, Frame.ofBase, Keyed.find?, find?_valuesOf]

theorem Starts.printed (h : Starts c vars r) (v : Value) : c.printed v = c.env.print v := by
  unfold Scope.printed Environment.print
  rw [h.escape]

/-- A statement prints what the part leaves that it spells, and nothing else happens. -/
theorem execOne_of_output {part : Part} {s : Statement} (hs : Spells part s)
    (h : Starts c vars r) {output : String}
    (houtput : part.output (valueIn c.env vars) = some output) (fuel : Nat) :
    execOne (fuel + 2) c s r = .ok output r := by
  cases hs with
  | data text line =>
    cases houtput
    exact execOne_data _ c _ line r
  | value name line valueLine =>
    obtain ⟨j, hj, hprinted⟩ := Option.bind_eq_some_iff.1 houtput
    have heval : eval (fuel + 1) c (.variable name valueLine) r = .ok (Value.ofJson j) r := by
      have hlookup := h.lookup c.env.globals name
      rw [hj] at hlookup
      unfold eval
      refine (bind_of_ok (show Jinja.lookup c name r = .ok _ r from rfl)).trans ?_
      rw [hlookup]
      rfl
    unfold execOne
    refine (bind_of_ok heval).trans ?_
    unfold Jinja.printed at hprinted
    generalize Value.ofJson j = v at hprinted
    cases v with
    | undefined => cases hprinted
    | _ =>
      cases hprinted
      exact congrArg (EStateM.Result.ok · r) (h.printed _)

/-- Runs one more statement, after the text that is printed so far. -/
def execNext (fuel : Nat) (c : Scope) (text : String) (s : Statement) : Eval String := do
  let dropped ← isDropping c
  let more ← execOne fuel c s
  return if dropped then text else text ++ more

theorem exec_eq_foldlM (fuel : Nat) (c : Scope) (body : List Statement) :
    exec (fuel + 1) c body = body.foldlM (execNext fuel c) "" := by
  unfold exec
  rfl

/-- Statements print one after the other. -/
theorem foldlM_of_output {parts : List Part} {body : List Statement}
    (hbody : List.Forall₂ Spells parts body) (h : Starts c vars r) (fuel : Nat)
    (before : String) {output : String}
    (houtput : outputOf (valueIn c.env vars) parts = some output) :
    body.foldlM (execNext (fuel + 2) c) before r = .ok (before ++ output) r := by
  induction hbody generalizing before output with
  | nil =>
    cases houtput
    exact congrArg (EStateM.Result.ok · r) String.append_empty.symm
  | cons hs _ ih =>
    obtain ⟨text, more, htext, hmore, rfl⟩ := Option.map₂_eq_some_iff.1 houtput
    have hnext : execNext (fuel + 2) c before _ r = .ok (before ++ text) r :=
      (bind_of_ok (isDropping_of_top h.parent)).trans
        (bind_of_ok (execOne_of_output hs h htext fuel))
    rw [List.foldlM_cons, bind_of_ok hnext, ih _ hmore, String.append_assoc]

theorem runBody_of_output {parts : List Part} {body : List Statement}
    (hbody : List.Forall₂ Spells parts body) (h : Starts c vars r) (fuel : Nat) {output : String}
    (houtput : outputOf (valueIn c.env vars) parts = some output) :
    runBody (fuel + 4) c body r = .ok output r := by
  have hexec := foldlM_of_output hbody h fuel "" houtput
  rw [← exec_eq_foldlM, String.empty_append] at hexec
  unfold runBody
  refine (bind_of_ok hexec).trans ?_
  have hget : (get : Eval Run) r = .ok r r := rfl
  rw [bind_of_ok hget, h.parent]
  rfl

end Output

/-! ## Templates -/

theorem Part.length_le_tokens (parts : List Part) :
    parts.length ≤ (parts.flatMap Part.tokens).length := by
  induction parts with
  | nil => simp
  | cons part parts ih =>
    cases part <;> simp only [List.flatMap_cons, Part.tokens, List.length_append,
      List.length_cons, List.length_nil] <;> omega

/-- The names of a sound text are names. -/
theorem isName_of_mem_partsOf {m : Tagged} (h : m.IsSound) {name : String}
    (hname : .value name ∈ partsOf m) : IsName name := by
  have htext : ∀ cs : List Char, .value name ∉ Part.ofText cs := by
    intro cs
    unfold Part.ofText
    split <;> simp
  induction m with
  | text cs => exact absurd hname (htext cs)
  | tagged cs word rest ih =>
    obtain ⟨-, hword, hrest⟩ := h
    obtain hcs | rfl | hmore : .value name ∈ Part.ofText cs ∨ name = word ∨
        .value name ∈ partsOf rest := by
      simpa [partsOf] using hname
    · exact absurd hcs (htext cs)
    · exact hword
    · exact ih hrest hmore

theorem parse_of_tagged {m : Tagged} (h : m.IsSound) (hend : EndsOnLine m.written)
    (name : String) :
    ∃ body, Template.parse name m.source = .ok ⟨name, body, []⟩ ∧
      List.Forall₂ Spells (partsOf m) body := by
  obtain ⟨htokens, hstop⟩ := Token.reads_scan h hend
  have hlength : (partsOf m).length ≤ (Token.scan m.source).1.length := by
    have hmapped := congrArg List.length htokens
    rw [List.length_map] at hmapped
    rw [hmapped]
    exact Part.length_le_tokens (partsOf m)
  obtain ⟨fuel, hfuel⟩ : ∃ fuel,
      24 * ((Token.scan m.source).1.length + 2) = fuel + 13 + ((partsOf m).length + 1) :=
    ⟨24 * ((Token.scan m.source).1.length + 2) - ((partsOf m).length + 14), by omega⟩
  obtain ⟨body, last, hbody, hspells⟩ := Parse.statements_parts
    (fun _ => isName_of_mem_partsOf h) htokens fuel 1
  refine ⟨_, ?_, Template.spells_settleBody hspells 1⟩
  unfold Template.parse
  dsimp only
  rw [hfuel, hstop]
  unfold EStateM.run
  rw [hbody]
  rfl

theorem render_of_tagged {m : Tagged} (h : m.IsSound) (hend : EndsOnLine m.written)
    (env : Environment) (sourceOf : SourceOf) (sources : List (String × String)) (name : String)
    (vars : Variables) {output : String} (houtput : m.shown (valueIn env vars) = some output) :
    render env sourceOf sources name m.source (valuesOf vars) = (.ok output, sources) := by
  obtain ⟨body, hparse, hspells⟩ := parse_of_tagged h hend name
  obtain ⟨fuel, hfuel⟩ : ∃ fuel, evaluationFuel = fuel + 4 := ⟨9999996, rfl⟩
  unfold render
  rw [hparse]
  dsimp only
  unfold EStateM.run
  have hstarts : Starts ⟨env, sourceOf, name, env.escapes, 0, false, false, none, .undefined⟩ vars
      ⟨[.ofBase (.given (valuesOf vars))], Run.blocksOf ⟨name, body, []⟩, [], none, #[], #[], 0, [],
        #[], sources⟩ := ⟨rfl, rfl, rfl⟩
  rw [← outputOf_partsOf] at houtput
  rw [hfuel, runBody_of_output hspells hstarts fuel houtput]

/-- The language shows the values of names, escaped where it escapes. -/
theorem language_evaluatesNames : language.EvaluatesNames printed where
  shown env includes kept name vars m hsound hend output houtput := by
    have hrender := render_of_tagged hsound hend env (sourceOf includes) kept name vars houtput
    exact congrArg (fun out => out.1.mapError Fault.toTemplateFault) hrender
  texts escapes filters globals name vars text := by
    cases escapes <;> rfl

end RenderChain.Jinja
