/-
  RenderChain/Proofs/PlainText.lean
  =================================
  **Templates without tags render to themselves.**

  A text in which no tag opens is one token, then one statement, and then the
  whole output, with any variables, in any environment and whatever other
  templates there are.

    * `cutAtTag_of_plain`, `scan_of_plain`, `parse_of_plain`: the way to a template;
    * `render_of_plain`, `language_copiesText`: its output.
-/
import RenderChain.Engine.Builtin
import RenderChain.Proofs.TemplateLaws

namespace RenderChain.Jinja

open TemplateLanguage (Plain EndsOnLine)

variable {cs : List Char}

/-! ## Tokens -/

namespace Token

theorem cutAtTag_of_plain (h : Plain cs) : cutAtTag cs = (cs, none) := by
  fun_induction cutAtTag cs with
  | case1 => rfl
  | case2 c rest hopens =>
    have hclosed := (List.isChain_cons_cons.1 h).1 rfl
    simp only [List.mem_cons, List.not_mem_nil, or_false] at hclosed
    exact absurd hopens hclosed
  | case3 c rest hcloses before found heq ih =>
    obtain ⟨rfl, rfl⟩ := Prod.mk.inj (heq.symm.trans (ih (List.isChain_cons_cons.1 h).2))
    rfl
  | case4 c rest hfirst before found heq ih =>
    obtain ⟨rfl, rfl⟩ := Prod.mk.inj (heq.symm.trans (ih h.tail))
    rfl

/-- A text that does not end in a line end is kept as it is. -/
theorem withoutLastLineEnd_eq (h : EndsOnLine cs) : withoutLastLineEnd cs = cs := by
  have hkeep : ∀ d, cs.getLast? ≠ some d → withoutLast d cs = cs := by
    intro d hne
    unfold withoutLast
    rw [if_neg hne]
  simp only [EndsOnLine, List.mem_cons, List.not_mem_nil, or_false, not_or] at h
  unfold withoutLastLineEnd
  rw [hkeep '\n' h.1, hkeep '\r' h.2]

/-- A source without tags is one token, if there is anything in it. -/
theorem scan_of_plain {source : String} (h : Plain source.toList)
    (hend : EndsOnLine source.toList) : scan source = (dataToken 1 source.toList, none) := by
  unfold scan
  rw [withoutLastLineEnd_eq hend]
  generalize source.toList = cs at h
  cases cs with
  | nil => rfl
  | cons c rest =>
    unfold scanFrom
    simp only [if_neg Bool.false_ne_true]
    rw [cutAtTag_of_plain h]

end Token

/-! ## Templates -/

/-- The statements of a text without tags. -/
def dataBody (cs : List Char) : List Statement :=
  if cs.isEmpty then [] else [.data (String.ofList cs) 1]

theorem parse_of_plain {source : String} (h : Plain source.toList)
    (hend : EndsOnLine source.toList) (name : String) :
    Template.parse name source = .ok ⟨name, dataBody source.toList, []⟩ := by
  unfold Template.parse
  rw [Token.scan_of_plain h hend]
  generalize source.toList = cs
  cases cs with
  | nil => rfl
  | cons c rest => rfl

/-! ## Output -/

section Output

theorem isDropping_of_top {c : Scope} {r : Run} (h : r.parent = none) :
    isDropping c r = .ok false r := by
  show EStateM.Result.ok (!c.catching && r.parent.isSome) r = _
  rw [h, Option.isSome_none, Bool.and_false]

theorem execOne_data (fuel : Nat) (c : Scope) (text : String) (line : Nat) (r : Run) :
    execOne (fuel + 1) c (.data text line) r = .ok text r := by
  unfold execOne
  rfl

theorem exec_dataBody (fuel : Nat) (c : Scope) (cs : List Char) {r : Run}
    (hparent : r.parent = none) :
    exec (fuel + 2) c (dataBody cs) r = .ok (String.ofList cs) r := by
  unfold exec dataBody
  cases cs with
  | nil => rfl
  | cons d rest =>
    have hprinted : (do
        let dropped ← isDropping c
        let more ← execOne (fuel + 1) c (.data (String.ofList (d :: rest)) 1)
        return if dropped then "" else "" ++ more : Eval String) r =
        .ok (String.ofList (d :: rest)) r := by
      rw [bind_of_ok (isDropping_of_top hparent), bind_of_ok (execOne_data fuel c _ 1 r)]
      exact congrArg (EStateM.Result.ok · r) String.empty_append
    rw [List.isEmpty_cons, if_neg Bool.false_ne_true, List.foldlM_cons, bind_of_ok hprinted]
    rfl

theorem runBody_dataBody (fuel : Nat) (c : Scope) (cs : List Char) {r : Run}
    (hparent : r.parent = none) :
    runBody (fuel + 3) c (dataBody cs) r = .ok (String.ofList cs) r := by
  unfold runBody
  refine (bind_of_ok (exec_dataBody fuel c cs hparent)).trans ?_
  have hget : (get : Eval Run) r = .ok r r := rfl
  rw [bind_of_ok hget, hparent]
  rfl

end Output

/-- A source without tags renders to itself. -/
theorem render_of_plain {source : String} (h : Plain source.toList)
    (hend : EndsOnLine source.toList) (env : Environment) (sourceOf : SourceOf)
    (sources : List (String × String)) (name : String) (vars : Keyed Value) :
    render env sourceOf sources name source vars = (.ok source, sources) := by
  -- only that there is some fuel counts, so that its amount is not computed
  obtain ⟨fuel, hfuel⟩ : ∃ fuel, evaluationFuel = fuel + 3 := ⟨9999997, rfl⟩
  unfold render
  rw [parse_of_plain h hend]
  dsimp only
  unfold EStateM.run
  rw [hfuel, runBody_dataBody fuel _ _ rfl, String.ofList_toList]

theorem language_copiesText : language.CopiesText := by
  intro env includes kept name source vars hplain hend
  have hrender := render_of_plain hplain hend env (sourceOf includes) kept name (valuesOf vars)
  exact congrArg (fun out => out.1.mapError Fault.toTemplateFault) hrender

end RenderChain.Jinja
