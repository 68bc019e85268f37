/-
  RenderChain/Proofs/Placeholder/Grammar.lean
  ===========================================
  **The tokens of a placeholder template.**

  A template is read from left to right.  Doubled braces are taken together first,
  so a single `{` opens a placeholder, which runs to the next `}`, and a single `}`
  is text.  Which token comes first and what is behind it depends on the template
  alone (`First`), so every template has one list of tokens (`Reads`); it may hold
  placeholders that are not closed or have no name.

    * `exists_reads`, `Reads.unique`: every template is read in one way;
    * `expansion_of_first`: what a token adds to the text, or that it is refused;
    * `render_of_reads`: a template renders to the values of its tokens, or the
      first of them that is refused says why;
    * `render_exact`: all of this, without the scanner.
-/
import Mathlib.Data.List.TakeWhile
import RenderChain.Placeholder
import RenderChain.Text.Split

namespace RenderChain

/-! ## White space -/

theorem Text.trim_eq_nil_iff {cs : List Char} : trim cs = [] ↔ cs.all isBlank := by
  unfold trim trimEnd trimStart
  rw [List.reverse_eq_nil_iff, List.dropWhile_eq_nil_iff, List.all_eq_true]
  constructor
  · intro h
    -- a text that is left would start with a character that is not blank
    by_contra hsome
    rw [← List.dropWhile_eq_nil_iff] at hsome
    have hhead := List.head_dropWhile_not isBlank hsome
    rw [h _ (List.mem_reverse.2 (List.head_mem hsome))] at hhead
    cases hhead
  · intro h c hc
    rw [List.dropWhile_eq_nil_iff.2 h] at hc
    cases hc

namespace Placeholder

/-! ## Tokens -/

inductive Token
  /-- A character that is no brace. -/
  | plain (c : Char)
  /-- Two opening braces. -/
  | opening
  /-- Two closing braces. -/
  | closing
  /-- A closing brace that no other one follows. -/
  | lone
  /-- A name in braces, with the white space around it. -/
  | placeholder (inside : List Char)
  /-- An opening brace that is never closed, with all that follows it. -/
  | unclosed (rest : List Char)
  deriving DecidableEq, Repr

/-- A text starts with the token, and goes on with the rest. -/
inductive First : List Char → Token → List Char → Prop
  | plain {c : Char} {rest : List Char} : c ≠ '{' → c ≠ '}' → First (c :: rest) (.plain c) rest
  | opening {rest : List Char} : First ('{' :: '{' :: rest) .opening rest
  | closing {rest : List Char} : First ('}' :: '}' :: rest) .closing rest
  | lone {rest : List Char} : rest.head? ≠ some '}' → First ('}' :: rest) .lone rest
  | placeholder {after inside rest : List Char} : after.head? ≠ some '{' →
      after = inside ++ '}' :: rest → '}' ∉ inside →
      First ('{' :: after) (.placeholder inside) rest
  | unclosed {rest : List Char} : rest.head? ≠ some '{' → '}' ∉ rest →
      First ('{' :: rest) (.unclosed rest) []

/-- A text consists of the tokens. -/
inductive Reads : List Char → List Token → Prop
  | nil : Reads [] []
  | cons {cs rest : List Char} {token : Token} {tokens : List Token} :
      First cs token rest → Reads rest tokens → Reads cs (token :: tokens)

namespace Token

/-- Why a token is refused. -/
def fault? : Token → Option Fault
  | .placeholder inside => if inside.all Text.isBlank then some .emptyName else none
  | .unclosed rest => some (.unclosed rest)
  | _ => none

/-- What stands for a token in the text. -/
def value (vars : Variables) : Token → List Char
  | .plain c => [c]
  | .opening => ['{']
  | .closing => ['}']
  | .lone => ['}']
  | .placeholder inside =>
    match lookup vars (String.ofList (Text.trim inside)) with
    | some found => (valueText found).toList
    | none => '{' :: Text.trim inside ++ ['}']
  | .unclosed _ => []

end Token

/-! ## Every template is read in one way -/

theorem exists_first {cs : List Char} (h : cs ≠ []) : ∃ token rest, First cs token rest := by
  obtain ⟨c, after, rfl⟩ := List.exists_cons_of_ne_nil h
  by_cases hopen : c = '{'
  · subst hopen
    by_cases hdouble : after.head? = some '{'
    · obtain ⟨rest, rfl⟩ := List.head?_eq_some_iff.1 hdouble
      exact ⟨_, rest, .opening⟩
    · by_cases hclosed : '}' ∈ after
      · obtain ⟨inside, rest, hafter, hinside⟩ := List.eq_append_cons_of_mem hclosed
        exact ⟨_, rest, .placeholder hdouble hafter hinside⟩
      · exact ⟨_, [], .unclosed hdouble hclosed⟩
  · by_cases hclose : c = '}'
    · subst hclose
      by_cases hdouble : after.head? = some '}'
      · obtain ⟨rest, rfl⟩ := List.head?_eq_some_iff.1 hdouble
        exact ⟨_, rest, .closing⟩
      · exact ⟨_, after, .lone hdouble⟩
    · exact ⟨_, after, .plain hopen hclose⟩

theorem First.length_lt {cs rest : List Char} {token : Token} (h : First cs token rest) :
    rest.length < cs.length := by
  cases h with
  | plain | opening | closing | lone | unclosed =>
    simp only [List.length_cons, List.length_nil]
    omega
  | placeholder _ hafter _ =>
    rw [hafter]
    simp only [List.length_cons, List.length_append]
    omega

theorem First.unique {cs rest rest' : List Char} {token token' : Token} (h : First cs token rest)
    (h' : First cs token' rest') : token = token' ∧ rest = rest' := by
  cases h with
  | plain hopen hclose =>
    cases h' with
    | plain => exact ⟨rfl, rfl⟩
    | opening | placeholder | unclosed => exact absurd rfl hopen
    | closing | lone => exact absurd rfl hclose
  | opening =>
    cases h' with
    | plain hopen => exact absurd rfl hopen
    | opening => exact ⟨rfl, rfl⟩
    | placeholder hsingle | unclosed hsingle => exact absurd rfl hsingle
  | closing =>
    cases h' with
    | plain _ hclose => exact absurd rfl hclose
    | closing => exact ⟨rfl, rfl⟩
    | lone hsingle => exact absurd rfl hsingle
  | lone hsingle =>
    cases h' with
    | plain _ hclose => exact absurd rfl hclose
    | closing => exact absurd rfl hsingle
    | lone => exact ⟨rfl, rfl⟩
  | placeholder hsingle hafter hinside =>
    cases h' with
    | plain hopen => exact absurd rfl hopen
    | opening => exact absurd rfl hsingle
    | placeholder _ hafter' hinside' =>
      obtain ⟨rfl, rfl⟩ := Text.append_cons_inj hinside hinside' (hafter.symm.trans hafter')
      exact ⟨rfl, rfl⟩
    | unclosed _ hopen => exact absurd (hafter ▸ by simp) hopen
  | unclosed hsingle hopen =>
    cases h' with
    | plain hbrace => exact absurd rfl hbrace
    | opening => exact absurd rfl hsingle
    | placeholder _ hafter => exact absurd (hafter ▸ by simp) hopen
    | unclosed => exact ⟨rfl, rfl⟩

theorem exists_reads (cs : List Char) : ∃ tokens, Reads cs tokens := by
  -- by recursion on the length, since a placeholder takes more than one character
  by_cases hnil : cs = []
  · exact ⟨[], hnil ▸ .nil⟩
  · obtain ⟨token, rest, hfirst⟩ := exists_first hnil
    have := hfirst.length_lt
    obtain ⟨tokens, hrest⟩ := exists_reads rest
    exact ⟨token :: tokens, .cons hfirst hrest⟩
termination_by cs.length

theorem Reads.unique {cs : List Char} {tokens tokens' : List Token} (h : Reads cs tokens)
    (h' : Reads cs tokens') : tokens = tokens' := by
  induction h generalizing tokens' with
  | nil =>
    cases h' with
    | nil => rfl
    | cons hfirst => cases hfirst
  | cons hfirst _ ih =>
    cases h' with
    | nil => cases hfirst
    | cons hfirst' hrest' =>
      obtain ⟨rfl, rfl⟩ := hfirst.unique hfirst'
      rw [ih hrest']

/-! ## What a template renders to -/

/-- The text of a template, character by character. -/
def expansion (vars : Variables) (cs : List Char) : Except Fault (List Char) :=
  List.flatMap (Piece.expand vars) <$> scan cs

theorem expansion_of_scan {cs rest : List Char} {piece : Piece}
    (h : scan cs = (piece :: ·) <$> scan rest) (vars : Variables) :
    expansion vars cs = (piece.expand vars ++ ·) <$> expansion vars rest := by
  unfold expansion
  rw [h]
  cases scan rest <;> rfl

/-- What the first token adds to the text, unless it is refused. -/
theorem expansion_of_first {cs rest : List Char} {token : Token} (h : First cs token rest)
    (vars : Variables) :
    expansion vars cs = match token.fault? with
      | some fault => .error fault
      | none => (token.value vars ++ ·) <$> expansion vars rest := by
  cases h with
  | @plain c rest hopen hclose =>
    have hscan : scan (c :: rest) = (.text c :: ·) <$> scan rest := by
      rw [scan] <;> intros <;> contradiction
    exact expansion_of_scan hscan vars
  | @opening rest =>
    have hscan : scan ('{' :: '{' :: rest) = (.text '{' :: ·) <$> scan rest := by rw [scan]
    exact expansion_of_scan hscan vars
  | @closing rest =>
    have hscan : scan ('}' :: '}' :: rest) = (.text '}' :: ·) <$> scan rest := by rw [scan]
    exact expansion_of_scan hscan vars
  | @lone rest hsingle =>
    have hscan : scan ('}' :: rest) = (.text '}' :: ·) <$> scan rest := by
      rw [scan]
      exact fun _ hdouble => hsingle (congrArg List.head? hdouble)
    exact expansion_of_scan hscan vars
  | @placeholder after inside rest hsingle hafter hinside =>
    subst hafter
    -- the scanner looks for the first closing brace, and trims what stands before it
    have hscan : scan ('{' :: (inside ++ '}' :: rest)) =
        if Text.trim inside = [] then .error .emptyName
        else (.name (Text.trim inside) :: ·) <$> scan rest := by
      rw [scan]
      · rw [if_pos (List.mem_append_right _ List.mem_cons_self), Text.takeWhile_of_not_mem hinside,
          Text.dropWhile_of_not_mem hinside]
        rfl
      · exact fun _ hdouble => hsingle (congrArg List.head? hdouble)
    rw [Token.fault?]
    by_cases hblank : Text.trim inside = []
    · rw [if_pos (Text.trim_eq_nil_iff.1 hblank)]
      unfold expansion
      rw [hscan, if_pos hblank]
      rfl
    · rw [if_neg (mt Text.trim_eq_nil_iff.2 hblank)]
      rw [if_neg hblank] at hscan
      exact expansion_of_scan hscan vars
  | @unclosed rest hsingle hopen =>
    have hscan : scan ('{' :: rest) = .error (.unclosed rest) := by
      rw [scan]
      · exact if_neg hopen
      · exact fun _ hdouble => hsingle (congrArg List.head? hdouble)
    unfold expansion
    rw [hscan]
    rfl

theorem expansion_of_reads {cs : List Char} {tokens : List Token} (h : Reads cs tokens)
    (vars : Variables) :
    expansion vars cs = match tokens.findSome? Token.fault? with
      | some fault => .error fault
      | none => .ok (tokens.flatMap (Token.value vars)) := by
  induction h with
  | nil =>
    unfold expansion
    rw [scan]
    rfl
  | @cons cs rest token tokens hfirst _ ih =>
    rw [expansion_of_first hfirst, List.findSome?_cons, ih]
    cases token.fault? with
    | some fault => rfl
    | none => cases tokens.findSome? Token.fault? <;> rfl

theorem render_eq (content : String) (vars : Variables) (path : Option String) :
    render content vars path = match expansion vars content.toList with
      | .error fault => .error (.render (path.getD "<string>") fault.message)
      | .ok text => .ok (String.ofList text) := by
  unfold render expand expansion
  cases scan content.toList <;> rfl

theorem render_of_reads {content : String} {tokens : List Token}
    (h : Reads content.toList tokens) (vars : Variables) (path : Option String) :
    render content vars path = match tokens.findSome? Token.fault? with
      | some fault => .error (.render (path.getD "<string>") fault.message)
      | none => .ok (String.ofList (tokens.flatMap (Token.value vars))) := by
  rw [render_eq, expansion_of_reads h]
  cases tokens.findSome? Token.fault? <;> rfl

/-- **The placeholder language.**  Every template is read as one list of tokens.  It renders
    exactly if no token is refused, and then to the values of the tokens, one after the other;
    otherwise the first token that is refused is reported, under the path of the template.
    Variables only count for the values: a template that is refused with some variables is
    refused with all, for the same reason. -/
theorem render_exact (content : String) (path : Option String) :
    ∃ tokens, (∀ other, Reads content.toList other ↔ other = tokens) ∧
      (∀ vars text, render content vars path = .ok text ↔
        (∀ token ∈ tokens, token.fault? = none) ∧
          text = String.ofList (tokens.flatMap (Token.value vars))) ∧
      (∀ vars error, render content vars path = .error error ↔
        ∃ fault, (∃ sound refused rest, tokens = sound ++ refused :: rest ∧
          refused.fault? = some fault ∧ ∀ token ∈ sound, token.fault? = none) ∧
          error = .render (path.getD "<string>") fault.message) ∧
      ∀ vars vars' error, render content vars path = .error error →
        render content vars' path = .error error := by
  obtain ⟨tokens, hreads⟩ := exists_reads content.toList
  have hfailure : ∀ vars error, render content vars path = .error error ↔
      ∃ fault, tokens.findSome? Token.fault? = some fault ∧
        error = .render (path.getD "<string>") fault.message := by
    intro vars error
    rw [render_of_reads hreads]
    cases tokens.findSome? Token.fault? <;> simp [eq_comm]
  refine ⟨tokens, fun other => ⟨fun h => h.unique hreads, fun h => h ▸ hreads⟩, ?_, ?_, ?_⟩
  · intro vars text
    rw [render_of_reads hreads, ← List.findSome?_eq_none_iff]
    cases tokens.findSome? Token.fault? <;> simp [eq_comm]
  · simpa only [List.findSome?_eq_some_iff] using hfailure
  · intro vars vars' error herror
    exact (hfailure vars' error).2 ((hfailure vars error).1 herror)

/-- Of three braces the first two are taken together, at both ends. -/
example : render "{{{ x }}}" [] none = .ok "{{x}}" := by cbv

end Placeholder

end RenderChain
