/-
  RenderChain/Proofs/Placeholder/Passes.lean
  ==========================================
  **Templates that are rendered more than once.**

  What a pass writes may be the template of the next one.  Two things get through a
  pass: braces that are doubled, of which one of each two is left, and placeholders
  whose names lead to nothing, which are left without the white space in them.

  Doubled braces cannot be mistaken for others, since a template is read from the
  left and they come in whole pairs; so a text with doubled braces can stand in front
  of any template.  A placeholder that is left is read as the same placeholder again,
  if what stands around it brings no braces of its own.  So two passes, each with some
  of the variables, come to the same as one pass with all of them.

    * `render_escape_append`: doubling the braces of a text keeps it as it is;
    * `render_template`: templates of text and placeholders are never refused;
    * `lookup_of_isUnion`: a name leads into one of two tables only;
    * `render_in_passes`: two passes come to the same as one.
-/
import Mathlib.Data.List.DropRight
import RenderChain.Proofs.Placeholder.Grammar
import RenderChain.Proofs.Tables

namespace RenderChain

/-! ## White space -/

namespace Text

theorem trimEnd_start (cs : List Char) : trimEnd cs <+: cs := List.rdropWhile_prefix isBlank cs

theorem mem_of_mem_trim {c : Char} {cs : List Char} (h : c ∈ trim cs) : c ∈ cs :=
  (List.dropWhile_suffix isBlank).subset ((trimEnd_start _).subset h)

theorem trim_trim (cs : List Char) : trim (trim cs) = trim cs := by
  -- what is cut off at the end leaves the first character, if there is one
  have hstart : trimStart (trim cs) = trim cs := by
    have hfirst := List.dropWhile_eq_self_iff.1 (List.dropWhile_idempotent isBlank cs)
    have hkept : trim cs <+: trimStart cs := trimEnd_start (trimStart cs)
    unfold trimStart
    rw [List.dropWhile_eq_self_iff]
    intro hlength
    rw [hkept.getElem hlength]
    exact hfirst (Nat.lt_of_lt_of_le hlength hkept.length_le)
  have hend : trimEnd (trim cs) = trim cs := List.rdropWhile_idempotent isBlank (trimStart cs)
  calc trim (trim cs) = trimEnd (trimStart (trim cs)) := rfl
    _ = trim cs := by rw [hstart, hend]

end Text

namespace Placeholder

/-! ## Doubled braces -/

def escapeChar (c : Char) : List Char := if c = '{' ∨ c = '}' then [c, c] else [c]

/-- The text with each brace doubled. -/
def escape (s : String) : String := String.ofList (s.toList.flatMap escapeChar)

theorem expansion_escapeChar (c : Char) (cs : List Char) (vars : Variables) :
    expansion vars (escapeChar c ++ cs) = (c :: ·) <$> expansion vars cs := by
  unfold escapeChar
  by_cases hopen : c = '{'
  · subst hopen
    exact expansion_of_first .opening vars
  · by_cases hclose : c = '}'
    · subst hclose
      exact expansion_of_first .closing vars
    · rw [if_neg (not_or.2 ⟨hopen, hclose⟩)]
      exact expansion_of_first (.plain hopen hclose) vars

theorem expansion_escape_append (s cs : List Char) (vars : Variables) :
    expansion vars (s.flatMap escapeChar ++ cs) = (s ++ ·) <$> expansion vars cs := by
  induction s with
  | nil => exact (id_map _).symm
  | cons c rest ih =>
    rw [List.flatMap_cons, List.append_assoc, expansion_escapeChar, ih]
    cases expansion vars cs <;> rfl

/-- **Doubling braces escapes them.**  A text with doubled braces in front of a template puts the
    text in front of what the template renders to, and changes no error; alone it renders to
    the text. -/
theorem render_escape_append (s t : String) (vars : Variables) (path : Option String) :
    render (escape s ++ t) vars path = (render t vars path).map (s ++ ·) ∧
      render (escape s) vars path = .ok s := by
  have happend : ∀ t, render (escape s ++ t) vars path = (render t vars path).map (s ++ ·) := by
    intro t
    rw [render_eq, render_eq, String.toList_append]
    unfold escape
    rw [String.toList_ofList, expansion_escape_append]
    cases expansion vars t.toList with
    | error fault => rfl
    | ok text =>
      have htext : String.ofList (s.toList ++ text) = s ++ String.ofList text := by
        rw [String.ofList_append, String.ofList_toList]
      exact congrArg Except.ok htext
  refine ⟨happend t, ?_⟩
  have hempty := happend ""
  rw [String.append_empty] at hempty
  have hreads : Reads "".toList [] := .nil
  rw [hempty, render_of_reads hreads]
  exact congrArg Except.ok String.append_empty

/-- A brace that comes next does not pair up with the doubled ones. -/
example : render (escape "\x7b" ++ "{x}") [("x", .int 1)] none = .ok "\x7b1" := by cbv

/-! ## Text and placeholders -/

def Braceless (cs : List Char) : Prop := '{' ∉ cs ∧ '}' ∉ cs

instance (cs : List Char) : Decidable (Braceless cs) := inferInstanceAs (Decidable (_ ∧ _))

namespace Token

/-- How a token is written. -/
def written : Token → List Char
  | .plain c => [c]
  | .opening => ['{', '{']
  | .closing => ['}', '}']
  | .lone => ['}']
  | .placeholder inside => '{' :: inside ++ ['}']
  | .unclosed rest => '{' :: rest

/-- Text without braces, or a placeholder for a name without braces. -/
def Simple : Token → Prop
  | .plain c => Braceless [c]
  | .placeholder inside => Braceless inside ∧ ¬ inside.all Text.isBlank
  | _ => False

instance : DecidablePred Simple
  | .plain c => inferInstanceAs (Decidable (Braceless [c]))
  | .placeholder inside =>
    inferInstanceAs (Decidable (Braceless inside ∧ ¬ inside.all Text.isBlank))
  | .opening | .closing | .lone | .unclosed _ => inferInstanceAs (Decidable False)

end Token

/-- The template that is made of the tokens. -/
def template (tokens : List Token) : String := String.ofList (tokens.flatMap Token.written)

theorem first_of_simple {token : Token} (h : token.Simple) (rest : List Char) :
    First (token.written ++ rest) token rest := by
  cases token with
  | plain c =>
    exact .plain (fun hopen => h.1 (List.mem_singleton.2 hopen.symm))
      fun hclose => h.2 (List.mem_singleton.2 hclose.symm)
  | placeholder inside =>
    have hafter : Token.written (.placeholder inside) ++ rest =
        '{' :: (inside ++ '}' :: rest) := by simp [Token.written]
    rw [hafter]
    refine .placeholder ?_ rfl h.1.2
    cases inside with
    | nil => simp
    | cons c inside =>
      intro hopen
      exact h.1.1 (Option.some.inj hopen ▸ List.mem_cons_self)
  | opening | closing | lone | unclosed => cases h

theorem fault?_of_simple {token : Token} (h : token.Simple) : token.fault? = none := by
  cases token with
  | plain c => rfl
  | placeholder inside => exact if_neg h.2
  | opening | closing | lone | unclosed => cases h

theorem reads_of_simple {tokens : List Token} (h : ∀ token ∈ tokens, token.Simple) :
    Reads (tokens.flatMap Token.written) tokens := by
  induction tokens with
  | nil => exact .nil
  | cons token rest ih =>
    obtain ⟨htoken, hrest⟩ := List.forall_mem_cons.1 h
    exact .cons (first_of_simple htoken _) (ih hrest)

theorem render_template {tokens : List Token} (h : ∀ token ∈ tokens, token.Simple)
    (vars : Variables) (path : Option String) :
    render (template tokens) vars path =
      .ok (String.ofList (tokens.flatMap (Token.value vars))) := by
  have hreads : Reads (template tokens).toList tokens := by
    unfold template
    rw [String.toList_ofList]
    exact reads_of_simple h
  rw [render_of_reads hreads,
    List.findSome?_eq_none_iff.2 fun token htoken => fault?_of_simple (h token htoken)]

/-! ## Two passes -/

/-- What a pass leaves of a token for the next one. -/
def Token.left (vars : Variables) : Token → List Token
  | .placeholder inside =>
    match lookup vars (String.ofList (Text.trim inside)) with
    | some found => (valueText found).toList.map .plain
    | none => [.placeholder (Text.trim inside)]
  | token => [token]

/-- The value that a pass puts in for a token has no braces. -/
def Token.PutsNoBraces (vars : Variables) : Token → Prop
  | .placeholder inside =>
    ∀ found ∈ lookup vars (String.ofList (Text.trim inside)), Braceless (valueText found).toList
  | _ => True

instance (vars : Variables) : DecidablePred (Token.PutsNoBraces vars)
  | .placeholder inside =>
    inferInstanceAs (Decidable (∀ found ∈ lookup vars (String.ofList (Text.trim inside)),
      Braceless (valueText found).toList))
  | .plain _ | .opening | .closing | .lone | .unclosed _ => inferInstanceAs (Decidable True)

section TwoPasses

variable {first second union : Variables} {token : Token}

theorem flatMap_plain {f : Token → List Char} (h : ∀ c, f (.plain c) = [c]) (cs : List Char) :
    (cs.map .plain).flatMap f = cs := by
  rw [List.flatMap_map, funext h]
  exact List.flatMap_singleton' cs

theorem written_left (h : token.Simple) (vars : Variables) :
    (token.left vars).flatMap Token.written = token.value vars := by
  cases token with
  | plain c => rfl
  | placeholder inside =>
    unfold Token.left Token.value
    dsimp only
    cases lookup vars (String.ofList (Text.trim inside)) with
    | some found =>
      exact flatMap_plain (fun _ => rfl) _
    | none => exact List.append_nil _
  | opening | closing | lone | unclosed => cases h

theorem simple_left {vars : Variables} (h : token.Simple) (hvalue : token.PutsNoBraces vars) :
    ∀ other ∈ token.left vars, other.Simple := by
  cases token with
  | plain c => simpa [Token.left] using h
  | placeholder inside =>
    unfold Token.left
    dsimp only
    cases hlookup : lookup vars (String.ofList (Text.trim inside)) with
    | some found =>
      obtain ⟨hopen, hclose⟩ := hvalue found hlookup
      intro other hother
      obtain ⟨c, hc, rfl⟩ := List.mem_map.1 hother
      exact ⟨fun hmem => hopen (List.mem_singleton.1 hmem ▸ hc),
        fun hmem => hclose (List.mem_singleton.1 hmem ▸ hc)⟩
    | none =>
      obtain ⟨⟨hopen, hclose⟩, hname⟩ := h
      intro other hother
      obtain rfl := List.mem_singleton.1 hother
      refine ⟨⟨fun hmem => hopen (Text.mem_of_mem_trim hmem),
        fun hmem => hclose (Text.mem_of_mem_trim hmem)⟩, ?_⟩
      rwa [← Text.trim_eq_nil_iff, Text.trim_trim, Text.trim_eq_nil_iff]
  | opening | closing | lone | unclosed => cases h

/-- A name leads into the table that has its first part, so into one of two at most. -/
theorem lookup_of_isUnion (hdisjoint : ∀ name ∈ Keyed.keys first, name ∉ Keyed.keys second)
    (hunion : Keyed.IsUnion union first second) (name : String) :
    lookup union name = (lookup first name).or (lookup second name) := by
  unfold lookup
  cases Text.split '.' name with
  | nil => rfl
  | cons top parts =>
    dsimp only
    rw [hunion top]
    cases hfirst : Keyed.find? top first with
    | none => rfl
    | some found =>
      have htop : top ∈ Keyed.keys first := Keyed.isSome_find?_iff.1 (by rw [hfirst]; rfl)
      rw [Keyed.find?_eq_none_iff.2 (hdisjoint top htop)]
      exact (Option.or_none).symm

theorem value_left (hdisjoint : ∀ name ∈ Keyed.keys first, name ∉ Keyed.keys second)
    (hunion : Keyed.IsUnion union first second) (token : Token) :
    (token.left first).flatMap (Token.value second) = token.value union := by
  cases token with
  | placeholder inside =>
    have hlookup := lookup_of_isUnion hdisjoint hunion (String.ofList (Text.trim inside))
    unfold Token.left
    dsimp only
    cases hfirst : lookup first (String.ofList (Text.trim inside)) with
    | some found =>
      rw [hfirst, Option.some_or] at hlookup
      unfold Token.value
      dsimp only
      rw [hlookup]
      exact flatMap_plain (fun _ => rfl) _
    | none =>
      -- the next pass trims the name again, and looks up the same one
      rw [hfirst, Option.none_or] at hlookup
      dsimp only
      rw [List.flatMap_singleton]
      unfold Token.value
      dsimp only
      rw [Text.trim_trim, hlookup]
  | plain | opening | closing | lone | unclosed => exact List.append_nil _

/-- **Two passes come to the same as one.**  A template of text and placeholders is rendered with
    some variables, and what this gives with others.  If no name is in both of the tables, and
    the values that the first pass puts in have no braces, then this is the text that one
    pass gives with the variables of both tables. -/
theorem render_in_passes {tokens : List Token} (hsimple : ∀ token ∈ tokens, token.Simple)
    (hdisjoint : ∀ name ∈ Keyed.keys first, name ∉ Keyed.keys second)
    (hunion : Keyed.IsUnion union first second)
    (hvalues : ∀ token ∈ tokens, token.PutsNoBraces first) :
    ∃ between text, (∀ path, render (template tokens) first path = .ok between) ∧
      (∀ path, render between second path = .ok text) ∧
      ∀ path, render (template tokens) union path = .ok text := by
  -- the first pass writes a template, and it is that of the tokens that are left
  have hbetween : template (tokens.flatMap (Token.left first)) =
      String.ofList (tokens.flatMap (Token.value first)) := by
    unfold template
    rw [List.flatMap_assoc, List.flatMap_congr fun token htoken =>
      written_left (hsimple token htoken) first]
  have hleft : ∀ token ∈ tokens.flatMap (Token.left first), token.Simple := by
    intro other hother
    obtain ⟨token, htoken, hother⟩ := List.mem_flatMap.1 hother
    exact simple_left (hsimple token htoken) (hvalues token htoken) other hother
  refine ⟨_, _, render_template hsimple first, fun path => ?_, render_template hsimple union⟩
  rw [← hbetween, render_template hleft, List.flatMap_assoc]
  simp only [value_left hdisjoint hunion]

/-- One name leads to nothing in either table though its first part is known, and what the second
    pass puts in has braces. -/
theorem render_in_passes_partly :
    (∀ path, render "{a.x}{a.y}, { b }" [("a", .object [("x", .int 1)])] path =
      .ok "1{a.y}, {b}") ∧
    (∀ path, render "1{a.y}, {b}" [("b", .string "{z}")] path = .ok "1{a.y}, {z}") ∧
    ∀ path, render "{a.x}{a.y}, { b }"
      (Keyed.overlay [("a", .object [("x", .int 1)])] [("b", .string "{z}")]) path =
        .ok "1{a.y}, {z}" := by
  have hsimple : ∀ token ∈ [.placeholder "a.x".toList, .placeholder "a.y".toList, .plain ',',
      .plain ' ', .placeholder " b ".toList], Token.Simple token := by decide
  have hdisjoint : ∀ name ∈ Keyed.keys [("a", Json.object [("x", .int 1)])],
      name ∉ Keyed.keys [("b", Json.string "{z}")] := by decide
  obtain ⟨between, text, hfirst, hsecond, hunion⟩ := render_in_passes hsimple hdisjoint
    (Keyed.isUnion_overlay (by decide) hdisjoint) (by decide)
  have hbetween : render "{a.x}{a.y}, { b }" [("a", .object [("x", .int 1)])] none =
      .ok "1{a.y}, {b}" := by cbv
  obtain rfl := Except.ok.inj ((hfirst none).symm.trans hbetween)
  have htext : render "1{a.y}, {b}" [("b", .string "{z}")] none = .ok "1{a.y}, {z}" := by cbv
  obtain rfl := Except.ok.inj ((hsecond none).symm.trans htext)
  exact ⟨hfirst, hsecond, hunion⟩

end TwoPasses

end Placeholder

end RenderChain
