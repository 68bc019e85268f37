/-
  RenderChain/Proofs/TemplateLaws.lean
  ====================================
  **What engines rely on in a template language.**

  An engine hands a source to the language and knows no more of what comes back than
  a few laws say.  Two are about the sources that can be understood apart from the
  language: texts without tags, and texts whose tags are names.  The third is about
  what a renderer keeps.

    * `TemplateLanguage.CopiesText`: a source in which no tag opens is its own output;
    * `TemplateLanguage.EvaluatesNames`: of a source whose tags are names the output has
      the values of the names in place of the tags;
    * `TemplateLanguage.HidesKept`: sources that are kept change no output;
    * `Plain.join`, `plain_embed`: whether a tag opens can be seen from two characters
      that stand side by side, so texts without tags can be put together, and comments
      around a text open no tags either if the names in them do not;
    * `embed_injective`, `embed_file_ne`: the comments tell what they name.

  The laws are hypotheses of what follows from them, and the language of this library is
  one that has them.
-/
import Mathlib.Data.List.Chain
import Mathlib.Data.Option.NAry
import RenderChain.Engine.Template
import RenderChain.Proofs.Agreement
import RenderChain.Text.Escape

namespace RenderChain.TemplateLanguage

/-! ## Texts without tags -/

/-- No tag opens in the text. -/
def Plain (cs : List Char) : Prop :=
  cs.IsChain fun c next => c = '{' → next ∉ ['{', '%', '#']

instance (cs : List Char) : Decidable (Plain cs) :=
  inferInstanceAs (Decidable (cs.IsChain fun c next => c = '{' → next ∉ ['{', '%', '#']))

/-- The text does not end in a line end.  Languages may drop one that stands at the end of a
    source. -/
def EndsOnLine (cs : List Char) : Prop := cs.getLast? ∉ [some '\n', some '\r']

instance (cs : List Char) : Decidable (EndsOnLine cs) :=
  inferInstanceAs (Decidable (cs.getLast? ∉ [some '\n', some '\r']))

/-- Text without tags is copied to the output, in all environments, under all names and
    whatever the variables are. -/
def CopiesText (L : TemplateLanguage) : Prop :=
  ∀ (env : L.Environment) (includes : Includes) (kept : List (String × String)) (name : String)
    (source : String) (vars : Variables), Plain source.toList → EndsOnLine source.toList →
      (L.render env includes kept name source vars).1 = .ok source

variable {cs ds : List Char}

theorem Plain.append (hc : Plain cs) (hd : Plain ds)
    (hseam : ∀ c ∈ cs.getLast?, ∀ d ∈ ds.head?, c = '{' → d ∉ ['{', '%', '#']) :
    Plain (cs ++ ds) :=
  List.isChain_append.2 ⟨hc, hd, hseam⟩

/-- What follows does not matter to a text that does not end in a brace. -/
theorem Plain.append_of_last {c : Char} (hc : Plain cs) (hd : Plain ds)
    (hlast : cs.getLast? = some c) (hne : c ≠ '{') : Plain (cs ++ ds) := by
  refine hc.append hd fun c' hc' _ _ hbrace => ?_
  rw [hlast] at hc'
  exact absurd ((Option.some.inj hc').trans hbrace) hne

/-- What stands in front does not matter to a text whose first character opens nothing. -/
theorem Plain.append_of_head {d : Char} (hc : Plain cs) (hd : Plain ds)
    (hhead : ds.head? = some d) (hne : d ∉ ['{', '%', '#']) : Plain (cs ++ ds) := by
  refine hc.append hd fun _ _ d' hd' _ => ?_
  rw [hhead] at hd'
  rwa [← Option.some.inj hd']

/-- A text that keeps those before and after it apart. -/
def Separates (mark : List Char) : Prop :=
  Plain mark ∧ mark.head?.any (· ∉ ['{', '%', '#']) ∧ mark.getLast?.any (· ≠ '{')

instance (mark : List Char) : Decidable (Separates mark) :=
  inferInstanceAs (Decidable (_ ∧ _ ∧ _))

theorem Plain.join {mark : List Char} (hmark : Separates mark) (hc : Plain cs) (hd : Plain ds) :
    Plain (cs ++ (mark ++ ds)) := by
  obtain ⟨hplain, hfirst, hfinal⟩ := hmark
  obtain ⟨d, hhead, hcloses⟩ := (Option.any_eq_true _ _).1 hfirst
  obtain ⟨c, hlast, hne⟩ := (Option.any_eq_true _ _).1 hfinal
  refine hc.append_of_head (hplain.append_of_last hd hlast (of_decide_eq_true hne)) ?_
    (of_decide_eq_true hcloses)
  rw [List.head?_append, hhead]
  rfl

/-! ## Texts with names -/

/-- Words that may mean something else than the value of a variable. -/
def reserved : List String :=
  ["true", "True", "false", "False", "none", "None", "not", "and", "or", "in", "is", "if",
    "else", "loop", "self", "super", "caller"]

/-- A name of a variable: letters, digits and underlines, with no digit in front. -/
def IsName (name : String) : Prop :=
  name.toList.head?.any (fun c => c.isAlpha || c = '_') ∧
    name.toList.all (fun c => c.isAlphanum || c = '_') ∧ name ∉ reserved

instance (name : String) : Decidable (IsName name) := inferInstanceAs (Decidable (_ ∧ _ ∧ _))

/-- A name in a tag. -/
def tag (name : String) : List Char := '{' :: '{' :: ' ' :: (name.toList ++ [' ', '}', '}'])

/-- A text in which no tag opens, before one that does. -/
def BeforeTag (cs : List Char) : Prop := Plain cs ∧ cs.getLast? ≠ some '{'

instance (cs : List Char) : Decidable (BeforeTag cs) := inferInstanceAs (Decidable (_ ∧ _))

/-- A text with names in tags between texts without tags. -/
inductive Tagged
  | text (cs : List Char)
  | tagged (cs : List Char) (name : String) (rest : Tagged)

namespace Tagged

def written : Tagged → List Char
  | text cs => cs
  | tagged cs name rest => cs ++ (tag name ++ rest.written)

/-- The text as it is written. -/
def source (m : Tagged) : String := String.ofList m.written

/-- No other tag opens. -/
def IsSound : Tagged → Prop
  | text cs => Plain cs
  | tagged cs name rest => BeforeTag cs ∧ IsName name ∧ rest.IsSound

def decidableIsSound : (m : Tagged) → Decidable m.IsSound
  | text cs => inferInstanceAs (Decidable (Plain cs))
  | tagged cs name rest =>
    have := rest.decidableIsSound
    inferInstanceAs (Decidable (BeforeTag cs ∧ IsName name ∧ rest.IsSound))

instance (m : Tagged) : Decidable m.IsSound := m.decidableIsSound

end Tagged

/-- Two texts together, if there are both. -/
def together (a b : Option String) : Option String := Option.map₂ (· ++ ·) a b

theorem together_assoc (a b c : Option String) :
    together (together a b) c = together a (together b c) :=
  Option.map₂_assoc fun _ _ _ => String.append_assoc

theorem empty_together (a : Option String) : together (some "") a = a :=
  Option.map₂_left_identity (fun _ => String.empty_append) a

/-- The text with values in place of the tags, if all names have one. -/
def Tagged.shown (value : String → Option String) : Tagged → Option String
  | text cs => some (String.ofList cs)
  | tagged cs name rest =>
    together (some (String.ofList cs)) (together (value name) (rest.shown value))

/-- What a value is printed as in a template of some name, if it can be printed. -/
abbrev Printer (L : TemplateLanguage) :=
  L.Environment → (name : String) → Variables → Json → Option String

/-- What the variables are printed as. -/
def Printer.values {L : TemplateLanguage} (print : L.Printer) (env : L.Environment)
    (name : String) (vars : Variables) (key : String) : Option String :=
  (Keyed.find? key vars).bind (print env name vars)

/-- Names are evaluated, and their values printed. -/
structure EvaluatesNames (L : TemplateLanguage) (print : L.Printer) : Prop where
  /-- In the output the values stand where in the source the names were. -/
  shown : ∀ (env : L.Environment) (includes : Includes) (kept : List (String × String))
    (name : String) (vars : Variables) (m : Tagged), m.IsSound → EndsOnLine m.written →
      ∀ output, m.shown (print.values env name vars) = some output →
        (L.render env includes kept name m.source vars).1 = .ok output
  /-- A text is printed as it is, or escaped if the environment escapes and has not been
      changed since it was made. -/
  texts : ∀ (escapes : Bool) (filters : List (String × (String → String)))
    (globals : List (String × Json)) (name : String) (vars : Variables) (text : String),
      print (L.environment escapes filters globals) name vars (.string text) =
        some (if escapes then Text.escapeMarkup text else text)

/-- A text without names is copied. -/
theorem EvaluatesNames.copiesText {L : TemplateLanguage} {print : L.Printer}
    (h : L.EvaluatesNames print) : L.CopiesText := by
  intro env includes kept name source vars hplain hend
  have hshown := h.shown env includes kept name vars (.text source.toList) hplain hend
    (String.ofList source.toList) rfl
  rwa [Tagged.source, Tagged.written, String.ofList_toList] at hshown

/-! ## Kept sources -/

/-- The sources would be read again. -/
def Kept (includes : Includes) (sources : List (String × String)) : Prop :=
  ∀ e ∈ sources, includes e.1 = .ok (some e.2)

/-- What has been kept does not show in a rendering as long as it would be read again, and
    neither will what is kept after it. -/
def HidesKept (L : TemplateLanguage) : Prop :=
  ∀ (env : L.Environment) {includes : Includes} {kept kept' : List (String × String)},
    Kept includes kept → Kept includes kept' → ∀ (name source : String) (vars : Variables),
      (L.render env includes kept name source vars).1 =
          (L.render env includes kept' name source vars).1 ∧
        Kept includes (L.render env includes kept name source vars).2

/-! ## Comments around a text -/

section Embed

variable {source name : String} {file : Option String}

theorem embed_none (source name : String) : embed source name none =
    "<!-- START " ++ name ++ " -->\n\n" ++ source ++ "\n\n<!-- END " ++ name ++ " -->" := rfl

theorem plain_embed (hsource : Plain source.toList) (hname : Plain name.toList)
    (hfile : ∀ f ∈ file, Plain f.toList) : Plain (embed source name file).toList := by
  obtain ⟨location, hlocation, hplain⟩ : ∃ location : String,
      embed source name file = "<!-- START " ++ location ++ " -->\n\n" ++ source ++
        "\n\n<!-- END " ++ location ++ " -->" ∧ Plain location.toList := by
    cases file with
    | none => exact ⟨name, rfl, hname⟩
    | some f =>
      refine ⟨name ++ " | " ++ f, rfl, ?_⟩
      rw [String.toList_append, String.toList_append, List.append_assoc]
      exact hname.join (by decide) (hfile f rfl)
  rw [hlocation]
  simp only [String.toList_append, List.append_assoc]
  have hnil : Plain [] := List.IsChain.nil
  have hend := hplain.join (by decide : Separates " -->".toList) hnil
  rw [List.append_nil] at hend
  have hsecond := hsource.join (by decide : Separates "\n\n<!-- END ".toList) hend
  have hfirst := hplain.join (by decide : Separates " -->\n\n".toList) hsecond
  have hwhole := hnil.join (by decide : Separates "<!-- START ".toList) hfirst
  rwa [List.nil_append] at hwhole

/-- The last character is the end of a comment, so no line end is lost. -/
theorem endsOnLine_embed : EndsOnLine (embed source name file).toList := by
  have hlast : (embed source name file).toList.getLast? = some '>' := by
    unfold embed
    rw [String.toList_append, List.getLast?_append]
    rfl
  unfold EndsOnLine
  rw [hlast]
  decide

theorem embed_file_ne (f : String) : embed source name (some f) ≠ embed source name none := by
  intro h
  have hlength := congrArg String.length h
  unfold embed at hlength
  simp only [String.length_append] at hlength
  have hbar : " | ".length = 3 := rfl
  omega

theorem embed_injective {content a b : String} (h : embed content a none = embed content b none) :
    a = b := by
  have hlength := congrArg String.length h
  have hlist := congrArg String.toList h
  simp only [embed_none, String.length_append] at hlength
  simp only [embed_none, String.toList_append, List.append_assoc] at hlist
  have hsame : a.toList.length = b.toList.length := by
    rw [String.length_toList, String.length_toList]
    omega
  exact String.toList_inj.1 (List.append_inj (List.append_cancel_left hlist) hsame).1

end Embed

/-! ## Renderers -/

variable {L : TemplateLanguage} {σ : Type}

theorem seen_renderSource (number : Nat) (env : L.Environment) (roots : List String)
    (name source : String) (vars : Variables) (w : World σ) :
    seen (L.renderSource number env roots name source vars w) =
      (L.render env (w.files.includeSource roots) (keptBy number w.sources) name source
        vars).1.mapError TemplateFault.toError := by
  unfold renderSource
  generalize L.render env _ _ name source vars = out
  obtain ⟨result, kept⟩ := out
  cases result <;> rfl

theorem renderString_renderer (number : Nat) (env : L.Environment) (roots : List String)
    (embedding : Bool) (text : String) (vars : Variables) (path : Option String) (w : World σ) :
    (L.renderer number env roots embedding).renderString text vars path w =
      L.renderSource number env roots (path.getD anonymous)
        (if embedding then embed text (path.getD anonymous) none else text) vars w := rfl

/-- Comments are rendered with the text in them. -/
theorem CopiesText.embedded (h : L.CopiesText) {source name : String} {file : Option String}
    (hsource : Plain source.toList) (hname : Plain name.toList)
    (hfile : ∀ f ∈ file, Plain f.toList) (number : Nat) (env : L.Environment)
    (roots : List String) (vars : Variables) (w : World σ) :
    seen (L.renderSource number env roots name (embed source name file) vars w) =
      .ok (embed source name file) := by
  rw [seen_renderSource, h _ _ _ _ _ _ (plain_embed hsource hname hfile) endsOnLine_embed]
  rfl

/-- A renderer has a number and an environment, and these do not depend on whether it
    wraps. -/
theorem createRenderer_eq_ok_iff {id : EngineId} {settings : L.Settings σ}
    {context : EngineContext} {ft : FileType σ} {w w₁ : World σ} {r : Renderer σ} :
    (L.engine id settings).createRenderer context ft w = .ok r w₁ ↔
      ∃ env, settings.environment ft { w with numbered := w.numbered + 1 } = .ok env w₁ ∧
        r = L.renderer w.numbered env context.roots
          (settings.embedPaths && isMarkup ft.mimetype) := by
  have hnumber : (Action.freshNumber : Action σ Nat) w =
      .ok w.numbered { w with numbered := w.numbered + 1 } := rfl
  unfold engine
  dsimp only
  rw [bind_of_ok hnumber, bind_eq_ok_iff]
  constructor
  · rintro ⟨env, w', henv, hrenderer⟩
    cases hrenderer
    exact ⟨env, henv, rfl⟩
  · rintro ⟨env, henv, rfl⟩
    exact ⟨env, w₁, henv, rfl⟩

end RenderChain.TemplateLanguage
