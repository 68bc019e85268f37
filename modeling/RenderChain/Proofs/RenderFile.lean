/-
  RenderChain/Proofs/RenderFile.lean
  ==================================
  **When a file renders like its text.**

  A renderer is told to render a file or a text, and what a file renders to should
  not depend on who reads it.  With the placeholder language this is so, and with
  every template language as well, as long as the engine adds nothing to the source.

  An engine that wraps markup in comments does add something.  It names the file in
  them if it knows one, so the file and its text are two sources.  Apart from this
  the renderer does with both what it would do without comments.  In particular, if
  the language copies text, the outputs differ whenever the sources have no tags.

    * `createRenderer_eq_ok`: what a renderer of a template language consists of;
    * `renderFile_of_text`: which file renders like its text, and what the others
      render to;
    * `commented_file_differs`: a page that renders to something else than its text, in
      every language that copies text.
-/
import RenderChain.Placeholder
import RenderChain.Proofs.FileTree
import RenderChain.Proofs.PlainText

namespace RenderChain

variable {L : TemplateLanguage} {σ : Type}

open TemplateLanguage (CopiesText Plain anonymous embed isMarkup)

/-! ## Renderers of a template language -/

namespace TemplateLanguage

/-- Whether it wraps does not matter to what a renderer is made of. -/
theorem createRenderer_eq_ok {id : EngineId} {settings : L.Settings σ} {context : EngineContext}
    {ft : FileType σ} {w w₁ : World σ} {r : Renderer σ}
    (h : (L.engine id settings).createRenderer context ft w = .ok r w₁) :
    ∃ number env,
      r = L.renderer number env context.roots (settings.embedPaths && isMarkup ft.mimetype) ∧
      ∀ embedPaths,
        (L.engine id { settings with embedPaths := embedPaths }).createRenderer context ft w =
          .ok (L.renderer number env context.roots (embedPaths && isMarkup ft.mimetype)) w₁ := by
  obtain ⟨env, henv, rfl⟩ := createRenderer_eq_ok_iff.1 h
  exact ⟨w.numbered, env, rfl, fun _ => createRenderer_eq_ok_iff.2 ⟨env, henv, rfl⟩⟩

theorem renderFile_renderer {number : Nat} {env : L.Environment} {roots : List String}
    {embedding : Bool} {file text : String} {w : World σ}
    (h : w.files.readText file = .ok text) (vars : Variables) (path : Option String) :
    (L.renderer number env roots embedding).renderFile file vars path w =
      L.renderSource number env roots (path.getD anonymous)
        (if embedding then embed text (path.getD anonymous) (some file) else text) vars w :=
  bind_of_ok (Action.readText_of_ok h)

end TemplateLanguage

/-! ## Files and their texts -/

open TemplateLanguage (renderFile_renderer renderString_renderer embed_file_ne)

/-- The engines of this library, with their settings, over some template language. -/
inductive OwnEngine (L : TemplateLanguage) (σ : Type)
  | placeholder
  | templates (settings : L.Settings σ)

namespace OwnEngine

def toEngine (id : EngineId) : OwnEngine L σ → Engine σ
  | placeholder => Placeholder.engine id
  | templates settings => L.engine id settings

/-- Whether the texts of a file type are wrapped in comments. -/
def wraps (ft : FileType σ) : OwnEngine L σ → Bool
  | placeholder => false
  | templates settings => settings.embedPaths && isMarkup ft.mimetype

/-- The same engine, if it wrapped nothing. -/
def bare : OwnEngine L σ → OwnEngine L σ
  | placeholder => placeholder
  | templates settings => templates { settings with embedPaths := false }

/-- How a renderer of the engine treats a file, compared with the text in it. -/
structure Treats (own : OwnEngine L σ) (ft : FileType σ) (r bare : Renderer σ)
    (file text : String) (vars : Variables) (path : Option String) (w : World σ) : Prop where
  /-- Without comments the file is rendered like its text. -/
  alike : own.wraps ft = false → r.renderFile file vars path w = r.renderString text vars path w
  /-- With comments the file is rendered as the text is between comments that name
      both the path and the file... -/
  ofFile : own.wraps ft = true → r.renderFile file vars path w =
    bare.renderString (embed text (path.getD anonymous) (some file)) vars path w
  /-- ... and the text with comments that name the path alone. -/
  ofText : own.wraps ft = true → r.renderString text vars path w =
    bare.renderString (embed text (path.getD anonymous) none) vars path w
  /-- If the language copies text and no tag opens in any of these, this is the output, and
      never the same. -/
  shown : own.wraps ft = true → L.CopiesText → Plain text.toList → Plain file.toList →
    Plain (path.getD anonymous).toList →
      seen (r.renderFile file vars path w) =
        .ok (embed text (path.getD anonymous) (some file)) ∧
      seen (r.renderString text vars path w) =
        .ok (embed text (path.getD anonymous) none) ∧
      seen (r.renderFile file vars path w) ≠ seen (r.renderString text vars path w)

theorem treats_placeholder (id : RendererId) (ft : FileType σ)
    (render : String → Variables → Option String → Action σ String) {file text : String}
    {w : World σ} (h : w.files.readText file = .ok text) (vars : Variables)
    (path : Option String) :
    (placeholder : OwnEngine L σ).Treats ft (.ofString id render) (.ofString id render) file text
      vars path w where
  alike _ := bind_of_ok (Action.readText_of_ok h)
  ofFile hwraps := by cases hwraps
  ofText hwraps := by cases hwraps
  shown hwraps := by cases hwraps

theorem treats_templates (settings : L.Settings σ) (ft : FileType σ) (number : Nat)
    (env : L.Environment) (roots : List String) {file text : String} {w : World σ}
    (h : w.files.readText file = .ok text) (vars : Variables) (path : Option String) :
    (templates settings).Treats ft
      (L.renderer number env roots ((templates settings).wraps ft))
      (L.renderer number env roots false) file text vars path w where
  alike hwraps := by
    rw [hwraps, renderFile_renderer h, renderString_renderer,
      if_neg Bool.false_ne_true, if_neg Bool.false_ne_true]
  ofFile hwraps := by
    rw [hwraps, renderFile_renderer h, renderString_renderer, if_pos rfl,
      if_neg Bool.false_ne_true]
  ofText hwraps := by
    rw [hwraps, renderString_renderer, renderString_renderer, if_pos rfl,
      if_neg Bool.false_ne_true]
  shown hwraps hcopies htext hfile hpath := by
    have hof := hcopies.embedded htext hpath
      (fun f (hf : f ∈ some file) => by cases hf; exact hfile) number env roots vars w
    have hofText := hcopies.embedded htext hpath
      (fun f (hf : f ∈ none) => by cases hf) number env roots vars w
    rw [hwraps, renderFile_renderer h, renderString_renderer, if_pos rfl, if_pos rfl, hof,
      hofText]
    exact ⟨rfl, rfl, fun hsame => embed_file_ne file (Except.ok.inj hsame)⟩

/-- **A file renders like its text, unless it is wrapped.**  This holds of every renderer
    that an engine builds, and also of what is changed and of the errors.  If the renderer
    wraps, then file and text are rendered as two wrapped texts are by the renderer that
    does not wrap, which the same engine would have built.  The language may be any; only
    of one that copies text it is said what these texts render to. -/
theorem renderFile_of_text {own : OwnEngine L σ} {id : EngineId} {context : EngineContext}
    {ft : FileType σ} {r : Renderer σ} {w₀ w₁ : World σ}
    (hr : (own.toEngine id).createRenderer context ft w₀ = .ok r w₁) :
    ∃ unwrapped, (own.bare.toEngine id).createRenderer context ft w₀ = .ok unwrapped w₁ ∧
      ∀ (file text : String) (w : World σ), w.files.readText file = .ok text →
        ∀ vars path, own.Treats ft r unwrapped file text vars path w := by
  cases own with
  | placeholder =>
    cases hr
    exact ⟨_, rfl, fun file text w htext vars path =>
      treats_placeholder _ ft _ htext vars path⟩
  | templates settings =>
    obtain ⟨number, env, rfl, hothers⟩ := TemplateLanguage.createRenderer_eq_ok hr
    exact ⟨_, hothers false, fun file text w htext vars path =>
      treats_templates settings ft number env context.roots htext vars path⟩

namespace Notes

def page : FileType Unit := ⟨"text/html", ["html"], [], []⟩

def disk : World Unit :=
  ⟨⟨[(["work"], .folder), (["work", "a.html"], .file "x".toUTF8)], ["work"]⟩, [], 0, ()⟩

/-- An engine that wraps. -/
def commenting (L : TemplateLanguage) : OwnEngine L Unit := .templates ⟨true, none⟩

/-- What it renders a page with. -/
def pageRenderer (L : TemplateLanguage) : Renderer Unit :=
  L.renderer 0 (L.environmentOf page) [] true

theorem createRenderer_page (L : TemplateLanguage) :
    ((commenting L).toEngine (.numbered 0)).createRenderer ⟨[], none⟩ page disk =
      .ok (pageRenderer L) { disk with numbered := 1 } := rfl

theorem readText_page : disk.files.readText "a.html" = .ok "x" := by
  have hlocate : disk.files.locate "a.html" = .ok ["work", "a.html"] := by
    have hsplit : Text.split '/' "a.html" = ["a.html"] := by decide
    unfold Files.locate Files.locateWith
    rw [if_neg (by decide), if_neg (by decide), if_neg (by decide), if_neg (by decide), hsplit]
    rw [Files.follow_cons rfl (by decide) (by decide) ⟨.file _, rfl, by simp⟩]
    rw [Files.follow_nil]
    rfl
  unfold Files.readText Files.readBytes
  rw [hlocate]
  rfl

end Notes

open OwnEngine.Notes (page disk pageRenderer)

/-- A page of one letter, as a file and as a text, in the template language of this library. -/
theorem renderFile_of_text_page :
    seen ((pageRenderer Jinja.language).renderFile "a.html" [] (some "a") disk) =
      .ok "<!-- START a | a.html -->\n\nx\n\n<!-- END a | a.html -->" ∧
    seen ((pageRenderer Jinja.language).renderString "x" [] (some "a") disk) =
      .ok "<!-- START a -->\n\nx\n\n<!-- END a -->" := by
  obtain ⟨unwrapped, -, htreats⟩ := renderFile_of_text (Notes.createRenderer_page Jinja.language)
  obtain ⟨hfile, htext, -⟩ := (htreats "a.html" "x" disk Notes.readText_page [] (some "a")).shown
    rfl Jinja.language_copiesText (by decide) (by decide) (by decide)
  exact ⟨hfile, htext⟩

/-- In no language that copies text is every file rendered like its text: the page and the
    text in it are rendered by one renderer, under one path, to different texts. -/
theorem commented_file_differs :
    ¬ ∃ L : TemplateLanguage, L.CopiesText ∧
      ∀ (own : OwnEngine L Unit) (id : EngineId) (context : EngineContext) (ft : FileType Unit)
        (r : Renderer Unit) (w₀ w₁ : World Unit),
        (own.toEngine id).createRenderer context ft w₀ = .ok r w₁ →
        ∀ (file text : String) (w : World Unit), w.files.readText file = .ok text →
          ∀ (vars : Variables) (path : Option String),
            seen (r.renderFile file vars path w) = seen (r.renderString text vars path w) := by
  rintro ⟨L, hcopies, h⟩
  have hsame := h (Notes.commenting L) (.numbered 0) ⟨[], none⟩ page _ _ _
    (Notes.createRenderer_page L) "a.html" "x" disk Notes.readText_page [] (some "a")
  have htreats := treats_templates (L := L) ⟨true, none⟩ page 0 (L.environmentOf page) []
    Notes.readText_page [] (some "a")
  exact (htreats.shown rfl hcopies (by decide) (by decide) (by decide)).2.2 hsame

end OwnEngine

end RenderChain
