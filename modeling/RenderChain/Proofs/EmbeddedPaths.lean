/-
  RenderChain/Proofs/EmbeddedPaths.lean
  =====================================
  **What the comments around a text say.**

  An engine that wraps markup in comments puts them around the source and not
  around the output.  So the path in them is read as a part of the template.  In a
  language that evaluates names a path in which no tag opens is shown as it is,
  and of a path whose tags are names the values of these names are shown.

    * `Tagged.isSound_join`, `Tagged.shown_join`: texts with names, put together;
    * `embedding_exact`: what the comments of a renderer say, for every path whose
      tags are names;
    * `embedded_path_evaluated`: a path that no comment shows, in any such language.
-/
import RenderChain.Proofs.RenderFile
import RenderChain.Proofs.TagOutput

namespace RenderChain.TemplateLanguage

/-! ## Texts with names, put together -/

namespace Tagged

def prepend (cs : List Char) : Tagged → Tagged
  | text ds => text (cs ++ ds)
  | tagged ds name rest => tagged (cs ++ ds) name rest

/-- One text, and after a mark the other. -/
def join (mark : List Char) : Tagged → Tagged → Tagged
  | text cs, n => n.prepend (cs ++ mark)
  | tagged cs name rest, n => tagged cs name (rest.join mark n)

variable {mark : List Char} {m n : Tagged}

theorem written_prepend (cs : List Char) (m : Tagged) :
    (m.prepend cs).written = cs ++ m.written := by
  cases m <;> simp [prepend, written]

theorem written_join (mark : List Char) (m n : Tagged) :
    (m.join mark n).written = m.written ++ (mark ++ n.written) := by
  induction m with
  | text cs => simp [join, written, written_prepend]
  | tagged cs name rest ih => simp [join, written, ih]

/-- No brace comes to stand before a tag. -/
theorem getLast?_ne_of_separates {ds : List Char} (hmark : Separates mark)
    (hlast : ds.getLast? ≠ some '{') (cs : List Char) :
    (cs ++ mark ++ ds).getLast? ≠ some '{' := by
  obtain ⟨-, -, hfinal⟩ := hmark
  obtain ⟨c, hc, hne⟩ := (Option.any_eq_true _ _).1 hfinal
  rw [List.getLast?_append, List.getLast?_append, hc]
  cases hd : ds.getLast? with
  | none => simpa using hne
  | some d => simpa [hd] using hlast

theorem isSound_prepend {cs : List Char} (hmark : Separates mark) (hcs : Plain cs)
    (h : m.IsSound) : (m.prepend (cs ++ mark)).IsSound := by
  cases m with
  | text ds =>
    show Plain (cs ++ mark ++ ds)
    rw [List.append_assoc]
    exact hcs.join hmark h
  | tagged ds name rest =>
    obtain ⟨⟨hds, hlast⟩, hname, hrest⟩ := h
    refine ⟨⟨?_, getLast?_ne_of_separates hmark hlast cs⟩, hname, hrest⟩
    rw [List.append_assoc]
    exact hcs.join hmark hds

theorem isSound_join (hmark : Separates mark) (hm : m.IsSound) (hn : n.IsSound) :
    (m.join mark n).IsSound := by
  induction m with
  | text cs => exact isSound_prepend hmark hm hn
  | tagged cs name rest ih => exact ⟨hm.1, hm.2.1, ih hm.2.2⟩

variable {value : String → Option String}

theorem together_some (cs ds : List Char) :
    together (some (String.ofList cs)) (some (String.ofList ds)) =
      some (String.ofList (cs ++ ds)) := by
  rw [String.ofList_append]
  rfl

theorem shown_prepend (cs : List Char) (m : Tagged) :
    (m.prepend cs).shown value = together (some (String.ofList cs)) (m.shown value) := by
  cases m with
  | text ds => exact (together_some cs ds).symm
  | tagged ds name rest => rw [prepend, shown, shown, ← together_some, together_assoc]

theorem shown_join (mark : List Char) (m n : Tagged) :
    (m.join mark n).shown value =
      together (m.shown value) (together (some (String.ofList mark)) (n.shown value)) := by
  induction m with
  | text cs => rw [join, shown_prepend, shown, ← together_some, together_assoc]
  | tagged cs name rest ih => rw [join, shown, shown, ih, together_assoc, together_assoc]

/-! ### Comments around a text -/

/-- The text between comments that name the path. -/
def embed (content : List Char) (path : Tagged) : Tagged :=
  (text []).join "<!-- START ".toList <|
    path.join " -->\n\n".toList <|
    (text content).join "\n\n<!-- END ".toList <|
    path.join " -->".toList (text [])

theorem source_embed (content : String) (path : Tagged) :
    (embed content.toList path).source = TemplateLanguage.embed content path.source none := by
  refine String.toList_inj.1 ?_
  simp only [source, embed, written_join, written, embed_none, String.toList_append,
    String.toList_ofList, List.append_assoc, List.nil_append, List.append_nil]

theorem isSound_embed {content : List Char} {path : Tagged} (hcontent : Plain content)
    (hpath : path.IsSound) : (embed content path).IsSound := by
  have hempty : (text []).IsSound := List.IsChain.nil
  have hend := isSound_join (by decide : Separates " -->".toList) hpath hempty
  have hsecond := isSound_join (by decide : Separates "\n\n<!-- END ".toList)
    (show (text content).IsSound from hcontent) hend
  have hfirst := isSound_join (by decide : Separates " -->\n\n".toList) hpath hsecond
  exact isSound_join (by decide : Separates "<!-- START ".toList) hempty hfirst

theorem shown_embed (content : String) (path : Tagged) :
    (embed content.toList path).shown value =
      (path.shown value).map (TemplateLanguage.embed content · none) := by
  simp only [embed, shown_join, shown]
  cases path.shown value with
  | none => rfl
  | some location =>
    simp only [together, embed_none, Option.map₂_some_some, Option.map_some,
      String.ofList_toList, String.ofList_nil, String.append_assoc, String.empty_append,
      String.append_empty]

end Tagged

/-! ## Renderers that wrap -/

variable {L : TemplateLanguage} {print : L.Printer} {σ : Type}

/-- What a renderer with this environment does with a path, compared with one that
    does not wrap. -/
structure Embeds (print : L.Printer) (env : L.Environment) (r bare : Renderer σ) : Prop where
  /-- The path is rendered together with the text. -/
  source : ∀ content vars path w, r.renderString content vars (some path) w =
    bare.renderString (embed content path none) vars (some path) w
  /-- If no tag opens in them, both are shown as they are. -/
  plain : ∀ (content : String) vars (path : String) w, Plain content.toList →
    Plain path.toList → seen (r.renderString content vars (some path) w) =
      .ok (embed content path none)
  /-- The names in the path are not shown, but their values... -/
  shown : ∀ (content : String) vars (path : Tagged) w, Plain content.toList → path.IsSound →
    ∀ location, path.shown (print.values env path.source vars) = some location →
      seen (r.renderString content vars (some path.source) w) = .ok (embed content location none)
  /-- ... and so the path is shown just when all its names stand for themselves. -/
  verbatim : ∀ (content : String) vars (path : Tagged) w, Plain content.toList → path.IsSound →
    ∀ location, path.shown (print.values env path.source vars) = some location →
      (seen (r.renderString content vars (some path.source) w) =
        .ok (embed content path.source none) ↔ location = path.source)

theorem seen_renderString_tagged (h : L.EvaluatesNames print) {content : String} {path : Tagged}
    (hcontent : Plain content.toList) (hpath : path.IsSound) {env : L.Environment}
    {vars : Variables} {location : String}
    (hlocation : path.shown (print.values env path.source vars) = some location)
    (number : Nat) (roots : List String) (w : World σ) :
    seen ((L.renderer number env roots true).renderString content vars (some path.source) w) =
      .ok (embed content location none) := by
  have hsource := Tagged.source_embed content path
  have hend : EndsOnLine (Tagged.embed content.toList path).source.toList := by
    rw [hsource]
    exact endsOnLine_embed
  rw [Tagged.source, String.toList_ofList] at hend
  have hshown : (Tagged.embed content.toList path).shown (print.values env path.source vars) =
      some (embed content location none) := by
    rw [Tagged.shown_embed, hlocation]
    rfl
  have hrender := h.shown env (w.files.includeSource roots) (keptBy number w.sources) path.source
    vars _ (Tagged.isSound_embed hcontent hpath) hend _ hshown
  rw [renderString_renderer, if_pos rfl, Option.getD_some, seen_renderSource, ← hsource, hrender]
  rfl

theorem embeds_renderer (h : L.EvaluatesNames print) (number : Nat) (env : L.Environment)
    (roots : List String) :
    Embeds print env (L.renderer number env roots true : Renderer σ)
      (L.renderer number env roots false) where
  source content vars path w := by
    rw [renderString_renderer, renderString_renderer, if_pos rfl, if_neg Bool.false_ne_true]
    rfl
  plain content vars path w hcontent hpath := by
    rw [renderString_renderer, if_pos rfl]
    exact h.copiesText.embedded hcontent hpath (fun _ hfile => by cases hfile) number env roots
      vars w
  shown content vars path w hcontent hpath location hlocation :=
    seen_renderString_tagged h hcontent hpath hlocation number roots w
  verbatim content vars path w hcontent hpath location hlocation := by
    rw [seen_renderString_tagged h hcontent hpath hlocation number roots w]
    constructor
    · intro hsame
      exact embed_injective (Except.ok.inj hsame)
    · rintro rfl
      rfl

/-- **Embedded paths are parts of the template.**  This holds of every renderer that an
    engine with comments builds for markup, over every language that evaluates names.  The
    environment of the renderer is the one that the engine makes for the file type, with
    all that the caller changes in it. -/
theorem embedding_exact (hnames : L.EvaluatesNames print) {id : EngineId}
    {settings : L.Settings σ} {context : EngineContext} {ft : FileType σ} {w w₁ : World σ}
    {r : Renderer σ} (hembeds : settings.embedPaths = true) (hmarkup : isMarkup ft.mimetype = true)
    (hr : (L.engine id settings).createRenderer context ft w = .ok r w₁) :
    ∃ env bare,
      settings.environment ft { w with numbered := w.numbered + 1 } = .ok env w₁ ∧
      (L.engine id { settings with embedPaths := false }).createRenderer context ft w =
        .ok bare w₁ ∧
      Embeds print env r bare := by
  obtain ⟨env, henv, rfl⟩ := createRenderer_eq_ok_iff.1 hr
  refine ⟨env, _, henv, createRenderer_eq_ok_iff.2 ⟨env, henv, rfl⟩, ?_⟩
  rw [hembeds, hmarkup]
  exact embeds_renderer hnames w.numbered env context.roots

namespace Notes

open OwnEngine.Notes (page disk pageRenderer)

theorem createRenderer_markup (L : TemplateLanguage) :
    (L.engine (.numbered 0) ⟨true, none⟩).createRenderer ⟨[], none⟩ page disk =
      .ok (pageRenderer L) { disk with numbered := 1 } := rfl

/-- A path that is a name and one that starts with it. -/
def namePath : Tagged := .tagged [] "a" (.text [])

def startPath : Tagged := .tagged [] "a" (.text ['/', 'c'])

/-- A variable that holds a text is shown as the text, escaped. -/
theorem shown_of_text {L : TemplateLanguage} {print : L.Printer} (h : L.EvaluatesNames print)
    (text name : String) (after : List Char) :
    (Tagged.tagged [] "a" (.text after)).shown
        (print.values (L.environmentOf page) name [("a", .string text)]) =
      some (Text.escapeMarkup text ++ String.ofList after) := by
  have hvalue : print.values (L.environmentOf page) name [("a", .string text)] "a" =
      some (Text.escapeMarkup text) := h.texts true _ _ name _ text
  rw [Tagged.shown, hvalue]
  exact congrArg some String.empty_append

end Notes

open OwnEngine.Notes (page disk pageRenderer)

/-- A path that starts with a name. -/
theorem embedding_exact_page :
    seen ((pageRenderer Jinja.language).renderString "x" [("a", .string "<b>")]
      (some "\x7b\x7b a \x7d\x7d/c") disk) =
      .ok "<!-- START &lt;b&gt;/c -->\n\nx\n\n<!-- END &lt;b&gt;/c -->" := by
  obtain ⟨env, bare, henv, -, hembeds⟩ := embedding_exact Jinja.language_evaluatesNames rfl
    (by decide) (Notes.createRenderer_markup Jinja.language)
  cases henv
  exact hembeds.shown "x" [("a", .string "<b>")] Notes.startPath disk (by decide) (by decide)
    _ (Notes.shown_of_text Jinja.language_evaluatesNames "<b>" _ ['/', 'c'])

/-- In no language that evaluates names is every path shown: one that is the name of a
    variable gives way to its value. -/
theorem embedded_path_evaluated :
    ¬ ∃ (L : TemplateLanguage) (print : L.Printer), L.EvaluatesNames print ∧
      ∀ (id : EngineId) (settings : L.Settings Unit) (context : EngineContext)
        (ft : FileType Unit) (r : Renderer Unit) (w₀ w₁ : World Unit),
        settings.embedPaths = true → isMarkup ft.mimetype = true →
        (L.engine id settings).createRenderer context ft w₀ = .ok r w₁ →
        ∀ (content path : String), Plain content.toList → ∀ (vars : Variables) (w : World Unit),
          ∃ output, seen (r.renderString content vars (some path) w) = .ok output ∧
            ("<!-- START " ++ path ++ " -->").toList <+: output.toList ∧
            ("<!-- END " ++ path ++ " -->").toList <:+ output.toList := by
  rintro ⟨L, print, hnames, h⟩
  obtain ⟨output, houtput, hstart, -⟩ := h (.numbered 0) ⟨true, none⟩ ⟨[], none⟩ page
    (pageRenderer L) disk _ rfl (by decide) (Notes.createRenderer_markup L) "x"
    Notes.namePath.source (by decide) [("a", .string "b")] disk
  have hshown := seen_renderString_tagged hnames (by decide : Plain "x".toList)
    (by decide : Notes.namePath.IsSound) (Notes.shown_of_text hnames "b" _ []) 0 [] disk
  obtain rfl := Except.ok.inj (hshown.symm.trans houtput)
  exact absurd hstart (by decide)

end RenderChain.TemplateLanguage
