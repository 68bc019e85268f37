/-
  RenderChain/Proofs/Tags.lean
  ============================
  **The tokens of texts with names.**

  A reader finds in a text whose tags are names texts and names, one after the other, and
  the tokens of the text are those of its parts.  Lines are left out of this: they only tell
  where a fault is.

    * `cutAtTag_append`: where a tag opens;
    * `scanFrom_of_value`, `scanFrom_word`, `scanFrom_close`: what is read of one tag;
    * `reads_scan`: the tokens of the whole text.
-/
import RenderChain.Proofs.PlainText

namespace RenderChain.Jinja

open TemplateLanguage (Plain BeforeTag IsName Tagged EndsOnLine tag)

/-! ## Parts -/

/-- What a reader finds in a text with tags. -/
inductive Part
  | data (text : String)
  | value (name : String)

namespace Part

def ofText (cs : List Char) : List Part := if cs.isEmpty then [] else [.data (String.ofList cs)]

def tokens : Part → List Token
  | data text => [.data text]
  | value name => [.openExpr, .ident name, .closeExpr]

end Part

/-- The parts of a text, with those of its tags in between. -/
def partsOf : Tagged → List Part
  | .text cs => Part.ofText cs
  | .tagged cs name rest => Part.ofText cs ++ .value name :: partsOf rest

/-! ## Tokens -/

namespace Token

/-- A text is cut where its first tag opens. -/
theorem cutAtTag_append {cs : List Char} {c : Char} (h : BeforeTag cs)
    (hc : c = '{' ∨ c = '%' ∨ c = '#') (rest : List Char) :
    cutAtTag (cs ++ '{' :: c :: rest) = (cs, some (c, rest)) := by
  obtain ⟨h, hlast⟩ := h
  fun_induction cutAtTag cs with
  | case1 => simp [cutAtTag, hc]
  | case2 d ds hopens =>
    have hclosed := (List.isChain_cons_cons.1 h).1 rfl
    simp only [List.mem_cons, List.not_mem_nil, or_false] at hclosed
    exact absurd hopens hclosed
  | case3 d ds hcloses before found heq ih =>
    have hrest := ih (List.isChain_cons_cons.1 h).2 (by simpa using hlast)
    rw [List.cons_append, List.cons_append] at *
    rw [cutAtTag.eq_2, if_neg hcloses, hrest]
  | case4 d ds hfirst before found heq ih =>
    have hd : d ≠ '{' := by
      rintro rfl
      cases ds with
      | nil => exact hlast rfl
      | cons e es => exact hfirst e es rfl rfl
    have hlast' : ds.getLast? ≠ some '{' := by
      cases ds with
      | nil => simp
      | cons e es => simpa using hlast
    rw [List.cons_append, cutAtTag.eq_3 _ _ (fun _ _ hbrace _ => hd hbrace),
      ih h.tail hlast']

/-! ### What is scanned -/

/-- All of the text was scanned, and these are its tokens. -/
structure Reads (s : Scanned) (tokens : List Token) : Prop where
  tokens_eq : s.1.map (·.token) = tokens
  stop_eq : s.2 = none

theorem Reads.prepend {s : Scanned} {tokens before : List Token} {located : List Located}
    (hbefore : located.map (·.token) = before) (h : Reads s tokens) :
    Reads (s.prepend located) (before ++ tokens) where
  tokens_eq := by
    simp only [Scanned.prepend, List.map_append, hbefore, h.tokens_eq]
  stop_eq := h.stop_eq

theorem map_dataToken (line : Nat) (cs : List Char) :
    (dataToken line cs).map (·.token) = (Part.ofText cs).flatMap Part.tokens := by
  unfold dataToken Part.ofText
  split <;> rfl

section Scan

variable {cs ds inside : List Char} {tokens : List Token} (fuel line : Nat)

theorem scanFrom_of_plain (h : Plain cs) :
    scanFrom (fuel + 1) (.text false) line cs = (dataToken line cs, none) := by
  cases cs with
  | nil => rfl
  | cons c rest =>
    unfold scanFrom
    simp only [if_neg Bool.false_ne_true]
    rw [cutAtTag_of_plain h]

theorem scanFrom_of_value (hcs : BeforeTag cs)
    (hsign : inside.head? ∉ [some '-', some '+']) :
    scanFrom (fuel + 1) (.text false) line (cs ++ '{' :: '{' :: inside) =
      Scanned.prepend (dataToken line cs) (Scanned.prepend [⟨.openExpr, endLine line cs⟩]
        (scanFrom fuel (.tag false 0) (endLine line cs) inside)) := by
  simp only [List.mem_cons, List.not_mem_nil, or_false, not_or] at hsign
  cases hsource : cs ++ '{' :: '{' :: inside with
  | nil => simp at hsource
  | cons c more =>
    conv_lhs => unfold scanFrom
    simp only [if_neg Bool.false_ne_true]
    rw [← hsource, cutAtTag_append hcs (by simp)]
    simp only [hsign, or_self, if_false, if_true]
    rfl

theorem reads_text (h : Plain cs) :
    Reads (scanFrom (fuel + 1) (.text false) line cs) ((Part.ofText cs).flatMap Part.tokens) := by
  rw [scanFrom_of_plain fuel line h]
  exact ⟨map_dataToken line cs, rfl⟩

/-- What is read as one word. -/
def IsWord (cs : List Char) : Prop := cs.head?.any isWordStart ∧ cs.all isWordPart

theorem isWord_of_isName {name : String} (h : IsName name) : IsWord name.toList := ⟨h.1, h.2.1⟩

/-- The name in a tag, and a space behind it. -/
theorem next?_of_word {name : List Char} (h : IsWord name) (rest : List Char) :
    next? line (name ++ ' ' :: rest) = .ok (.ident (String.ofList name), line, ' ' :: rest) := by
  obtain ⟨hstart, hparts⟩ := h
  cases name with
  | nil => simp at hstart
  | cons c cs =>
    have hword : ∀ d ∈ c :: cs, isWordPart d := List.all_eq_true.1 hparts
    have hspace : isWordPart ' ' = false := by decide
    unfold next?
    rw [List.cons_append]
    dsimp only
    rw [if_pos (by simpa using hstart), ← List.cons_append,
      List.takeWhile_append_of_pos hword, List.dropWhile_append_of_pos hword,
      List.takeWhile_cons_of_neg (by simp [hspace]), List.dropWhile_cons_of_neg (by simp [hspace]),
      List.append_nil]

theorem ne_of_isWordStart {c : Char} (h : isWordStart c) {d : Char} (hd : isWordStart d = false) :
    c ≠ d := by
  rintro rfl
  rw [h] at hd
  cases hd

/-- A name in a tag is not taken for its end... -/
theorem closing?_of_word {c : Char} (h : isWordStart c) (rest : List Char) :
    closing? false (c :: rest) = none := by
  have hminus : c ≠ '-' := ne_of_isWordStart h (by decide)
  have hplus : c ≠ '+' := ne_of_isWordStart h (by decide)
  have hbrace : c ≠ '}' := ne_of_isWordStart h (by decide)
  rw [closing?.eq_def, if_neg Bool.false_ne_true]
  split
  · rename_i heq
    exact absurd (List.cons.inj heq).1 hminus
  · rename_i heq
    exact absurd (List.cons.inj heq).1 hplus
  · simp [after?, Ne.symm hbrace]

/-- ... nor for a space. -/
theorem isSpace_of_word {c : Char} (h : isWordStart c) : isSpace c = false := by
  cases hspace : isSpace c with
  | false => rfl
  | true =>
    simp only [isSpace, Bool.or_eq_true, decide_eq_true_eq] at hspace
    rcases hspace with (((rfl | rfl) | rfl) | rfl) | rfl <;> exact absurd h (by decide)

theorem scanFrom_word {name : List Char} (h : IsWord name) (rest : List Char) :
    scanFrom (fuel + 1) (.tag false 0) line (' ' :: (name ++ ' ' :: rest)) =
      Scanned.prepend [⟨.ident (String.ofList name), endLine line [' ']⟩]
        (scanFrom fuel (.tag false 0) (endLine line [' ']) (' ' :: rest)) := by
  have hnext := next?_of_word (endLine line [' ']) h rest
  cases name with
  | nil => exact absurd h.1 (by simp)
  | cons c cs =>
    have hword : isWordStart c := by simpa using h.1
    have hsp : isSpace ' ' := by decide
    have hc : ¬ isSpace c = true := by rw [isSpace_of_word hword]; exact Bool.false_ne_true
    have hshown : skipSpace (' ' :: (c :: cs ++ ' ' :: rest)) = c :: cs ++ ' ' :: rest := by
      unfold skipSpace
      rw [List.dropWhile_cons_of_pos hsp, List.cons_append, List.dropWhile_cons_of_neg hc]
    have hskipped : (' ' :: (c :: cs ++ ' ' :: rest)).takeWhile isSpace = [' '] := by
      rw [List.takeWhile_cons_of_pos hsp, List.cons_append, List.takeWhile_cons_of_neg hc]
    conv_lhs => unfold scanFrom
    dsimp only
    rw [hshown, hskipped, if_pos rfl, List.cons_append, closing?_of_word hword,
      ← List.cons_append]
    dsimp only
    rw [hnext]
    rfl

theorem scanFrom_close (rest : List Char) :
    scanFrom (fuel + 1) (.tag false 0) line (' ' :: '}' :: '}' :: rest) =
      Scanned.prepend [⟨.closeExpr, endLine line [' ']⟩]
        (scanFrom fuel (.text false) (endLine line [' ']) rest) := by
  conv_lhs => unfold scanFrom
  rfl

theorem reads_value {name : String} (hcs : BeforeTag cs) (hname : IsName name)
    (hrest : ∀ line, Reads (scanFrom fuel (.text false) line ds) tokens) :
    Reads (scanFrom (fuel + 3) (.text false) line (cs ++ (tag name ++ ds)))
      ((Part.ofText cs).flatMap Part.tokens ++
        (.openExpr :: .ident name :: .closeExpr :: tokens)) := by
  have hwritten : tag name ++ ds =
      '{' :: '{' :: (' ' :: (name.toList ++ ' ' :: '}' :: '}' :: ds)) := by
    simp [tag]
  rw [hwritten, scanFrom_of_value _ line hcs (by simp)]
  refine .prepend (map_dataToken line cs) ?_
  rw [scanFrom_word _ _ (isWord_of_isName hname), scanFrom_close, String.ofList_toList]
  exact .prepend (show _ = [.openExpr] from rfl)
    (.prepend (show _ = [.ident name] from rfl)
      (.prepend (show _ = [.closeExpr] from rfl) (hrest _)))

theorem reads_written {m : Tagged} (h : m.IsSound) (hfuel : 2 * m.written.length < fuel) :
    Reads (scanFrom fuel (.text false) line m.written) ((partsOf m).flatMap Part.tokens) := by
  induction m generalizing fuel line with
  | text cs =>
    obtain ⟨fuel, rfl⟩ := Nat.exists_eq_add_of_lt hfuel
    exact reads_text _ line h
  | tagged cs name rest ih =>
    obtain ⟨hcs, hname, hrest⟩ := h
    have hlength : (tag name).length = name.toList.length + 6 := by simp [tag]
    simp only [Tagged.written, List.length_append, hlength] at hfuel
    simp only [Tagged.written, partsOf, List.flatMap_append, List.flatMap_cons]
    obtain ⟨fuel, rfl⟩ : ∃ n, fuel = n + 3 := ⟨fuel - 3, by omega⟩
    exact reads_value fuel line hcs hname fun line => ih _ line hrest (by omega)

end Scan

theorem reads_scan {m : Tagged} (h : m.IsSound) (hend : EndsOnLine m.written) :
    Reads (scan m.source) ((partsOf m).flatMap Part.tokens) := by
  unfold scan
  rw [Tagged.source, String.toList_ofList, withoutLastLineEnd_eq hend]
  exact reads_written _ 1 h (by omega)

end Token

end RenderChain.Jinja
