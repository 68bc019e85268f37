/-
  RenderChain/Proofs/Containment.lean
  ===================================
  **Template paths do not leave the root folders.**

  A template path comes from outside.  The system reads a path as components of four kinds,
  and two of them lead away from the folder that one stands in: the top of the tree, which is
  where a path with a slash in front starts, and the folder above.  Taking the slashes off the
  front leaves `..` as the only way out, and a path with it is refused as a whole
  (`below_eq_joinWithin`).  A name with periods in it, such as `..a`, is a name.

  What is joined is the root as it is written, and the names that are kept (`pushAll_eq_under`).
  So whatever a loader of root folders loads is a file at or below one of them, by its path; a
  link on the way may lead elsewhere.
-/
import RenderChain.Proofs.Origins

namespace RenderChain

namespace Path

variable {root path full : String} {pieces names : List String}

/-! ## The pieces of a path -/

/-- The texts between the slashes of a path; a slash at an end has an empty text behind it. -/
structure Separated (path : String) (pieces : List String) : Prop where
  ne_nil : pieces ≠ []
  no_slash : ∀ piece ∈ pieces, '/' ∉ piece.toList
  join : Text.join '/' pieces = path

theorem separated_iff : Separated path pieces ↔ pieces = Text.split '/' path := by
  constructor
  · intro h
    rw [← h.join, Text.split_join h.ne_nil h.no_slash]
  · rintro rfl
    exact ⟨Text.split_ne_nil _ _, fun _ => Text.not_mem_of_mem_split, Text.join_split _ _⟩

theorem Separated.components (h : Separated path pieces) :
    components path = pieces.filter fun piece => piece ≠ "" && piece ≠ "." := by
  rw [Path.components, separated_iff.1 h]

theorem Separated.above_mem_components (h : Separated path pieces) :
    ".." ∈ Path.components path ↔ ".." ∈ pieces := by
  rw [h.components, List.mem_filter]
  simp

/-! ## Components as the system reads them -/

/-- A step of a path: to the top of the tree, to where one is, to the folder above, or to an
    entry. -/
inductive Component
  | top
  | here
  | above
  | name (text : String)
  deriving DecidableEq, Repr

/-- A piece as a step; empty pieces and `.` inside a path are none. -/
def Component.ofPiece (piece : String) : Option Component :=
  if piece = "" ∨ piece = "." then none
  else if piece = ".." then some .above
  else some (.name piece)

/-- A path as steps.  A slash in front is a step to the top, and a `.` in front is a step. -/
def steps (path : String) : List Component :=
  (if isAbsolute path then [.top]
    else if (Text.split '/' path).head? = some "." then [.here] else []) ++
  (Text.split '/' path).filterMap Component.ofPiece

/-- Takes the steps from a folder, unless one of them may lead out of it. -/
def joinWithin (joined : String) : List Component → Option String
  | [] => some joined
  | .name text :: rest => joinWithin (push joined text) rest
  | .here :: rest => joinWithin joined rest
  | .above :: _ => none
  | .top :: _ => none

/-- The path without the slashes in front of it. -/
def trimmed (path : String) : String := String.ofList (path.toList.dropWhile (· = '/'))

theorem isAbsolute_trimmed (path : String) : isAbsolute (trimmed path) = false := by
  have hhead := List.head?_dropWhile_not (· = '/') path.toList
  unfold isAbsolute trimmed
  rw [String.toList_ofList]
  cases hrest : path.toList.dropWhile (· = '/') with
  | nil => rfl
  | cons c rest =>
    rw [hrest] at hhead
    simpa using hhead

theorem components_trimmed (path : String) : components (trimmed path) = components path := by
  have hchars : ∀ cs : List Char, components (String.ofList (cs.dropWhile (· = '/'))) =
      components (String.ofList cs) := by
    intro cs
    induction cs with
    | nil => rfl
    | cons c rest ih =>
      by_cases hc : c = '/'
      · have hslash : String.ofList (c :: rest) = "" ++ "/" ++ String.ofList rest := by
          simp [hc]
        rw [List.dropWhile_cons_of_pos (by simpa using hc), ih, hslash, components_append,
          components_empty, List.nil_append]
      · rw [List.dropWhile_cons_of_neg (by simpa using hc)]
  simpa [trimmed] using hchars path.toList

/-- Steps are taken one after the other; all but those to names only stay or fail. -/
theorem joinWithin_filterMap (joined : String) (pieces : List String) :
    joinWithin joined (pieces.filterMap Component.ofPiece) =
      if ".." ∈ pieces then none
      else some (pushAll joined (pieces.filter fun piece => piece ≠ "" && piece ≠ ".")) := by
  induction pieces generalizing joined with
  | nil => rfl
  | cons piece rest ih =>
    by_cases hdropped : piece = "" ∨ piece = "."
    · have hne : ".." ≠ piece := by rcases hdropped with rfl | rfl <;> decide
      have hnone : Component.ofPiece piece = none := if_pos hdropped
      have hnot : ¬ (piece ≠ "" && piece ≠ ".") = true := by simpa [imp_iff_not_or] using hdropped
      rw [List.filterMap_cons_none hnone, ih, List.filter_cons, if_neg hnot]
      simp [hne]
    · have hkept : (piece ≠ "" && piece ≠ ".") = true := by simpa [not_or] using hdropped
      by_cases habove : piece = ".."
      · have hup : Component.ofPiece piece = some .above := by rw [habove]; rfl
        rw [List.filterMap_cons_some hup, joinWithin]
        simp [habove]
      · have hname : Component.ofPiece piece = some (.name piece) := by
          rw [Component.ofPiece, if_neg hdropped, if_neg habove]
        rw [List.filterMap_cons_some hname, joinWithin, ih, List.filter_cons, if_pos hkept]
        simp [Ne.symm habove, pushAll]

/-- **The join step by step.** -/
theorem below_eq_joinWithin (root path : String) :
    below root path = joinWithin root (steps (trimmed path)) := by
  have hsteps : joinWithin root (steps (trimmed path)) =
      joinWithin root ((Text.split '/' (trimmed path)).filterMap Component.ofPiece) := by
    rw [steps, isAbsolute_trimmed, if_neg Bool.false_ne_true]
    split <;> simp [joinWithin]
  have hpieces : Separated (trimmed path) (Text.split '/' (trimmed path)) := separated_iff.2 rfl
  rw [hsteps, joinWithin_filterMap, below, ← components_trimmed, hpieces.components]
  simp only [← hpieces.components, hpieces.above_mem_components]

/-! ## The joined path -/

/-- Names behind a root, as a text: a slash stands between two names, and between the root and
    the first of them unless the root is empty or ends in one. -/
def under (root : String) (names : List String) : String :=
  match names with
  | [] => root
  | _ :: _ =>
    if root = "" ∨ root.toList.getLast? = some '/' then root ++ Text.join '/' names
    else root ++ "/" ++ Text.join '/' names

theorem push_eq (folder name : String) :
    push folder name = if folder = "" ∨ folder.toList.getLast? = some '/' then folder ++ name
      else folder ++ "/" ++ name := by
  simp [push]

theorem join_singleton (name : String) : Text.join '/' [name] = name := by
  simp [Text.join, Text.glue]

theorem join_cons_cons (name next : String) (rest : List String) :
    Text.join '/' (name :: next :: rest) = name ++ "/" ++ Text.join '/' (next :: rest) := by
  rw [← String.toList_inj]
  simp [Text.join, Text.glue]

theorem push_append (folder name more : String) :
    push folder (name ++ more) = push folder name ++ more := by
  simp only [push_eq]
  split <;> simp [String.append_assoc]

theorem push_push {name : String} (h : IsName name) (folder next : String) :
    push (push folder name) next = push folder name ++ "/" ++ next := by
  have hne : push folder name ≠ "" := by
    rw [push_eq]
    split <;> simp [h.ne_empty]
  have hslash : (push folder name).toList.getLast? ≠ some '/' := by
    intro hend
    have hchars : name.toList ≠ [] := mt String.toList_eq_nil_iff.1 h.ne_empty
    obtain ⟨last, hlast⟩ := Option.isSome_iff_exists.1 (List.getLast?_isSome.2 hchars)
    have hsame : (push folder name).toList.getLast? = some last := by
      rw [push_eq]
      split <;> simp [List.getLast?_append, List.getLast?_cons, hlast]
    rw [hsame] at hend
    cases hend
    exact h.no_slash (List.mem_of_getLast? hlast)
  rw [push_eq (push folder name), if_neg (not_or_intro hne hslash)]

theorem pushAll_cons {name : String} {rest : List String} (h : ∀ n ∈ name :: rest, IsName n) :
    pushAll root (name :: rest) = push root (Text.join '/' (name :: rest)) := by
  induction rest generalizing root name with
  | nil => rw [join_singleton]; rfl
  | cons next rest ih =>
    have hrest := List.forall_mem_cons.1 h
    calc pushAll root (name :: next :: rest)
        = pushAll (push root name) (next :: rest) := rfl
      _ = push (push root name) (Text.join '/' (next :: rest)) := ih hrest.2
      _ = push root name ++ "/" ++ Text.join '/' (next :: rest) := push_push hrest.1 root _
      _ = push root (Text.join '/' (name :: next :: rest)) := by
        rw [join_cons_cons, push_append, push_append]

/-- Names that are pushed one by one stand behind the root, with slashes between them. -/
theorem pushAll_eq_under (h : ∀ name ∈ names, IsName name) :
    pushAll root names = under root names := by
  cases names with
  | nil => rfl
  | cons name rest => rw [pushAll_cons h, push_eq]; rfl

theorem below_of_separated (h : Separated path pieces) (root : String) :
    (below root path = none ↔ ".." ∈ pieces) ∧
    (".." ∉ pieces → below root path =
      some (under root (pieces.filter fun piece => piece ≠ "" && piece ≠ "."))) := by
  constructor
  · rw [below_eq_none_iff, h.above_mem_components]
  · intro hnot
    rw [below_eq_some_iff, h.above_mem_components, ← h.components]
    exact ⟨hnot, (pushAll_eq_under fun name => isName_of_mem_components).symm⟩

/-- The text is the root or a path below it: names stand behind the root, and none of them
    leads up. -/
def IsWithin (root full : String) : Prop :=
  ∃ names, (∀ name ∈ names, Files.IsProper name) ∧ full = under root names

theorem isWithin_of_below (h : below root path = some full) : IsWithin root full := by
  obtain ⟨hnot, rfl⟩ := below_eq_some_iff.1 h
  refine ⟨components path, ?_, pushAll_eq_under fun name => isName_of_mem_components⟩
  intro name hname
  refine ⟨isName_of_mem_components hname, ?_⟩
  rintro rfl
  exact hnot hname

end Path

theorem Files.find?_eq_none_iff {fs : Files} {roots : List String} {path : String} :
    fs.find? roots path = none ↔
      ∀ root ∈ roots, ∀ full, Path.below root path = some full → fs.isFile full = false := by
  rw [find?, List.find?_eq_none]
  simp only [List.mem_filterMap, forall_exists_index, and_imp, Bool.not_eq_true]
  constructor
  · intro h root hroot full hbelow
    exact h full root hroot hbelow
  · intro h full root hroot hbelow
    exact h root hroot full hbelow

namespace Loader

variable {σ : Type} {path : String} {roots pieces : List String}

theorem load_folders_eq_ok_iff {extension : Option String} {loaded : Loaded} {w w' : World σ} :
    (folders roots extension).load path w = .ok loaded w' ↔
      (∃ full, w.files.find? roots path = some full ∧ loaded = .file full) ∧ w' = w := by
  rw [load_eq_ok_iff rfl, found, Option.map_eq_some_iff]
  simp only [eq_comm]

theorem load_folders_eq_error_iff {extension : Option String} {e : Error} {w w' : World σ} :
    (folders roots extension).load path w = .error e w' ↔
      w.files.find? roots path = none ∧ e = .templateNotFound path ∧ w' = w := by
  rw [load_eq_error_iff rfl, found, Option.map_eq_none_iff]

/-- **Loading stays below the root folders.**  A path is refused exactly if one of its pieces
    is `..`; otherwise it is the root followed by the pieces that name something.  Loading gives
    the file of the first root that has one there, and otherwise finds no template. -/
theorem load_contained (h : Path.Separated path pieces) :
    (∀ root, Path.below root path = Path.joinWithin root (Path.steps (Path.trimmed path)) ∧
      (Path.below root path = none ↔ ".." ∈ pieces) ∧
      (".." ∉ pieces → Path.below root path =
        some (Path.under root (pieces.filter fun piece => piece ≠ "" && piece ≠ ".")))) ∧
    ∀ (roots : List String) (extension : Option String) (w w' : World σ),
      (∀ loaded, (folders roots extension).load path w = .ok loaded w' ↔
        w' = w ∧ ∃ before root after full, roots = before ++ root :: after ∧
          loaded = .file full ∧ Path.below root path = some full ∧ Path.IsWithin root full ∧
          w.files.isFile full = true ∧
          ∀ r ∈ before, ∀ f, Path.below r path = some f → w.files.isFile f = false) ∧
      (∀ e, (folders roots extension).load path w = .error e w' ↔
        w' = w ∧ e = .templateNotFound path ∧
          (".." ∈ pieces ∨ ∀ root ∈ roots, ∀ full, Path.below root path = some full →
            w.files.isFile full = false)) := by
  refine ⟨fun root => ⟨Path.below_eq_joinWithin root path, Path.below_of_separated h root⟩, ?_⟩
  intro roots extension w w'
  constructor
  · intro loaded
    rw [load_folders_eq_ok_iff]
    constructor
    · rintro ⟨⟨full, hfound, rfl⟩, rfl⟩
      obtain ⟨before, root, after, hroots, hbefore, hbelow, hfile⟩ :=
        Files.find?_eq_some_iff.1 hfound
      exact ⟨rfl, before, root, after, full, hroots, rfl, hbelow, Path.isWithin_of_below hbelow,
        hfile, hbefore⟩
    · rintro ⟨rfl, before, root, after, full, hroots, rfl, hbelow, -, hfile, hbefore⟩
      exact ⟨⟨full, Files.find?_eq_some_iff.2
        ⟨before, root, after, hroots, hbefore, hbelow, hfile⟩, rfl⟩, rfl⟩
  · intro e
    rw [load_folders_eq_error_iff, Files.find?_eq_none_iff]
    constructor
    · rintro ⟨hnone, rfl, rfl⟩
      exact ⟨rfl, rfl, .inr hnone⟩
    · rintro ⟨rfl, rfl, habove | hnone⟩
      · refine ⟨?_, rfl, rfl⟩
        intro root _ full hbelow
        rw [((Path.below_of_separated h root).1).2 habove] at hbelow
        cases hbelow
      · exact ⟨hnone, rfl, rfl⟩

/-- A root folder whose files have periods in front and behind. -/
def dotted : World Unit :=
  ⟨⟨[(["work"], .folder), (["work", "r"], .folder), (["work", "r", "a"], .folder),
      (["work", "r", "a", "..b"], .folder),
      (["work", "r", "a", "..b", "c.."], .file "x".toUTF8)], ["work"]⟩, [], 0, ()⟩

theorem isFile_dotted :
    dotted.files.isFile "r/a/..b/c.." = true ∧ dotted.files.isFile "other/a/..b/c.." = false := by
  have hthere : Text.split '/' "r/a/..b/c.." = ["r", "a", "..b", "c.."] := by decide
  have hnot : Text.split '/' "other/a/..b/c.." = ["other", "a", "..b", "c.."] := by decide
  constructor <;>
    simp +decide [dotted, Files.isFile, Files.at?, Files.locate, Files.locateWith, Files.follow,
      Files.entry?, List.lookup_cons, *]

/-- Slashes in front, doubled and at the end, a `.`, and names that begin or end in `..`. -/
theorem load_contained_dotted :
    Path.Separated "//a/./..b//c../" ["", "", "a", ".", "..b", "", "c..", ""] ∧
    Path.below "other/" "//a/./..b//c../" = some "other/a/..b/c.." ∧
    (folders ["other/", "r"] none).load "//a/./..b//c../" dotted =
      .ok (.file "r/a/..b/c..") dotted := by
  have hpieces : Path.Separated "//a/./..b//c../" ["", "", "a", ".", "..b", "", "c..", ""] :=
    ⟨by decide, by decide, by decide⟩
  obtain ⟨hbelow, hload⟩ := load_contained (σ := Unit) hpieces
  have hfirst := (hbelow "other/").2.2 (by decide)
  have hsecond := (hbelow "r").2.2 (by decide)
  refine ⟨hpieces, hfirst.trans (by decide), ?_⟩
  refine ((hload _ _ _ _).1 _).2 ⟨rfl, ["other/"], "r", [], _, rfl, rfl,
    hsecond.trans (by decide), Path.isWithin_of_below (hsecond.trans (by decide)),
    isFile_dotted.1, ?_⟩
  intro r hr full hfull
  rw [List.mem_singleton.1 hr, hfirst] at hfull
  rw [← Option.some.inj hfull]
  exact isFile_dotted.2

end Loader

end RenderChain
