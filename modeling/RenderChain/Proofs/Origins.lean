/-
  RenderChain/Proofs/Origins.lean
  ===============================
  **Where a template comes from.**

  A loader may have a template in several places: in a table, below some of its
  root folders, in some members of a chain.  One of these places supplies it, and it
  is the first one (`Supplies`).  This is what loading gives, at any depth of chains
  in chains (`found_eq_some_iff`); and every path that is listed is supplied by one
  of the places (`listed_exact`), whatever links there are among the folders.
-/
import RenderChain.Proofs.ListedPaths
import RenderChain.Proofs.Members
import RenderChain.Proofs.Tables

namespace RenderChain

variable {σ : Type}

/-- The file of a path is that below the first root that contains it. -/
theorem Files.find?_eq_some_iff {fs : Files} {roots : List String} {path full : String} :
    fs.find? roots path = some full ↔
      ∃ before root after, roots = before ++ root :: after ∧
        (∀ r ∈ before, ∀ f, Path.below r path = some f → fs.isFile f = false) ∧
        Path.below root path = some full ∧ fs.isFile full = true := by
  unfold find?
  rw [List.find?_filterMap, Option.bind_eq_some_iff]
  constructor
  · rintro ⟨root, hroot, hbelow⟩
    obtain ⟨hhas, before, after, hroots, hbefore⟩ := List.find?_eq_some_iff_append.1 hroot
    refine ⟨before, root, after, hroots, ?_, hbelow, ?_⟩
    · intro r hr f hf
      simpa [hf] using hbefore r hr
    · simpa [hbelow] using hhas
  · rintro ⟨before, root, after, hroots, hbefore, hbelow, hfile⟩
    refine ⟨root, List.find?_eq_some_iff_append.2 ⟨?_, before, after, hroots, ?_⟩, hbelow⟩
    · simpa [hbelow] using hfile
    · intro r hr
      cases hf : Path.below r path with
      | none => rfl
      | some f => simp [hbefore r hr f hf]

namespace Loader

/-- The loader supplies the template: the table has it, the first of the roots that contains
    the path has its file, or the first member of the chain that knows it supplies it. -/
inductive Supplies (w : World σ) (path : String) : Loader σ → Loaded → Prop
  | inline {templates : Keyed String} {content : String} (h : (path, content) ∈ templates) :
      Supplies w path (.inline templates) (.inline content)
  | folders {before after : List String} {root full : String} {extension : Option String}
      (hbefore : ∀ r ∈ before, ∀ f, Path.below r path = some f → w.files.isFile f = false)
      (hbelow : Path.below root path = some full) (hfile : w.files.isFile full = true) :
      Supplies w path (.folders (before ++ root :: after) extension) (.file full)
  | chain {before after : List (Loader σ)} {member : Loader σ} {loaded : Loaded}
      (hbefore : ∀ m ∈ before, m.knows path w = .ok false w)
      (hknows : member.knows path w = .ok true w) (h : Supplies w path member loaded) :
      Supplies w path (.chain (before ++ member :: after)) loaded

/-! ## Knowing and finding -/

theorem foundFirst_eq_findSome? (fs : Files) (path : String) (members : List (Loader σ)) :
    foundFirst fs path members = members.findSome? (found fs path) := by
  induction members with
  | nil => rw [foundFirst, List.findSome?_nil]
  | cons l rest ih =>
    rw [foundFirst, ih, List.findSome?_cons]
    cases l.found fs path <;> rfl

/-- A loader without custom parts knows what it finds. -/
theorem knows_eq_found {l : Loader σ} (hown : l.customs = []) (path : String) (w : World σ) :
    l.knows path w = .ok (l.found w.files path).isSome w := by
  have hcustoms : ∀ own ∈ l.customs, own.KnowsLoads := by simp [hown]
  cases hfound : l.found w.files path with
  | some loaded => exact knows_of_load hcustoms ((load_eq_ok_iff hown).2 ⟨hfound, rfl⟩)
  | none =>
    exact knows_of_not_found hcustoms ((load_eq_error_iff hown).2 ⟨hfound, rfl, rfl⟩) rfl

theorem knows_eq_true_iff_found {l : Loader σ} (hown : l.customs = []) {path : String}
    {w : World σ} : l.knows path w = .ok true w ↔ ∃ loaded, l.found w.files path = some loaded := by
  rw [knows_eq_found hown, ← Option.isSome_iff_exists]
  simp

theorem knows_eq_false_iff_found {l : Loader σ} (hown : l.customs = []) {path : String}
    {w : World σ} : l.knows path w = .ok false w ↔ l.found w.files path = none := by
  rw [knows_eq_found hown]
  simp

/-! ## Supplies -/

/-- The tables in memory of a loader have no path twice. -/
def TablesNodup (l : Loader σ) : Prop :=
  ∀ templates, .inline templates ∈ l.leaves → (Keyed.keys templates).Nodup

mutual

/-- What is found is what is supplied. -/
theorem found_eq_some_iff (w : World σ) (path : String) : (l : Loader σ) → l.customs = [] →
    l.TablesNodup → ∀ loaded, l.found w.files path = some loaded ↔ l.Supplies w path loaded
  | .inline templates, _, htables => by
    intro loaded
    have hnodup := htables templates (by simp [leaves])
    rw [found, Option.map_eq_some_iff]
    constructor
    · rintro ⟨content, hcontent, rfl⟩
      exact .inline ((Keyed.find?_eq_some_iff hnodup).1 hcontent)
    · intro h
      cases h with
      | inline hmem => exact ⟨_, (Keyed.find?_eq_some_iff hnodup).2 hmem, rfl⟩
  | .folders roots extension, _, _ => by
    intro loaded
    rw [found, Option.map_eq_some_iff]
    constructor
    · rintro ⟨full, hfull, rfl⟩
      obtain ⟨before, root, after, rfl, hbefore, hbelow, hfile⟩ := Files.find?_eq_some_iff.1 hfull
      exact .folders hbefore hbelow hfile
    · intro h
      cases h with
      | folders hbefore hbelow hfile =>
        exact ⟨_, Files.find?_eq_some_iff.2 ⟨_, _, _, rfl, hbefore, hbelow, hfile⟩, rfl⟩
  | .chain members, hown, htables => by
    intro loaded
    unfold TablesNodup at htables
    rw [leaves] at htables
    have hmembers := found_eq_some_iff_of_mem w path members hown htables
    rw [found, foundFirst_eq_findSome?, List.findSome?_eq_some_iff]
    constructor
    · rintro ⟨before, member, after, rfl, hmember, hbefore⟩
      obtain ⟨hcustoms, hsupplies⟩ := hmembers member (by simp)
      refine .chain ?_ ((knows_eq_true_iff_found hcustoms).2 ⟨_, hmember⟩) ((hsupplies _).1 hmember)
      intro m hm
      exact (knows_eq_false_iff_found (hmembers m (by simp [hm])).1).2 (hbefore m hm)
    · intro h
      cases h with
      | @chain before after member loaded hbefore _ h =>
        refine ⟨before, member, after, rfl, ((hmembers member (by simp)).2 loaded).2 h, ?_⟩
        intro m hm
        exact (knows_eq_false_iff_found (hmembers m (by simp [hm])).1).1 (hbefore m hm)
  | .custom own, hown, _ => absurd hown (List.cons_ne_nil own [])

theorem found_eq_some_iff_of_mem (w : World σ) (path : String) : (members : List (Loader σ)) →
    customsOfAll members = [] →
    (∀ templates, .inline templates ∈ leavesOfAll members → (Keyed.keys templates).Nodup) →
    ∀ m ∈ members, m.customs = [] ∧
      ∀ loaded, m.found w.files path = some loaded ↔ m.Supplies w path loaded
  | [], _, _, m, hm => by cases hm
  | l :: rest, hown, htables, m, hm => by
    obtain ⟨hl, hrest⟩ := List.append_eq_nil_iff.1 hown
    rw [leavesOfAll] at htables
    rcases List.mem_cons.1 hm with hfirst | hlater
    · rw [hfirst]
      refine ⟨hl, found_eq_some_iff w path l hl ?_⟩
      intro templates hleaf
      exact htables templates (List.mem_append_left _ hleaf)
    · refine found_eq_some_iff_of_mem w path rest hrest ?_ m hlater
      intro templates hleaf
      exact htables templates (List.mem_append_right _ hleaf)

end

theorem nodup_paths {l : Loader σ} (hown : l.customs = []) (htables : l.TablesNodup)
    (w : World σ) : (l.paths w).Nodup := by
  cases l with
  | inline templates =>
    rw [paths]
    exact htables templates (by simp [leaves])
  | folders roots extension =>
    rw [paths]
    exact nodup_distinct _
  | chain members =>
    rw [paths]
    exact nodup_distinct _
  | custom own => exact absurd hown (List.cons_ne_nil own [])

/-- **Listed templates.**  A loader of tables, root folders and chains lists no path twice and
    loads each path that it lists.  Whatever it loads, a listed path or another one, is what
    the first of its places supplies that has it: the first root that contains the file, the
    first member that knows the template. -/
theorem listed_exact {l : Loader σ} (hown : l.customs = []) (htables : l.TablesNodup)
    {w : World σ} (hfiles : w.files.WellFormed) :
    (l.paths w).Nodup ∧
    (∀ path ∈ l.paths w, ∃ loaded, l.load path w = .ok loaded w) ∧
    ∀ path loaded w', l.load path w = .ok loaded w' ↔ l.Supplies w path loaded ∧ w' = w := by
  refine ⟨nodup_paths hown htables w, ?_, ?_⟩
  · intro path hpath
    exact load_of_offered hown hfiles (mem_offered_of_listed l hpath)
  · intro path loaded w'
    rw [load_eq_ok_iff hown, found_eq_some_iff w path l hown htables]

/-- Two root folders: the first one has a link into the second one, and the second one a link
    to itself. -/
def linked : World Unit :=
  ⟨⟨[(["work"], .folder), (["work", "one"], .folder), (["work", "two"], .folder),
      (["work", "one", "a.txt"], .link "../two/b.txt"),
      (["work", "two", "a.txt"], .file "x".toUTF8), (["work", "two", "b.txt"], .file "y".toUTF8),
      (["work", "two", "again"], .link "../two")], ["work"]⟩, [], 0, ()⟩

/-- A table, the two root folders, and another table. -/
def layers : Loader Unit :=
  .chain [.chain [.inline (Keyed.ofList [("m.txt", "z")])], .folders ["one", "two"] (some "txt"),
    .inline [("a.txt", "x")]]

theorem wellFormed_linked : linked.files.WellFormed := ⟨by decide, by decide⟩

theorem filesBelow_linked :
    linked.files.filesBelow "one" = ["a.txt"] ∧
    linked.files.filesBelow "two" = ["a.txt", "b.txt"] := by
  have hone : Text.split '/' "one" = ["one"] := by decide
  have hfirst : Text.split '/' "one/a.txt" = ["one", "a.txt"] := by decide
  have htarget : Text.split '/' "../two/b.txt" = ["..", "two", "b.txt"] := by decide
  have htwo : Text.split '/' "two" = ["two"] := by decide
  have hsecond : Text.split '/' "two/a.txt" = ["two", "a.txt"] := by decide
  have hother : Text.split '/' "two/b.txt" = ["two", "b.txt"] := by decide
  have hagain : Text.split '/' "two/again" = ["two", "again"] := by decide
  have hself : Text.split '/' "../two" = ["..", "two"] := by decide
  constructor <;>
    simp +decide [linked, Files.filesBelow, Files.walk, Files.canonical?, Files.inReach,
      Except.toOption, Files.isFolder, Files.names, Path.pushAll, Path.push, Files.at?,
      Files.locate, Files.locateWith, Files.follow, Files.entry?, List.lookup_cons,
      Files.linkLimit, Entry.isFolder, *]

theorem isFile_linked : linked.files.isFile "one/a.txt" = true := by
  have hmem : "a.txt" ∈ linked.files.filesBelow "one" := by simp [filesBelow_linked]
  obtain ⟨full, hbelow, hfile⟩ := Files.below_of_mem_filesBelow wellFormed_linked hmem
  have hfull : some full = some "one/a.txt" := hbelow.symm.trans (by decide)
  rwa [← Option.some.inj hfull]

theorem tablesNodup_layers : layers.TablesNodup := by
  intro templates hleaf
  have htable : templates = Keyed.ofList [("m.txt", "z")] ∨ templates = [("a.txt", "x")] := by
    simpa [layers, leaves, leavesOfAll] using hleaf
  rcases htable with rfl | rfl <;> decide

theorem paths_layers : layers.paths linked = ["m.txt", "a.txt", "b.txt"] := by
  simp only [layers, paths, pathsOfAll, filesBelow, List.flatMap_cons, List.flatMap_nil,
    filesBelow_linked]
  decide

theorem supplies_layers : layers.Supplies linked "a.txt" (.file "one/a.txt") := by
  have hroots : (folders ["one", "two"] (some "txt")).Supplies linked "a.txt"
      (.file "one/a.txt") := by
    show Supplies linked "a.txt" (.folders ([] ++ "one" :: ["two"]) (some "txt")) _
    exact .folders (by simp) (by decide) isFile_linked
  have hnone : (folders ["one", "two"] (some "txt") : Loader Unit).TablesNodup := by
    simp [TablesNodup, leaves]
  show Supplies linked "a.txt" (.chain ([_] ++ _ :: [_])) _
  refine .chain ?_ ?_ hroots
  · intro m hm
    obtain rfl := List.mem_singleton.1 hm
    exact (knows_eq_false_iff_found rfl).2 rfl
  · exact (knows_eq_true_iff_found rfl).2 ⟨_, (found_eq_some_iff _ _ _ rfl hnone _).2 hroots⟩

/-- The template of the link is loaded, not the file of the other root nor the text of the
    last table. -/
theorem listed_exact_linked :
    layers.customs = [] ∧ layers.TablesNodup ∧ linked.files.WellFormed ∧
    layers.paths linked = ["m.txt", "a.txt", "b.txt"] ∧ (layers.paths linked).Nodup ∧
    (∃ loaded, layers.load "b.txt" linked = .ok loaded linked) ∧
    layers.load "a.txt" linked = .ok (.file "one/a.txt") linked := by
  obtain ⟨hnodup, hlisted, hload⟩ := listed_exact rfl tablesNodup_layers wellFormed_linked
  refine ⟨rfl, tablesNodup_layers, wellFormed_linked, paths_layers, hnodup, ?_, ?_⟩
  · exact hlisted "b.txt" (by simp [paths_layers])
  · exact (hload _ _ _).2 ⟨supplies_layers, rfl⟩

end Loader

end RenderChain
