/-
  RenderChain/Proofs/ExtensionKeys.lean
  =====================================
  **Extension keys, and the paths that have them.**

  A text is an extension key if a path can end in it and no segment of it is
  empty.  `Extension.check` does not look at paths: it tests the text for one
  fault after the other, and two of the four tests are there for the sake of the
  message only (`check_eq_ok_iff`).

  Where there is no other key, a path is matched with a key exactly if it has the
  key among its candidates, and all segments of the key are consumed
  (`longestKey_single`).  So

    * `Extension.check_exact`: the keys that are accepted are those that can be
      matched, behind any name;
    * `Loader.endsWith_exact`: the files that are listed for an extension, be it
      a key or not, are those whose paths are matched with it.
-/
import RenderChain.Extension
import RenderChain.Loader.Registry
import RenderChain.Proofs.PathKeys

namespace RenderChain

/-! ## One key -/

section Single

variable {segments : List String} {key : String}

/-- A candidate is a text whose pieces are the last segments. -/
theorem mem_candidates_iff_split (h : Dotless segments) :
    key ∈ candidates segments ↔ Text.split '.' key <:+ segments := by
  rw [mem_candidates_iff]
  constructor
  · rintro ⟨run, hne, hrun, rfl⟩
    rw [split_dotted hne (h.of_suffix hrun)]
    exact hrun
  · intro hrun
    exact ⟨_, Text.split_ne_nil '.' key, hrun, (Text.join_split '.' key).symm⟩

variable {known : String → Bool}

theorem longestRun_single (hdot : Dotless segments)
    (hknown : ∀ other, known other = true ↔ other = key) (hkey : key ∈ candidates segments) :
    LongestRun known segments (Text.split '.' key) where
  ne_nil := Text.split_ne_nil '.' key
  atEnd := (mem_candidates_iff_split hdot).1 hkey
  isKey := (hknown _).2 (Text.join_split '.' key)
  longest other hne hother hisKey := by
    -- the other run spells the same key, and has no periods to cut it differently
    rw [← (hknown _).1 hisKey, split_dotted hne (hdot.of_suffix hother)]

/-- With one key only, it is found or nothing is. -/
theorem longestKey_single (hdot : Dotless segments)
    (hknown : ∀ other, known other = true ↔ other = key) :
    longestKey known segments =
      if key ∈ candidates segments then some ⟨key, (Text.split '.' key).length⟩ else none := by
  split
  next hkey =>
    have hwhole : dotted (Text.split '.' key) = key := Text.join_split '.' key
    have hfound := longestKey_eq_some_iff.2 ⟨_, longestRun_single hdot hknown hkey, rfl⟩
    rwa [hwhole] at hfound
  next hnone =>
    rw [longestKey_eq_none_iff, endsInKey_iff]
    rintro ⟨other, hother, hisKey⟩
    rw [(hknown other).1 hisKey] at hother
    exact hnone hother

end Single

/-! ## Keys that are accepted -/

namespace Extension

/-- What stands between the periods of a key. -/
def IsSegment (s : String) : Prop := s ≠ "" ∧ '.' ∉ s.toList ∧ '/' ∉ s.toList

instance (s : String) : Decidable (IsSegment s) := inferInstanceAs (Decidable (_ ∧ _ ∧ _))

theorem fault?_eq_none_iff {extension : String} :
    fault? extension = none ↔
      extension ≠ "" ∧ extension.toList.head? ≠ some '.' ∧ '/' ∉ extension.toList ∧
        "" ∉ Text.split '.' extension := by
  unfold fault?
  split_ifs <;> simp_all

/-- A text that is empty or starts with a period has an empty segment. -/
theorem check_eq_ok_iff {extension : String} :
    check extension = .ok () ↔ '/' ∉ extension.toList ∧ "" ∉ Text.split '.' extension := by
  have hfault : check extension = .ok () ↔ fault? extension = none := by
    unfold check
    cases fault? extension <;> simp
  rw [hfault, fault?_eq_none_iff]
  constructor
  · rintro ⟨-, -, hslash, hsegment⟩
    exact ⟨hslash, hsegment⟩
  · rintro ⟨hslash, hsegment⟩
    refine ⟨?_, ?_, hslash, hsegment⟩
    · rintro rfl
      exact hsegment (by decide)
    · intro hperiod
      obtain ⟨rest, hrest⟩ := List.head?_eq_some_iff.1 hperiod
      apply hsegment
      simp [Text.split, hrest, Text.pieces]

/-- Keys are what segments spell. -/
theorem check_dotted {segments : List String} (hne : segments ≠ [])
    (h : ∀ s ∈ segments, IsSegment s) : check (dotted segments) = .ok () := by
  have hdot : Dotless segments := fun s hs => (h s hs).2.1
  rw [check_eq_ok_iff, split_dotted hne hdot]
  constructor
  · rw [dotted, Text.mem_join_iff (by decide)]
    rintro ⟨s, hs, hslash⟩
    exact (h s hs).2.2 hslash
  · intro hempty
    exact (h "" hempty).1 rfl

theorem isSegment_of_check {extension : String} (h : check extension = .ok ()) :
    ∀ s ∈ Text.split '.' extension, IsSegment s := by
  obtain ⟨hslash, hsegment⟩ := check_eq_ok_iff.1 h
  intro s hs
  refine ⟨?_, Text.not_mem_of_mem_split hs, ?_⟩
  · rintro rfl
    exact hsegment hs
  · intro hmem
    exact hslash ((Text.mem_split_iff (by decide)).1 ⟨s, hs, hmem⟩)

/-- A key that is accepted is one of every path that is a name with the key behind it. -/
theorem mem_candidates_of_check {extension : String} (h : check extension = .ok ())
    (front : String) (hne : front ≠ "") (hlast : front.toList.getLast? ≠ some '/') :
    extension ∈ candidates (Suffixes.parse (front ++ "." ++ extension)).segments :=
  mem_candidates_parse_iff.2 ⟨(check_eq_ok_iff.1 h).1, front, hne, hlast, rfl⟩

/-- **The keys that are accepted are the usable ones.**  They are what non-empty segments
    without periods and slashes spell, and they are the candidates of paths that have no empty
    segment.  Behind any name, be it that of a file or a path, such a key is matched if it is
    the only one, and it consumes its own segments and no other. -/
theorem check_exact (extension : String) :
    (check extension = .ok () ↔
      ∃ segments, segments ≠ [] ∧ (∀ s ∈ segments, IsSegment s) ∧ extension = dotted segments) ∧
    (check extension = .ok () ↔
      "" ∉ Text.split '.' extension ∧
        ∃ path, extension ∈ candidates (Suffixes.parse path).segments) ∧
    (check extension = .ok () → ∀ front : String, front ≠ "" →
      front.toList.getLast? ≠ some '/' →
        (Suffixes.parse (front ++ "." ++ extension)).resolve (· = extension) =
            some ⟨extension, (Text.split '.' extension).length⟩ ∧
          Text.split '.' extension <:+
            (Suffixes.parse (front ++ "." ++ extension)).segments) := by
  have hwhole : dotted (Text.split '.' extension) = extension := Text.join_split '.' extension
  refine ⟨⟨?_, ?_⟩, ⟨?_, ?_⟩, ?_⟩
  · intro h
    exact ⟨_, Text.split_ne_nil '.' extension, isSegment_of_check h, hwhole.symm⟩
  · rintro ⟨segments, hne, h, rfl⟩
    exact check_dotted hne h
  · intro h
    exact ⟨(check_eq_ok_iff.1 h).2, _, mem_candidates_of_check h "a" (by decide)
      (by decide)⟩
  · rintro ⟨hsegment, path, hpath⟩
    exact check_eq_ok_iff.2 ⟨(mem_candidates_parse_iff.1 hpath).no_slash, hsegment⟩
  · intro h front hne hlast
    have hkey := mem_candidates_of_check h front hne hlast
    have hdot := Suffixes.dotless_parse (front ++ "." ++ extension)
    refine ⟨?_, (mem_candidates_iff_split hdot).1 hkey⟩
    rw [Suffixes.resolve, longestKey_single hdot (fun _ => decide_eq_true_iff), if_pos hkey]

/-- The name in front of the key may be a period; a key with an empty segment is refused. -/
theorem check_exact_menu :
    check "min.css" = .ok () ∧
      (Suffixes.parse "v1.2/..min.css").resolve (· = "min.css") = some ⟨"min.css", 2⟩ ∧
      check "min..css" ≠ .ok () := by
  have haccepted : check "min.css" = .ok () :=
    (check_exact "min.css").1.2 ⟨["min", "css"], by simp, by decide, by decide⟩
  have hmatched := (check_exact "min.css").2.2 haccepted "v1.2/." (by decide) (by decide)
  refine ⟨haccepted, hmatched.1, ?_⟩
  intro h
  exact ((check_exact "min..css").2.1.1 h).1 (by decide)

end Extension

/-! ## Files that are listed -/

variable {σ : Type}

namespace LoaderIndex

/-- An index in which only one extension has a loader, that of its files. -/
def ofFiles (roots : List String) (extension : String) (default : Option (Loader σ)) :
    LoaderIndex σ :=
  ⟨[(extension, .folders roots (some extension))], default⟩

theorem containsExtension_ofFiles {roots : List String} {extension key : String}
    {default : Option (Loader σ)} :
    (ofFiles roots extension default).containsExtension key = true ↔ key = extension := by
  simp [ofFiles, containsExtension, Keyed.isSome_find?_iff, Keyed.keys]

end LoaderIndex

namespace Loader

theorem endsWith_iff {extension path : String} :
    endsWith extension path = true ↔ extension ∈ candidates (Suffixes.parse path).segments := by
  rw [endsWith, List.isSuffixOf_iff_suffix, mem_candidates_iff_split (Suffixes.dotless_parse path)]

theorem mem_paths_folders_iff {roots : List String} {extension path : String} {w : World σ} :
    path ∈ (folders roots (some extension) : Loader σ).paths w ↔
      (∃ root ∈ roots, path ∈ w.files.filesBelow root) ∧
        extension ∈ candidates (Suffixes.parse path).segments := by
  rw [paths, filesBelow, mem_distinct, List.mem_filter, List.mem_flatMap, ← endsWith_iff]
  rfl

/-- **What is listed for an extension can be matched with it.**  A path ends in the segments of
    an extension exactly if the extension is one of its candidates.  So the loader of the files
    of an extension lists the files whose paths have it as a key: if there is no other key, such
    a path is matched with the extension, and is given to the loader; and a path that is below
    the roots and not listed is not matched. -/
theorem endsWith_exact (extension path : String) :
    (endsWith extension path = true ↔ extension ∈ candidates (Suffixes.parse path).segments) ∧
    ∀ (roots : List String) (w : World σ),
      (path ∈ (folders roots (some extension) : Loader σ).paths w ↔
        (∃ root ∈ roots, path ∈ w.files.filesBelow root) ∧
          (Suffixes.parse path).resolve (· = extension) =
            some ⟨extension, (Text.split '.' extension).length⟩) ∧
      (path ∈ (folders roots (some extension) : Loader σ).paths w →
        ∀ default, (LoaderIndex.ofFiles roots extension default).resolve (Suffixes.parse path) =
          some ((folders roots (some extension) : Loader σ),
            some ⟨extension, (Text.split '.' extension).length⟩)) := by
  have hresolve : ∀ known : String → Bool, (∀ key, known key = true ↔ key = extension) →
      (Suffixes.parse path).resolve known =
        if extension ∈ candidates (Suffixes.parse path).segments then
          some ⟨extension, (Text.split '.' extension).length⟩
        else none :=
    fun known hknown => longestKey_single (Suffixes.dotless_parse path) hknown
  refine ⟨endsWith_iff, fun roots w => ⟨?_, ?_⟩⟩
  · rw [mem_paths_folders_iff, hresolve _ fun _ => decide_eq_true_iff]
    simp
  · intro hlisted default
    rw [LoaderIndex.resolve, hresolve _ fun _ => LoaderIndex.containsExtension_ofFiles,
      if_pos (mem_paths_folders_iff.1 hlisted).2]
    simp [LoaderIndex.ofFiles, Keyed.find?]

/-- A hidden file, a style sheet, and a file in a folder with a period. -/
def sheets : World Unit :=
  ⟨⟨[(["work"], .folder), (["work", "t"], .folder), (["work", "t", "v.css"], .folder),
      (["work", "t", ".css"], .file "x".toUTF8), (["work", "t", "a.css"], .file "y".toUTF8),
      (["work", "t", "v.css", "b"], .file "z".toUTF8)], ["work"]⟩, [], 0, ()⟩

theorem filesBelow_sheets : sheets.files.filesBelow "t" = ["v.css/b", ".css", "a.css"] := by
  have hroot : Text.split '/' "t" = ["t"] := by decide
  have hfolder : Text.split '/' "t/v.css" = ["t", "v.css"] := by decide
  have hinner : Text.split '/' "t/v.css/b" = ["t", "v.css", "b"] := by decide
  have hhidden : Text.split '/' "t/.css" = ["t", ".css"] := by decide
  have hsheet : Text.split '/' "t/a.css" = ["t", "a.css"] := by decide
  simp +decide [sheets, Files.filesBelow, Files.walk, Files.canonical?, Files.inReach,
    Except.toOption, Files.isFolder, Files.names, Path.pushAll, Path.push, Files.at?,
    Files.locate, Files.locateWith, Files.follow, Files.entry?, List.lookup_cons,
    Files.linkLimit, Entry.isFolder, *]

/-- Only the style sheet is listed, and it is given to the loader that lists it. -/
theorem endsWith_exact_sheets :
    "a.css" ∈ (folders ["t"] (some "css")).paths sheets ∧
    ".css" ∉ (folders ["t"] (some "css")).paths sheets ∧
    "v.css/b" ∉ (folders ["t"] (some "css")).paths sheets ∧
    (LoaderIndex.ofFiles ["t"] "css" none : LoaderIndex Unit).resolve (Suffixes.parse "a.css") =
      some (folders ["t"] (some "css"), some ⟨"css", 1⟩) := by
  have hlisted : "a.css" ∈ (folders ["t"] (some "css")).paths sheets :=
    ((endsWith_exact "css" "a.css").2 ["t"] sheets).1.2
      ⟨⟨"t", by simp, by simp [filesBelow_sheets]⟩, by decide⟩
  refine ⟨hlisted, ?_, ?_, ?_⟩
  · intro h
    have hmatched := (((endsWith_exact "css" ".css").2 ["t"] sheets).1.1 h).2
    revert hmatched
    decide
  · intro h
    have hmatched := (((endsWith_exact "css" "v.css/b").2 ["t"] sheets).1.1 h).2
    revert hmatched
    decide
  · exact ((endsWith_exact "css" "a.css").2 ["t"] sheets).2 hlisted none

end Loader

end RenderChain
