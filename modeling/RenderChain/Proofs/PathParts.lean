/-
  RenderChain/Proofs/PathParts.lean
  =================================
  **A path is its base and its segments.**

  Nothing is lost when a path is cut: put together again, a period in front of each
  segment, base and segments are the path.  Nor is there a choice.  Segments have no
  period, and the last name of the base has none behind its first character, so they
  meet at the first period of the last name that does not start it.

    * `parse_of_no_period`, `parse_of_period`: where the last name is cut;
    * `parse_path`: the parts of a path that is put together are found again;
    * `exists_isCut`: every path can be taken apart;
    * `parse_eq_iff`: so the parts of a path are the only ones that it can be taken
      apart into.
-/
import RenderChain.Proofs.Paths
import RenderChain.Proofs.Suffixes

namespace RenderChain

/-- The name is the last component of the path: all that stands behind its last `/`. -/
structure Path.HasName (path name : String) : Prop where
  no_slash : '/' ∉ name.toList
  exists_folder : ∃ folder, path = folder ++ name ∧
    (folder = "" ∨ folder.toList.getLast? = some '/')

theorem Path.exists_hasName (path : String) : ∃ name, HasName path name := by
  rcases exists_name path with ⟨hslash, -⟩ | ⟨front, hpath, hslash⟩
  · exact ⟨path, hslash, "", String.empty_append.symm, .inl rfl⟩
  · exact ⟨name path, hslash, front ++ "/", hpath, .inr (by simp)⟩

namespace Suffixes

/-! ## Paths put together -/

/-- The base with the segments behind it, a period in front of each. -/
def path (s : Suffixes) : String :=
  s.segments.foldl (fun front segment => front ++ "." ++ segment) s.base

/-- A base and segments that meet where a path is cut. -/
structure IsCut (s : Suffixes) : Prop where
  no_period : Dotless s.segments
  no_slash : ∀ segment ∈ s.segments, '/' ∉ segment.toList
  /-- The last name of the base has no period, unless it starts with it, and it is not
      empty if there are segments. -/
  exists_name : ∃ name, Path.HasName s.base name ∧ '.' ∉ name.toList.tail ∧
    (s.segments ≠ [] → name ≠ "")

theorem path_of_ne_nil {segments : List String} (base : String) (h : segments ≠ []) :
    path ⟨base, segments⟩ = base ++ "." ++ dotted segments := by
  unfold path
  dsimp only
  induction segments generalizing base with
  | nil => exact absurd rfl h
  | cons segment rest ih =>
    rw [List.foldl_cons]
    cases rest with
    | nil => simp [dotted, Text.join, Text.glue]
    | cons next rest =>
      rw [ih _ (List.cons_ne_nil next rest), ← String.toList_inj]
      simp [dotted, Text.join, Text.glue]

theorem path_split (base tail : String) :
    path ⟨base, Text.split '.' tail⟩ = base ++ "." ++ tail := by
  rw [path_of_ne_nil base (Text.split_ne_nil '.' tail)]
  unfold dotted
  rw [Text.join_split]

/-! ## The last name -/

theorem splitName_append {folder name : List Char}
    (hfolder : folder = [] ∨ folder.getLast? = some '/') (hname : '/' ∉ name) :
    splitName (folder ++ name) = (folder, name) := by
  have hback := Text.decide_ne_of_not_mem (mt List.mem_reverse.1 hname)
  unfold splitName
  rw [List.reverse_append, List.dropWhile_append_of_pos hback, List.takeWhile_append_of_pos hback]
  rcases hfolder with rfl | hlast
  · simp
  · obtain ⟨front, rfl⟩ := List.getLast?_eq_some_iff.1 hlast
    simp

variable {base name tail : String}

/-- What follows a path belongs to its last name, if there is no `/` in it. -/
theorem splitName_of_hasName (h : Path.HasName base name) :
    ∃ folder, base = folder ++ name ∧ ∀ back, '/' ∉ back →
      splitName (base.toList ++ back) = (folder.toList, name.toList ++ back) := by
  obtain ⟨hslash, folder, rfl, hfolder⟩ := h
  refine ⟨folder, rfl, fun back hback => ?_⟩
  rw [String.toList_append, List.append_assoc]
  refine splitName_append (hfolder.imp_left fun hempty => String.toList_eq_nil_iff.2 hempty) ?_
  rw [List.mem_append, not_or]
  exact ⟨hslash, hback⟩

/-! ## Cutting -/

theorem parse_of_no_period (hname : Path.HasName base name) (h : '.' ∉ name.toList.tail) :
    parse base = ⟨base, []⟩ := by
  obtain ⟨folder, -, hsplit⟩ := splitName_of_hasName hname
  have hwhole := hsplit [] List.not_mem_nil
  rw [List.append_nil, List.append_nil] at hwhole
  unfold parse
  rw [hwhole]
  dsimp only
  cases hcs : name.toList with
  | nil => rfl
  | cons first rest =>
    rw [hcs, List.tail_cons] at h
    have hdrop : rest.dropWhile (· ≠ '.') = [] :=
      List.dropWhile_eq_nil_iff.2 (Text.decide_ne_of_not_mem h)
    dsimp only
    rw [hdrop]

/-- The cut is at the first period behind the first character of the last name. -/
theorem parse_of_period (hname : Path.HasName base name) (hne : name ≠ "")
    (h : '.' ∉ name.toList.tail) (htail : '/' ∉ tail.toList) :
    parse (base ++ "." ++ tail) = ⟨base, Text.split '.' tail⟩ := by
  obtain ⟨folder, hbase, hsplit⟩ := splitName_of_hasName hname
  obtain ⟨first, rest, hcs⟩ : ∃ first rest, name.toList = first :: rest :=
    List.exists_cons_of_ne_nil fun hnil => hne (String.toList_eq_nil_iff.1 hnil)
  rw [hcs] at hsplit
  rw [hcs, List.tail_cons] at h
  have hwhole : (base ++ "." ++ tail).toList = base.toList ++ '.' :: tail.toList := by simp
  unfold parse
  rw [hwhole, hsplit _ (by simp [htail]), List.cons_append]
  dsimp only
  rw [Text.dropWhile_of_not_mem h, Text.takeWhile_of_not_mem h]
  have hfront : String.ofList (folder.toList ++ first :: rest) = base := by
    rw [hbase, ← hcs, ← String.toList_append, String.ofList_toList]
  exact congrArg (Suffixes.mk · _) hfront

theorem parse_path {s : Suffixes} (h : s.IsCut) : parse s.path = s := by
  obtain ⟨base, segments⟩ := s
  obtain ⟨hperiod, hslash, name, hname, hlast, hne⟩ := h
  by_cases hnil : segments = []
  · subst hnil
    exact parse_of_no_period hname hlast
  · have hkey : '/' ∉ (dotted segments).toList := by
      unfold dotted
      rw [Text.mem_join_iff (by decide)]
      rintro ⟨segment, hsegment, hmem⟩
      exact hslash segment hsegment hmem
    rw [path_of_ne_nil base hnil, parse_of_period hname (hne hnil) hlast hkey,
      split_dotted hnil hperiod]

/-! ## Taking apart -/

theorem isCut_nil (hname : Path.HasName base name) (h : '.' ∉ name.toList.tail) :
    IsCut ⟨base, []⟩ where
  no_period := List.forall_mem_nil _
  no_slash := List.forall_mem_nil _
  exists_name := ⟨name, hname, h, fun hnil => absurd rfl hnil⟩

theorem isCut_split (hname : Path.HasName base name) (hne : name ≠ "")
    (h : '.' ∉ name.toList.tail) (htail : '/' ∉ tail.toList) :
    IsCut ⟨base, Text.split '.' tail⟩ where
  no_period segment hsegment := Text.not_mem_of_mem_split hsegment
  no_slash segment hsegment hmem :=
    htail ((Text.mem_split_iff (by decide)).1 ⟨segment, hsegment, hmem⟩)
  exists_name := ⟨name, hname, h, fun _ => hne⟩

/-- A name with a period behind its first character is cut at the first one. -/
theorem exists_period (h : '.' ∈ name.toList.tail) :
    ∃ front tail : String, name = front ++ "." ++ tail ∧ front ≠ "" ∧ '.' ∉ front.toList.tail := by
  obtain ⟨front, tail, htail, hfront⟩ := List.eq_append_cons_of_mem h
  cases hcs : name.toList with
  | nil =>
    rw [hcs] at h
    cases h
  | cons first rest =>
    rw [hcs, List.tail_cons] at htail
    refine ⟨String.ofList (first :: front), String.ofList tail, ?_, ?_, ?_⟩
    · rw [← String.toList_inj, hcs, htail]
      simp
    · rw [ne_eq, ← String.toList_eq_nil_iff, String.toList_ofList]
      exact List.cons_ne_nil first front
    · rwa [String.toList_ofList]

theorem exists_isCut (path : String) : ∃ s : Suffixes, s.IsCut ∧ s.path = path := by
  obtain ⟨name, hname⟩ := Path.exists_hasName path
  by_cases hperiod : '.' ∈ name.toList.tail
  · obtain ⟨front, tail, rfl, hne, hfront⟩ := exists_period hperiod
    obtain ⟨hslash, folder, rfl, hfolder⟩ := hname
    simp only [String.toList_append, List.mem_append, not_or] at hslash
    refine ⟨⟨folder ++ front, Text.split '.' tail⟩,
      isCut_split ⟨hslash.1.1, folder, rfl, hfolder⟩ hne hfront hslash.2, ?_⟩
    rw [path_split]
    simp only [String.append_assoc]
  · exact ⟨⟨path, []⟩, isCut_nil hname hperiod, rfl⟩

/-- **A path is cut in the only way there is.**  Put together again, the base and the segments
    of a path are the path; no segment has a period or a slash, and the last name of the base
    has no period behind its first character and is not empty if there are segments.  And a
    base and segments of which all this holds are those of the path that they make up. -/
theorem parse_eq_iff {path : String} {s : Suffixes} :
    parse path = s ↔ s.IsCut ∧ s.path = path := by
  constructor
  · rintro rfl
    obtain ⟨s, hcut, rfl⟩ := exists_isCut path
    rw [parse_path hcut]
    exact ⟨hcut, rfl⟩
  · rintro ⟨hcut, rfl⟩
    exact parse_path hcut

/-- The period that starts a name stays in the base, and one at the end starts an empty segment. -/
example : parse "v1.2/..é.css." = ⟨"v1.2/.", ["é", "css", ""]⟩ := by decide

end Suffixes

end RenderChain
