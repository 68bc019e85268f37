/-
  RenderChain/Proofs/PathKeys.lean
  ================================
  **Which keys a path ends in.**

  Keys are matched against the segments of a path, and the segments are made by
  cutting: at the last `/`, at the first period after the first character that
  follows it, and at all further periods.  Glued again, the last segments are
  what the path has behind one of these periods, and so a key can be compared
  with the path itself (`HasExtension`).

    * `mem_candidates_parse_iff`: the candidates of a path are the texts that it
      has behind a period, in its last name and not at the start of it;
    * `resolve_parse`: a path is matched if it ends so in a known key, and by the
      longest.
-/
import RenderChain.Proofs.Paths
import RenderChain.Proofs.Suffixes

namespace RenderChain

/-! ## Gluing the last segments -/

namespace Text

theorem length_pieces (sep : Char) (cs : List Char) :
    (pieces sep cs).length = cs.count sep + 1 := by
  induction cs with
  | nil => rfl
  | cons c rest ih =>
    unfold pieces
    by_cases hc : c = sep
    · rw [if_pos hc, List.length_cons, ih, hc, List.count_cons_self]
    · rw [if_neg hc, List.count_cons_of_ne hc, ← ih]
      cases hp : pieces sep rest with
      | nil => exact absurd hp (pieces_ne_nil sep rest)
      | cons p ps => rfl

theorem length_split (sep : Char) (s : String) : (split sep s).length = s.toList.count sep + 1 := by
  unfold split
  rw [List.length_map, length_pieces]

/-- A separator in a text is the first one, or the first one is in front of it. -/
theorem back_eq_or_of_not_mem {sep : Char} {front back front' back' : List Char}
    (h : sep ∉ front) (hsame : front ++ sep :: back = front' ++ sep :: back') :
    back' = back ∨ ∃ gap, back = gap ++ sep :: back' := by
  rcases List.append_eq_append_iff.1 hsame with ⟨gap, -, hgap⟩ | ⟨gap, rfl, hgap⟩
  · cases gap with
    | nil => exact .inl (List.cons.inj hgap).2.symm
    | cons c gap => exact .inr ⟨gap, (List.cons.inj hgap).2⟩
  · cases gap with
    | nil => exact .inl (List.cons.inj hgap).2
    | cons c gap =>
      obtain ⟨rfl, -⟩ := List.cons.inj hgap
      exact absurd (List.mem_append_right _ List.mem_cons_self) h

theorem glue_append {sep : Char} {ps qs : List (List Char)} (hp : ps ≠ []) (hq : qs ≠ []) :
    glue sep (ps ++ qs) = glue sep ps ++ sep :: glue sep qs := by
  induction ps with
  | nil => exact absurd rfl hp
  | cons p ps ih =>
    cases ps with
    | nil =>
      obtain ⟨q, rest, rfl⟩ := List.exists_cons_of_ne_nil hq
      rfl
    | cons p' ps =>
      rw [List.cons_append, List.cons_append, glue, ← List.cons_append, ih (by simp), glue,
        List.append_assoc, List.cons_append]

end Text

theorem dotted_append {run run' : List String} (h : run ≠ []) (h' : run' ≠ []) :
    dotted (run ++ run') = dotted run ++ "." ++ dotted run' := by
  unfold dotted Text.join
  rw [← String.toList_inj, List.map_append, Text.glue_append (by simpa using h) (by simpa using h')]
  simp

theorem length_dotted_le {run run' : List String} (h : run' <:+ run) :
    (dotted run').length ≤ (dotted run).length := by
  obtain ⟨front, rfl⟩ := h
  by_cases hfront : front = []
  · rw [hfront, List.nil_append]
  · by_cases hrun : run' = []
    · rw [hrun]
      exact Nat.zero_le _
    · rw [dotted_append hfront hrun, String.length_append]
      exact Nat.le_add_left _ _

/-! ## Candidates -/

theorem mem_candidates_iff {segments : List String} {key : String} :
    key ∈ candidates segments ↔ ∃ run, run ≠ [] ∧ run <:+ segments ∧ key = dotted run := by
  induction segments with
  | nil =>
    constructor
    · intro h
      cases h
    · rintro ⟨run, hne, hrun, -⟩
      exact absurd (List.suffix_nil.1 hrun) hne
  | cons s rest ih =>
    rw [candidates, List.mem_cons, ih]
    constructor
    · rintro (rfl | ⟨run, hne, hrun, rfl⟩)
      · exact ⟨s :: rest, List.cons_ne_nil s rest, List.suffix_rfl, rfl⟩
      · exact ⟨run, hne, hrun.trans (List.suffix_cons s rest), rfl⟩
    · rintro ⟨run, hne, hrun, rfl⟩
      rcases List.suffix_cons_iff.1 hrun with rfl | hrun
      · exact .inl rfl
      · exact .inr ⟨run, hne, hrun, rfl⟩

theorem endsInKey_iff {known : String → Bool} {segments : List String} :
    EndsInKey known segments ↔ ∃ key ∈ candidates segments, known key = true := by
  constructor
  · rintro ⟨run, hne, hrun, hknown⟩
    exact ⟨dotted run, mem_candidates_iff.2 ⟨run, hne, hrun, rfl⟩, hknown⟩
  · rintro ⟨key, hkey, hknown⟩
    obtain ⟨run, hne, hrun, rfl⟩ := mem_candidates_iff.1 hkey
    exact ⟨run, hne, hrun, hknown⟩

/-- The candidates of the pieces of a text are the text, and what follows its periods. -/
theorem mem_candidates_split_iff {s key : String} :
    key ∈ candidates (Text.split '.' s) ↔ key = s ∨ ∃ front, s = front ++ "." ++ key := by
  have hwhole : dotted (Text.split '.' s) = s := Text.join_split '.' s
  rw [mem_candidates_iff]
  constructor
  · rintro ⟨run, hne, ⟨front, hfront⟩, rfl⟩
    by_cases hnil : front = []
    · rw [hnil, List.nil_append] at hfront
      rw [hfront, hwhole]
      exact .inl rfl
    · refine .inr ⟨dotted front, ?_⟩
      rw [← dotted_append hnil hne, hfront, hwhole]
  · rintro (rfl | ⟨front, rfl⟩)
    · exact ⟨_, Text.split_ne_nil '.' key, List.suffix_rfl, hwhole.symm⟩
    · refine ⟨Text.split '.' key, Text.split_ne_nil '.' key, ⟨Text.split '.' front, ?_⟩,
        (Text.join_split '.' key).symm⟩
      exact (Text.split_of_toList (by simp)).symm

/-! ## Keys of paths -/

namespace Path

/-- The path has the key behind a period that is in its last name and does not start it. -/
structure HasExtension (path key : String) : Prop where
  no_slash : '/' ∉ key.toList
  exists_front : ∃ front, front ≠ "" ∧ front.toList.getLast? ≠ some '/' ∧
    path = front ++ "." ++ key

/-- A text without `/` at the end of a path is at the end of its last name. -/
theorem toList_name_append (front : String) {back : List Char} (h : '/' ∉ back) {path : String}
    (hpath : path.toList = front.toList ++ back) :
    (name path).toList = (name front).toList ++ back := by
  unfold name Suffixes.splitName
  dsimp only
  rw [String.toList_ofList, String.toList_ofList, hpath, List.reverse_append,
    List.takeWhile_append_of_pos (Text.decide_ne_of_not_mem (mt List.mem_reverse.1 h)),
    List.reverse_append, List.reverse_reverse]

theorem name_eq_nil_iff {path : String} :
    (name path).toList = [] ↔ path = "" ∨ path.toList.getLast? = some '/' := by
  have hempty : path = "" ↔ path.toList.reverse = [] := by simp
  rw [hempty, List.getLast?_eq_head?_reverse]
  unfold name Suffixes.splitName
  rw [String.toList_ofList]
  cases path.toList.reverse with
  | nil => simp
  | cons c rest => by_cases hc : c = '/' <;> simp [hc]

/-- The key of a path can be read off its last name. -/
theorem hasExtension_iff {path key : String} :
    HasExtension path key ↔
      ∃ front, front ≠ [] ∧ (name path).toList = front ++ '.' :: key.toList := by
  constructor
  · rintro ⟨hslash, front, hne, hlast, rfl⟩
    refine ⟨(name front).toList, ?_, ?_⟩
    · rw [ne_eq, name_eq_nil_iff, not_or]
      exact ⟨hne, hlast⟩
    · refine toList_name_append front ?_ (by simp)
      rw [List.mem_cons, not_or]
      exact ⟨by decide, hslash⟩
  · rintro ⟨front, hne, hname⟩
    have hparts : ∀ folder : String, path = folder ++ name path → '/' ∉ (name path).toList →
        HasExtension path key := by
      intro folder hpath hslash
      rw [hname, List.mem_append, List.mem_cons, not_or, not_or] at hslash
      refine ⟨hslash.2.2, folder ++ String.ofList front, ?_, ?_, ?_⟩
      · intro hempty
        have hlist := congrArg String.toList hempty
        rw [String.toList_append, String.toList_ofList] at hlist
        exact hne (List.append_eq_nil_iff.1 hlist).2
      · rw [String.toList_append, String.toList_ofList, List.getLast?_append_of_ne_nil _ hne]
        exact fun hlast => hslash.1 (List.mem_of_getLast? hlast)
      · rw [← String.toList_inj, hpath, String.toList_append, hname]
        simp
    rcases exists_name path with ⟨hslash, hwhole⟩ | ⟨folder, hpath, hslash⟩
    · exact hparts "" (by rw [hwhole, String.empty_append]) (by rwa [hwhole])
    · exact hparts (folder ++ "/") hpath hslash

end Path

/-- The segments of a name are the pieces of what follows its first period, if there is one
    behind the first character. -/
theorem Suffixes.segmentsOf_eq (name : List Char) :
    (segmentsOf name = [] ∧ ∀ first rest, name = first :: rest → '.' ∉ rest) ∨
      ∃ first front tail, name = first :: (front ++ '.' :: tail) ∧ '.' ∉ front ∧
        segmentsOf name = Text.split '.' (String.ofList tail) := by
  cases name with
  | nil => exact .inl ⟨rfl, fun first rest h => by cases h⟩
  | cons first rest =>
    unfold segmentsOf
    dsimp only
    by_cases hperiod : '.' ∈ rest
    · obtain ⟨front, tail, rfl, hfront⟩ := List.eq_append_cons_of_mem hperiod
      refine .inr ⟨first, front, tail, rfl, hfront, ?_⟩
      rw [Text.dropWhile_of_not_mem hfront]
      unfold Text.split
      rw [String.toList_ofList]
    · refine .inl ⟨?_, ?_⟩
      · rw [List.dropWhile_eq_nil_iff.2 (Text.decide_ne_of_not_mem hperiod)]
      · rintro first' rest' h
        obtain ⟨rfl, rfl⟩ := List.cons.inj h
        exact hperiod

/-- The candidates of a path are the keys that it has at its end. -/
theorem mem_candidates_parse_iff {path key : String} :
    key ∈ candidates (Suffixes.parse path).segments ↔ Path.HasExtension path key := by
  have hlast : (Suffixes.splitName path.toList).2 = (Path.name path).toList :=
    String.toList_ofList.symm
  rw [Path.hasExtension_iff, Suffixes.segments_parse, hlast]
  rcases Suffixes.segmentsOf_eq (Path.name path).toList with
    ⟨hnone, hname⟩ | ⟨first, front, tail, hname, hfront, hsome⟩
  · rw [hnone]
    constructor
    · intro h
      cases h
    · rintro ⟨front, hne, hsplit⟩
      obtain ⟨first, rest, rfl⟩ := List.exists_cons_of_ne_nil hne
      exact absurd (List.mem_append_right _ List.mem_cons_self) (hname first _ hsplit)
  · rw [hsome, hname, mem_candidates_split_iff]
    constructor
    · rintro (rfl | ⟨back, hback⟩)
      · exact ⟨first :: front, List.cons_ne_nil _ _, by simp⟩
      · refine ⟨first :: (front ++ '.' :: back.toList), List.cons_ne_nil _ _, ?_⟩
        have htail : tail = back.toList ++ '.' :: key.toList := by
          rw [← String.toList_ofList (l := tail), hback]
          simp
        rw [htail]
        simp
    · rintro ⟨front', hne, hsplit⟩
      obtain ⟨first', rest, rfl⟩ := List.exists_cons_of_ne_nil hne
      obtain ⟨rfl, hrest⟩ := List.cons.inj hsplit
      -- the period in front of the key is the first one of the name, or it comes later
      rcases Text.back_eq_or_of_not_mem hfront hrest with hkey | ⟨gap, htail⟩
      · refine .inl ?_
        rw [← hkey, String.ofList_toList]
      · refine .inr ⟨String.ofList gap, ?_⟩
        rw [← String.toList_inj, htail]
        simp

/-- **What a path is matched with.**  A path is matched if a known key stands at its end,
    behind a period that is in the last name of the path and does not start it; the match is
    the longest such key, and covers one segment more than the key has periods. -/
theorem resolve_parse (path : String) (known : String → Bool) :
    (((Suffixes.parse path).resolve known).isSome = true ↔
      ∃ key, known key = true ∧ Path.HasExtension path key) ∧
    ∀ m, (Suffixes.parse path).resolve known = some m →
      known m.key = true ∧ Path.HasExtension path m.key ∧
      (∀ key, known key = true → Path.HasExtension path key → key.length ≤ m.key.length) ∧
      m.consumed = m.key.toList.count '.' + 1 ∧
      m.consumed ≤ (Suffixes.parse path).segments.length := by
  unfold Suffixes.resolve
  constructor
  · rw [Option.isSome_iff_ne_none, ne_eq, longestKey_eq_none_iff, not_not, endsInKey_iff]
    simp only [mem_candidates_parse_iff, and_comm]
  · intro m hm
    obtain ⟨run, hrun, rfl⟩ := exists_longestRun hm
    have hkey := mem_candidates_iff.2 ⟨run, hrun.ne_nil, hrun.atEnd, rfl⟩
    refine ⟨hrun.isKey, mem_candidates_parse_iff.1 hkey, ?_, ?_, hrun.atEnd.length_le⟩
    · intro key hknown hpath
      obtain ⟨other, hne, hother, rfl⟩ :=
        mem_candidates_iff.1 (mem_candidates_parse_iff.2 hpath)
      exact length_dotted_le (List.suffix_of_suffix_length_le hother hrun.atEnd
        (hrun.longest other hne hother hknown))
    · have hdot := (Suffixes.dotless_parse path).of_suffix hrun.atEnd
      rw [← Text.length_split, split_dotted hrun.ne_nil hdot]

/-- A period in a folder and one at the start of the name count as little as a key that
    is not at the end. -/
theorem resolve_parse_menu :
    (Suffixes.parse "v1.2/.menu.min.css").resolve ["css", "min.css", "menu.min.css"].contains =
        some ⟨"min.css", 2⟩ ∧
      Path.HasExtension "v1.2/.menu.min.css" "min.css" ∧
      ¬ Path.HasExtension "v1.2/.menu.min.css" "menu.min.css" := by
  have hfound : (Suffixes.parse "v1.2/.menu.min.css").resolve
      ["css", "min.css", "menu.min.css"].contains = some ⟨"min.css", 2⟩ := by cbv
  obtain ⟨-, hpath, hlongest, -⟩ := (resolve_parse _ _).2 _ hfound
  refine ⟨hfound, hpath, ?_⟩
  intro hmenu
  exact absurd (hlongest "menu.min.css" (by decide) hmenu) (by decide)

end RenderChain
