/-
  RenderChain/Proofs/Paths.lean
  =============================
  **Paths and the names in them.**

  A path has two readings.  For loading, it is its `components`, in which empty
  pieces and `.` do not count.  For suffixes, it is what stands behind its last
  `/`, whatever that is.  The lemmas here say how components follow the joining
  of paths, and where the two readings meet: in a path that ends in a name, the
  name is the last component (`getLast?_components`).
-/
import Mathlib.Data.List.TakeWhile
import RenderChain.Files.Path
import RenderChain.Suffixes

namespace RenderChain

namespace Text

/-- Cutting at a separator cuts what is on its two sides. -/
theorem pieces_append_cons (sep : Char) (front back : List Char) :
    pieces sep (front ++ sep :: back) = pieces sep front ++ pieces sep back := by
  induction front with
  | nil => simp [pieces]
  | cons c rest ih =>
    rw [List.cons_append]
    by_cases hc : c = sep
    · simp only [pieces, hc, if_true, ih, List.cons_append]
    · simp only [pieces, if_neg hc, ih]
      cases hp : pieces sep rest with
      | nil => exact absurd hp (pieces_ne_nil sep rest)
      | cons p ps => rfl

theorem split_of_toList {sep : Char} {s front back : String}
    (h : s.toList = front.toList ++ sep :: back.toList) :
    split sep s = split sep front ++ split sep back := by
  unfold split
  rw [h, pieces_append_cons, List.map_append]

theorem split_append (front back : String) :
    split '/' (front ++ "/" ++ back) = split '/' front ++ split '/' back :=
  split_of_toList (by simp)

theorem not_mem_of_mem_split {sep : Char} {s piece : String} (h : piece ∈ split sep s) :
    sep ∉ piece.toList := by
  obtain ⟨cs, hcs, rfl⟩ := List.mem_map.1 h
  rw [String.toList_ofList]
  exact not_mem_of_mem_pieces hcs

theorem split_of_not_mem {s : String} (h : '/' ∉ s.toList) : split '/' s = [s] := by
  unfold split
  rw [pieces_of_not_mem h]
  simp

end Text

/-! ## Segments of a last component -/

/-- The segments of a last component. -/
def Suffixes.segmentsOf : List Char → List String
  | [] => []
  | _ :: rest =>
    match rest.dropWhile (· ≠ '.') with
    | [] => []
    | _ :: tail => (Text.pieces '.' tail).map String.ofList

theorem Suffixes.segments_parse (path : String) :
    (Suffixes.parse path).segments = segmentsOf (splitName path.toList).2 := by
  unfold parse
  dsimp only
  cases (splitName path.toList).2 with
  | nil => rfl
  | cons first rest =>
    unfold segmentsOf
    dsimp only
    cases rest.dropWhile (· ≠ '.') <;> rfl

namespace Path

/-! ## Components -/

/-- A text that can be the name of an entry in a folder, or `..`. -/
structure IsName (s : String) : Prop where
  ne_empty : s ≠ ""
  ne_here : s ≠ "."
  no_slash : '/' ∉ s.toList

theorem isName_iff {s : String} : IsName s ↔ s ≠ "" ∧ s ≠ "." ∧ '/' ∉ s.toList :=
  ⟨fun h => ⟨h.ne_empty, h.ne_here, h.no_slash⟩, fun ⟨hempty, hhere, hslash⟩ =>
    ⟨hempty, hhere, hslash⟩⟩

instance (s : String) : Decidable (IsName s) := decidable_of_iff _ isName_iff.symm

theorem isName_of_mem_components {path name : String} (h : name ∈ components path) :
    IsName name := by
  obtain ⟨hmem, hkept⟩ := List.mem_filter.1 h
  simp only [Bool.and_eq_true, decide_eq_true_eq] at hkept
  exact ⟨hkept.1, hkept.2, Text.not_mem_of_mem_split hmem⟩

theorem components_empty : components "" = [] := by decide

theorem components_append (front back : String) :
    components (front ++ "/" ++ back) = components front ++ components back := by
  unfold components
  rw [Text.split_append, List.filter_append]

theorem components_of_isName {name : String} (h : IsName name) : components name = [name] := by
  unfold components
  rw [Text.split_of_not_mem h.no_slash]
  simp [h.ne_empty, h.ne_here]

theorem components_push (folder : String) {name : String} (h : IsName name) :
    components (push folder name) = components folder ++ [name] := by
  unfold push
  split
  next hends =>
    rcases Bool.or_eq_true_iff.1 hends with hempty | hslash
    · obtain rfl : folder = "" := String.isEmpty_iff.1 hempty
      rw [components_empty, String.empty_append, components_of_isName h]
      rfl
    · obtain ⟨front, hfront⟩ := List.getLast?_eq_some_iff.1 (of_decide_eq_true hslash)
      have hfolder : folder = String.ofList front ++ "/" := by
        rw [← String.toList_inj, hfront]
        simp
      rw [hfolder, components_append, components_of_isName h]
      have hlast : String.ofList front ++ "/" = String.ofList front ++ "/" ++ "" :=
        String.append_empty.symm
      rw [hlast, components_append, components_empty, List.append_nil]
  next => rw [components_append, components_of_isName h]

theorem components_pushAll (folder : String) {names : List String}
    (h : ∀ name ∈ names, IsName name) :
    components (pushAll folder names) = components folder ++ names := by
  unfold pushAll
  induction names generalizing folder with
  | nil => simp
  | cons name rest ih =>
    rw [List.foldl_cons, ih _ fun other hother => h other (List.mem_cons_of_mem _ hother),
      components_push folder (h name List.mem_cons_self), List.append_assoc]
    rfl

/-- Names that are joined to a path are its components. -/
theorem components_join {names : List String} (h : ∀ name ∈ names, IsName name) :
    components (Text.join '/' names) = names := by
  by_cases hnil : names = []
  · subst hnil
    exact components_empty
  · unfold components
    rw [Text.split_join hnil fun name hname => (h name hname).no_slash, List.filter_eq_self]
    intro name hname
    simp [(h name hname).ne_empty, (h name hname).ne_here]

/-- What is found below a root has the components of the root and of the path. -/
theorem components_of_below {root path full : String} (h : below root path = some full) :
    components full = components root ++ components path := by
  rw [(below_eq_some_iff.1 h).2]
  exact components_pushAll root fun name => isName_of_mem_components

/-! ## The last name -/

/-- What stands behind the last `/`. -/
def name (path : String) : String := String.ofList (Suffixes.splitName path.toList).2

/-- The path does not end in a `/` or a `.` that loading drops. -/
def EndsInName (path : String) : Prop := IsName (name path)

instance (path : String) : Decidable (EndsInName path) := inferInstanceAs (Decidable (IsName _))

theorem exists_name (path : String) :
    '/' ∉ path.toList ∧ name path = path ∨
      ∃ front, path = front ++ "/" ++ name path ∧ '/' ∉ (name path).toList := by
  by_cases hslash : '/' ∈ path.toList
  · obtain ⟨back, front, hsplit, hback⟩ :=
      List.eq_append_cons_of_mem (List.mem_reverse.2 hslash)
    have hname : (name path).toList = back.reverse := by
      unfold name Suffixes.splitName
      rw [String.toList_ofList, hsplit]
      dsimp only
      rw [Text.takeWhile_of_not_mem hback]
    refine .inr ⟨String.ofList front.reverse, ?_, ?_⟩
    · rw [← String.toList_inj, String.toList_append, String.toList_append, hname,
        String.toList_ofList, ← List.reverse_reverse path.toList, hsplit]
      simp
    · rw [hname]
      simpa using hback
  · refine .inl ⟨hslash, ?_⟩
    have htake : path.toList.reverse.takeWhile (· ≠ '/') = path.toList.reverse := by
      rw [List.takeWhile_eq_self_iff]
      exact Text.decide_ne_of_not_mem (mt List.mem_reverse.1 hslash)
    unfold name Suffixes.splitName
    dsimp only
    rw [htake, List.reverse_reverse, String.ofList_toList]

/-- A path that ends in a name has it as its last component. -/
theorem getLast?_components {path : String} (h : EndsInName path) :
    (components path).getLast? = some (name path) := by
  have hname := components_of_isName h
  rcases exists_name path with ⟨-, hwhole⟩ | ⟨front, hpath, -⟩
  · rw [hwhole] at hname ⊢
    rw [hname]
    rfl
  · have hcomponents := components_append front (name path)
    rw [← hpath, hname] at hcomponents
    rw [hcomponents, List.getLast?_concat]

end Path

end RenderChain
