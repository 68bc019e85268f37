/-
  RenderChain/Text/Split.lean
  ===========================
  **Cutting a text at a separator and gluing the pieces back.**

  Paths are cut at `/` and extensions at `.`, and both are glued again to form
  keys.  The two directions are kept on `List Char`, where they are plain
  recursions; `split` and `join` are the same operations on `String`.

  `glue_pieces` says that cutting loses nothing, `pieces_glue` that gluing
  pieces without the separator loses nothing either.
-/
namespace RenderChain.Text

/-- The runs of `cs` between the occurrences of `sep`: one more than there are
    occurrences, so never none. -/
def pieces (sep : Char) : List Char → List (List Char)
  | [] => [[]]
  | c :: rest =>
    if c = sep then [] :: pieces sep rest
    else
      match pieces sep rest with
      | [] => [[c]]
      | p :: ps => (c :: p) :: ps

/-- The pieces one after the other, with `sep` between two neighbours. -/
def glue (sep : Char) : List (List Char) → List Char
  | [] => []
  | [p] => p
  | p :: q :: ps => p ++ sep :: glue sep (q :: ps)

theorem pieces_ne_nil (sep : Char) (cs : List Char) : pieces sep cs ≠ [] := by
  cases cs with
  | nil => simp [pieces]
  | cons c rest =>
    unfold pieces
    split
    · simp
    · split <;> simp

theorem mem_glue_iff {sep c : Char} (hc : c ≠ sep) {ps : List (List Char)} :
    c ∈ glue sep ps ↔ ∃ p ∈ ps, c ∈ p := by
  induction ps with
  | nil => simp [glue]
  | cons q qs ih =>
    cases qs with
    | nil => simp [glue]
    | cons r rs =>
      rw [glue, List.mem_append, List.mem_cons, ih]
      simp [hc]

theorem glue_pieces (sep : Char) (cs : List Char) : glue sep (pieces sep cs) = cs := by
  induction cs with
  | nil => simp [pieces, glue]
  | cons c rest ih =>
    unfold pieces
    split
    next h =>
      subst h
      cases hp : pieces c rest with
      | nil => exact absurd hp (pieces_ne_nil c rest)
      | cons p ps => rw [hp] at ih; simp [glue, ih]
    next =>
      split
      next hp => exact absurd hp (pieces_ne_nil sep rest)
      next p ps hp =>
        rw [hp] at ih
        cases ps with
        | nil => simpa [glue] using ih
        | cons q qs => simpa [glue] using ih

/-- No piece holds the separator. -/
theorem not_mem_of_mem_pieces {sep : Char} {cs p : List Char} (h : p ∈ pieces sep cs) :
    sep ∉ p := by
  induction cs generalizing p with
  | nil => simp only [pieces, List.mem_singleton] at h; simp [h]
  | cons c rest ih =>
    unfold pieces at h
    split at h
    · rcases List.mem_cons.1 h with rfl | h
      · simp
      · exact ih h
    next hc =>
      split at h
      next hp => exact absurd hp (pieces_ne_nil sep rest)
      next q qs hp =>
        rcases List.mem_cons.1 h with rfl | h
        · have : sep ∉ q := ih (by simp [hp])
          simp only [List.mem_cons, not_or]
          exact ⟨fun e => hc e.symm, this⟩
        · exact ih (by simp [hp, h])

theorem pieces_append {sep : Char} {p : List Char} (h : sep ∉ p) (rest : List Char) :
    pieces sep (p ++ sep :: rest) = p :: pieces sep rest := by
  induction p with
  | nil => simp [pieces]
  | cons c p ih =>
    simp only [List.mem_cons, not_or] at h
    have hc : ¬ c = sep := fun e => h.1 e.symm
    simp [pieces, hc, ih h.2]

theorem pieces_of_not_mem {sep : Char} {p : List Char} (h : sep ∉ p) : pieces sep p = [p] := by
  induction p with
  | nil => rfl
  | cons c p ih =>
    simp only [List.mem_cons, not_or] at h
    have hc : ¬ c = sep := fun e => h.1 e.symm
    simp [pieces, hc, ih h.2]

theorem pieces_glue {sep : Char} {ps : List (List Char)} (hne : ps ≠ [])
    (h : ∀ p ∈ ps, sep ∉ p) : pieces sep (glue sep ps) = ps := by
  induction ps with
  | nil => exact absurd rfl hne
  | cons p ps ih =>
    cases ps with
    | nil => simpa [glue] using pieces_of_not_mem (h p (by simp))
    | cons q qs =>
      rw [glue, pieces_append (h p (by simp)), ih (by simp) (fun r hr => h r (by simp [hr]))]

theorem decide_ne_of_not_mem {sep : Char} {cs : List Char} (h : sep ∉ cs) :
    ∀ c ∈ cs, decide (c ≠ sep) = true :=
  fun _ hc => decide_eq_true fun hsame => h (hsame ▸ hc)

theorem takeWhile_of_not_mem {sep : Char} {front : List Char} (h : sep ∉ front)
    (back : List Char) : (front ++ sep :: back).takeWhile (· ≠ sep) = front := by
  rw [List.takeWhile_append_of_pos (decide_ne_of_not_mem h),
    List.takeWhile_cons_of_neg (by simp), List.append_nil]

theorem dropWhile_of_not_mem {sep : Char} {front : List Char} (h : sep ∉ front)
    (back : List Char) : (front ++ sep :: back).dropWhile (· ≠ sep) = sep :: back := by
  have hwhole := List.takeWhile_append_dropWhile (p := (· ≠ sep)) (l := front ++ sep :: back)
  rw [takeWhile_of_not_mem h] at hwhole
  exact List.append_cancel_left hwhole

/-- A text is cut at its first separator in one way only. -/
theorem append_cons_inj {sep : Char} {front front' back back' : List Char} (h : sep ∉ front)
    (h' : sep ∉ front') (hsame : front ++ sep :: back = front' ++ sep :: back') :
    front = front' ∧ back = back' := by
  have hfront : front = front' := by
    rw [← takeWhile_of_not_mem h back, hsame, takeWhile_of_not_mem h']
  rw [hfront] at hsame
  exact ⟨hfront, (List.cons.inj (List.append_cancel_left hsame)).2⟩

/-- `pieces` on a `String`. -/
def split (sep : Char) (s : String) : List String :=
  (pieces sep s.toList).map String.ofList

/-- `glue` on `String`s. -/
def join (sep : Char) (ps : List String) : String :=
  String.ofList (glue sep (ps.map String.toList))

theorem split_ne_nil (sep : Char) (s : String) : split sep s ≠ [] := by
  unfold split
  rw [ne_eq, List.map_eq_nil_iff]
  exact pieces_ne_nil sep s.toList

theorem join_split (sep : Char) (s : String) : join sep (split sep s) = s := by
  simp [join, split, List.map_map, Function.comp_def, glue_pieces]

theorem split_join {sep : Char} {ps : List String} (hne : ps ≠ [])
    (h : ∀ p ∈ ps, sep ∉ p.toList) : split sep (join sep ps) = ps := by
  have hpieces : pieces sep (glue sep (ps.map String.toList)) = ps.map String.toList := by
    refine pieces_glue (by simpa using hne) ?_
    intro cs hcs
    obtain ⟨p, hp, rfl⟩ := List.mem_map.1 hcs
    exact h p hp
  simp [split, join, hpieces, List.map_map, Function.comp_def]

theorem mem_join_iff {sep c : Char} (hc : c ≠ sep) {ps : List String} :
    c ∈ (join sep ps).toList ↔ ∃ p ∈ ps, c ∈ p.toList := by
  unfold join
  rw [String.toList_ofList, mem_glue_iff hc]
  constructor
  · rintro ⟨_, hmem, hcs⟩
    obtain ⟨p, hp, rfl⟩ := List.mem_map.1 hmem
    exact ⟨p, hp, hcs⟩
  · rintro ⟨p, hp, hcs⟩
    exact ⟨p.toList, List.mem_map_of_mem hp, hcs⟩

theorem mem_split_iff {sep c : Char} (hc : c ≠ sep) {s : String} :
    (∃ p ∈ split sep s, c ∈ p.toList) ↔ c ∈ s.toList := by
  rw [← mem_join_iff hc, join_split]

/-- `s` with every occurrence of `sub` replaced by `by_`, from the left and
    without overlap.  An empty `sub` occurs before each character and at the end. -/
def replace (sub by_ : List Char) : List Char → List Char
  | [] => if sub = [] then by_ else []
  | c :: rest =>
    if sub = [] then by_ ++ c :: replace sub by_ rest
    else if sub.isPrefixOf (c :: rest) then by_ ++ replace sub by_ (rest.drop (sub.length - 1))
    else c :: replace sub by_ rest
termination_by cs => cs.length
decreasing_by
  all_goals simp only [List.length_cons, List.length_drop]
  all_goals omega

/-- Whether `sub` occurs somewhere in `cs`. -/
def occurs (sub : List Char) : List Char → Bool
  | [] => sub.isEmpty
  | c :: rest => sub.isPrefixOf (c :: rest) || occurs sub rest

end RenderChain.Text
