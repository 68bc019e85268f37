/-
  RenderChain/Files/Walk.lean
  ===========================
  **Listing the files below a folder.**

  Links to folders are entered too, and folders may link back to folders above
  them; every folder is entered once, by whichever path meets it first.  Two
  paths meet one folder if they have one canonical form, and a folder whose path
  has none is passed over.

  The paths still to be looked at are kept in a list, so that the walk is one
  loop: each step either drops a path or enters a folder that was never entered
  before, and there are only finitely many of those.
-/
import RenderChain.Files.Basic

namespace RenderChain.Files

/-! ## Canonical forms -/

/-- The path of a location from the top. -/
def absolute (at_ : Location) : String := Path.pushAll "/" at_

/-- Whether the system can be asked for what is at a location. -/
def isInReach (at_ : Location) : Bool := (absolute at_).utf8ByteSize < pathLimit

/-- The tree as far as it can be asked for by absolute paths. -/
def inReach (fs : Files) : Files :=
  { fs with entries := fs.entries.filter fun e => isInReach e.1 }

/-- The canonical form of a path, which is where it leads.  The path is followed
    name by name, and whatever it meets is asked for by its absolute path; so it has
    no canonical form if this gets too long on the way, however short the path is. -/
def canonical? (fs : Files) (path : String) : Option Location := (fs.inReach.locate path).toOption

theorem lookup_filter_location {α : Type} (p : Location → Bool) (entries : List (Location × α))
    (at_ : Location) :
    (entries.filter fun e => p e.1).lookup at_ = if p at_ then entries.lookup at_ else none := by
  induction entries with
  | nil => simp
  | cons e rest ih =>
    obtain ⟨other, found⟩ := e
    by_cases hother : p other = true
    · rw [List.filter_cons, if_pos hother, List.lookup_cons, List.lookup_cons, ih]
      cases hsame : at_ == other with
      | true =>
        obtain rfl := eq_of_beq hsame
        exact (if_pos hother).symm
      | false => rfl
    · rw [List.filter_cons, if_neg hother, ih, List.lookup_cons]
      cases hsame : at_ == other with
      | true =>
        obtain rfl := eq_of_beq hsame
        rw [if_neg hother, if_neg hother]
      | false => rfl

theorem entry?_inReach (fs : Files) (at_ : Location) :
    fs.inReach.entry? at_ = if isInReach at_ then fs.entry? at_ else none := by
  unfold entry?
  by_cases htop : at_ = []
  · rw [if_pos htop, if_pos htop, htop]
    rfl
  · rw [if_neg htop, if_neg htop]
    exact lookup_filter_location isInReach fs.entries at_

theorem entry?_of_inReach {fs : Files} {at_ : Location} {entry : Entry}
    (h : fs.inReach.entry? at_ = some entry) : fs.entry? at_ = some entry := by
  rw [entry?_inReach] at h
  split at h
  · exact h
  · cases h

theorem isFolderAt_of_inReach {fs : Files} {at_ : Location}
    (h : fs.inReach.isFolderAt at_ = true) : fs.isFolderAt at_ = true := by
  obtain ⟨entry, hentry, hfolder⟩ := (Option.any_eq_true _ _).1 h
  exact (Option.any_eq_true _ _).2 ⟨entry, entry?_of_inReach hentry, hfolder⟩

theorem follow_of_inReach {fs : Files} {links : Nat} {at_ found : Location}
    {todo : List String} (h : fs.inReach.follow false links at_ todo = .ok found) :
    fs.follow false links at_ todo = .ok found := by
  fun_induction follow fs.inReach false links at_ todo with
  | case1 links at_ => rw [follow]; exact h
  | case3 links at_ name rest hfolder hstay ih =>
    rw [follow, if_neg (mt (mt isFolderAt_of_inReach) hfolder), if_pos hstay]
    exact ih h
  | case4 links at_ rest hfolder hstay ih =>
    rw [follow, if_neg (mt (mt isFolderAt_of_inReach) hfolder),
      if_neg hstay, if_pos rfl]
    exact ih h
  | case9 at_ name rest hfolder hstay habove hlength target hentry links ih =>
    rw [follow, if_neg (mt (mt isFolderAt_of_inReach) hfolder),
      if_neg hstay, if_neg habove, if_neg hlength, entry?_of_inReach hentry]
    exact ih h
  | case10 links at_ name rest hfolder hstay habove hlength entry hlink hentry ih =>
    rw [follow, if_neg (mt (mt isFolderAt_of_inReach) hfolder),
      if_neg hstay, if_neg habove, if_neg hlength, entry?_of_inReach hentry]
    cases entry with
    | link target => exact absurd rfl (hlink target)
    | folder | file | unreadable => exact ih h
  | case6 links at_ name rest hfolder hstay habove hlength hnone hnew => cases hnew.1
  | case2 | case5 | case7 | case8 => cases h

/-- A path leads to its canonical form. -/
theorem locate_of_canonical? {fs : Files} {path : String} {at_ : Location}
    (h : fs.canonical? path = some at_) : fs.locate path = .ok at_ := by
  unfold canonical? locate locateWith at h
  unfold locate locateWith
  split at h
  · cases h
  next hne =>
    rw [if_neg hne]
    split at h
    · cases h
    next hnul =>
      rw [if_neg hnul]
      split at h
      · cases h
      next hshort =>
        rw [if_neg hshort]
        cases hfollow : fs.inReach.follow false linkLimit
            (if Path.isAbsolute path then [] else fs.here) (Text.split '/' path) with
        | error fault =>
          rw [show fs.inReach.here = fs.here from rfl, hfollow] at h
          cases h
        | ok found =>
          rw [show fs.inReach.here = fs.here from rfl, hfollow] at h
          cases h
          exact follow_of_inReach hfollow

/-! ## Walks -/

/-- The folders that are still to be entered. -/
def unseen (fs : Files) (seen : List Location) : List Location :=
  fs.folders.filter fun at_ => !seen.contains at_

theorem length_unseen_cons_lt {fs : Files} {seen : List Location} {at_ : Location}
    (folder : fs.isFolderAt at_ = true) (new : at_ ∉ seen) :
    (fs.unseen (at_ :: seen)).length < (fs.unseen seen).length := by
  have key : ∀ xs : List Location,
      (xs.filter fun x => !(at_ :: seen).contains x).length ≤
        (xs.filter fun x => !seen.contains x).length ∧
      (at_ ∈ xs → (xs.filter fun x => !(at_ :: seen).contains x).length <
        (xs.filter fun x => !seen.contains x).length) := by
    intro xs
    induction xs with
    | nil => simp
    | cons x xs ih =>
      by_cases hx : x = at_
      · subst hx
        simp only [List.filter_cons, List.contains_eq_mem, List.mem_cons, true_or, decide_true,
          Bool.not_true, Bool.false_eq_true, if_false, new, decide_false, Bool.not_false, if_true,
          List.length_cons]
        have := ih.1
        simp only [List.contains_eq_mem, List.mem_cons] at this
        omega
      · by_cases hs : x ∈ seen
        · simpa [List.filter_cons, hx, hs, Ne.symm hx] using ih
        · simpa [List.filter_cons, hx, hs, Ne.symm hx] using ih
  exact (key fs.folders).2 (mem_folders_of_isFolderAt folder)

/-- The files at the pending paths and below them, each as its names from
    `root`.  `seen` holds the folders that have been entered, which are known by
    their canonical forms. -/
def walk (fs : Files) (root : String) (seen : List Location) (pending : List (List String)) :
    List (List String) :=
  match pending with
  | [] => []
  | names :: rest =>
    match fs.locate (Path.pushAll root names) with
    | .error _ => fs.walk root seen rest
    | .ok at_ =>
      if _folder : fs.isFolderAt at_ = true then
        if _new : fs.canonical? (Path.pushAll root names) = some at_ ∧ at_ ∉ seen then
          fs.walk root (at_ :: seen) ((fs.names at_).map (fun name => names ++ [name]) ++ rest)
        else fs.walk root seen rest
      else names :: fs.walk root seen rest
termination_by ((fs.unseen seen).length, pending.length)
decreasing_by
  · exact Prod.Lex.right _ (by simp)
  · exact Prod.Lex.left _ _ (length_unseen_cons_lt _folder _new.2)
  · exact Prod.Lex.right _ (by simp)
  · exact Prod.Lex.right _ (by simp)

/-- Every file below `root`, as its path from there. -/
def filesBelow (fs : Files) (root : String) : List String :=
  if fs.isFolder root then (fs.walk root [] [[]]).map (Text.join '/' ·) else []

end RenderChain.Files
