/-
  RenderChain/Proofs/FileTree.lean
  ================================
  **Where paths lead in a tree of files.**

  Following a path is a walk from folder to folder.  In a well-formed tree, where
  everything has a folder above it and names are proper names, the walk is never
  lost: each step starts in a folder, and what a path leads to is there and is no
  link (`isSettled_of_locate`).  So a path that is located and is no folder is a
  file, and the paths that a listing gives are those of files (`isFile_of_mem_walk`).

  All trees are well formed that writing and removing files, linking and making
  folders can make (`Built.wellFormed`).
-/
import RenderChain.Files.Edit
import RenderChain.Files.Walk
import RenderChain.Proofs.Action
import RenderChain.Proofs.Paths

namespace RenderChain.Files

variable {fs : Files}

/-! ## Well-formed trees -/

/-- A text that can be the name of an entry. -/
structure IsProper (name : String) : Prop extends Path.IsName name where
  ne_above : name ≠ ".."

instance (name : String) : Decidable (IsProper name) :=
  decidable_of_iff (Path.IsName name ∧ name ≠ "..")
    ⟨fun ⟨hname, habove⟩ => ⟨hname, habove⟩, fun h => ⟨h.toIsName, h.ne_above⟩⟩

/-- Everything has a folder above it, and everything but the top has a proper name. -/
structure WellFormed (fs : Files) : Prop where
  proper : ∀ e ∈ fs.entries, ∀ name ∈ e.1, IsProper name
  above : ∀ e ∈ fs.entries, fs.isFolderAt e.1.dropLast = true

/-- Something is at the location, and it is no link. -/
def IsSettled (fs : Files) (at_ : Location) : Prop :=
  ∃ entry, fs.entry? at_ = some entry ∧ ∀ target, entry ≠ .link target

theorem isFolderAt_iff {at_ : Location} :
    fs.isFolderAt at_ = true ↔ fs.entry? at_ = some .folder := by
  unfold isFolderAt
  cases fs.entry? at_ with
  | none => simp
  | some entry => cases entry <;> simp [Entry.isFolder]

theorem isSettled_of_isFolderAt {at_ : Location} (h : fs.isFolderAt at_ = true) :
    fs.IsSettled at_ := by
  refine ⟨.folder, isFolderAt_iff.1 h, ?_⟩
  intro target hlink
  cases hlink

/-- What is settled and is no folder is a file. -/
theorem IsSettled.isFile {at_ : Location} (h : fs.IsSettled at_)
    (hfolder : ¬ fs.isFolderAt at_ = true) : (fs.entry? at_).any Entry.isFile = true := by
  obtain ⟨entry, hentry, hlink⟩ := h
  cases entry with
  | folder => exact absurd (isFolderAt_iff.2 hentry) hfolder
  | file | unreadable => rw [hentry]; rfl
  | link target => exact absurd rfl (hlink target)

theorem WellFormed.isFolderAt_above (h : fs.WellFormed) {at_ : Location} {entry : Entry}
    (hentry : fs.entry? at_ = some entry) : fs.isFolderAt at_.dropLast = true := by
  unfold entry? at hentry
  split at hentry
  next htop =>
    subst htop
    rfl
  next => exact h.above _ (mem_of_lookup hentry)

/-! ## Following names -/

section Follow

variable {mayBeNew : Bool} {links : Nat} {at_ : Location} {name : String} {rest : List String}

theorem follow_nil : fs.follow mayBeNew links at_ [] = .ok at_ := by
  rw [follow]

/-- From a folder, a proper name leads to the entry of that name, if it is no link. -/
theorem follow_cons (hfolder : fs.isFolderAt at_ = true) (hname : IsProper name)
    (hlength : name.utf8ByteSize ≤ longestName) (hsettled : fs.IsSettled (at_ ++ [name])) :
    fs.follow mayBeNew links at_ (name :: rest) =
      fs.follow mayBeNew links (at_ ++ [name]) rest := by
  obtain ⟨entry, hentry, hlink⟩ := hsettled
  rw [follow, if_neg (not_not_intro hfolder),
    if_neg (not_or_intro hname.ne_empty hname.ne_here), if_neg hname.ne_above,
    if_neg (Nat.not_lt_of_le hlength), hentry]
  cases entry with
  | folder | file | unreadable => rfl
  | link target => exact absurd rfl (hlink target)

/-- What names can lead to, new names included: something settled, or a place for something
    new in a folder. -/
inductive Reached (fs : Files) (mayBeNew : Bool) : Location → Prop
  | settled {at_ : Location} (h : fs.IsSettled at_) : Reached fs mayBeNew at_
  | place {folder : Location} {name : String} (hnew : mayBeNew = true)
      (hfolder : fs.isFolderAt folder = true) (hname : IsProper name)
      (hnone : fs.entry? (folder ++ [name]) = none) : Reached fs mayBeNew (folder ++ [name])

/-- Names lead to something settled, if they start there; only the last may be new. -/
theorem reached_of_follow (h : fs.WellFormed) {todo : List String} {found : Location}
    (hstart : todo = [] → fs.IsSettled at_) (htodo : ∀ name ∈ todo, '/' ∉ name.toList)
    (hfound : fs.follow mayBeNew links at_ todo = .ok found) : fs.Reached mayBeNew found := by
  -- each name is followed from a folder, so only the end of the names needs the start
  fun_induction fs.follow mayBeNew links at_ todo with
  | case1 links at_ =>
    cases hfound
    exact .settled (hstart rfl)
  | case3 links at_ name rest hfolder hskip ih =>
    exact ih (fun _ => isSettled_of_isFolderAt (not_not.1 hfolder))
      (fun other hother => htodo other (List.mem_cons_of_mem _ hother)) hfound
  | case4 links at_ rest hfolder hskip ih =>
    have habove := h.isFolderAt_above (isFolderAt_iff.1 (not_not.1 hfolder))
    exact ih (fun _ => isSettled_of_isFolderAt habove)
      (fun other hother => htodo other (List.mem_cons_of_mem _ hother)) hfound
  | case6 links at_ name rest hfolder hskip habove hlength hnone hnew =>
    cases hfound
    have hname := not_or.1 hskip
    exact .place hnew.1 (not_not.1 hfolder)
      ⟨⟨hname.1, hname.2, htodo name List.mem_cons_self⟩, habove⟩ hnone
  | case9 at_ name rest hfolder hskip habove hlength target hentry links ih =>
    refine ih ?_ ?_ hfound
    · intro hnil
      have hcut := List.append_eq_nil_iff.1 hnil
      exact absurd (List.map_eq_nil_iff.1 hcut.1) (Text.pieces_ne_nil _ _)
    · intro other hother
      rcases List.mem_append.1 hother with hpiece | hrest
      · exact Text.not_mem_of_mem_split hpiece
      · exact htodo other (List.mem_cons_of_mem _ hrest)
  | case10 links at_ name rest hfolder hskip habove hlength entry hlink hentry ih =>
    exact ih (fun _ => ⟨entry, hentry, hlink⟩)
      (fun other hother => htodo other (List.mem_cons_of_mem _ hother)) hfound
  | case2 | case5 | case7 | case8 => cases hfound

theorem reached_of_locateWith (h : fs.WellFormed) {path : String} {found : Location}
    (hfound : fs.locateWith mayBeNew path = .ok found) : fs.Reached mayBeNew found := by
  unfold locateWith at hfound
  split at hfound
  · cases hfound
  · split at hfound
    · cases hfound
    · split at hfound
      · cases hfound
      · refine reached_of_follow h ?_ (fun name => Text.not_mem_of_mem_split) hfound
        intro hnil
        exact absurd (List.map_eq_nil_iff.1 hnil) (Text.pieces_ne_nil _ _)

/-- What a path leads to is there and is no link. -/
theorem isSettled_of_locate (h : fs.WellFormed) {path : String} {found : Location}
    (hfound : fs.locate path = .ok found) : fs.IsSettled found := by
  cases reached_of_locateWith h hfound with
  | settled hsettled => exact hsettled
  | place hnew => cases hnew

end Follow

/-! ## Listings -/

theorem isProper_of_mem_names (h : fs.WellFormed) {at_ : Location} {name : String}
    (hname : name ∈ fs.names at_) : IsProper name := by
  obtain ⟨e, he, hlast⟩ := List.mem_filterMap.1 hname
  split at hlast
  · exact h.proper e he name (List.mem_of_getLast? hlast)
  · cases hlast

/-- The names that a walk gives are proper names and lead to files. -/
theorem isFile_of_mem_walk (h : fs.WellFormed) {root : String} {seen : List Location}
    {pending : List (List String)} (hpending : ∀ names ∈ pending, ∀ name ∈ names, IsProper name)
    {names : List String} (hmem : names ∈ fs.walk root seen pending) :
    (∀ name ∈ names, IsProper name) ∧ fs.isFile (Path.pushAll root names) = true := by
  fun_induction fs.walk root seen pending with
  | case1 => cases hmem
  | case2 seen first rest fault hlocate ih =>
    exact ih (fun other hother => hpending other (List.mem_cons_of_mem _ hother)) hmem
  | case3 seen first rest at_ hlocate hfolder hnew ih =>
    refine ih ?_ hmem
    intro other hother
    rcases List.mem_append.1 hother with hbelow | hrest
    · obtain ⟨name, hname, rfl⟩ := List.mem_map.1 hbelow
      intro part hpart
      rcases List.mem_append.1 hpart with hfirst | hlast
      · exact hpending first List.mem_cons_self part hfirst
      · rw [List.mem_singleton.1 hlast]
        exact isProper_of_mem_names h hname
    · exact hpending other (List.mem_cons_of_mem _ hrest)
  | case4 seen first rest at_ hlocate hfolder hold ih =>
    exact ih (fun other hother => hpending other (List.mem_cons_of_mem _ hother)) hmem
  | case5 seen first rest at_ hlocate hfolder ih =>
    rcases List.mem_cons.1 hmem with rfl | hmem
    · refine ⟨hpending names List.mem_cons_self, ?_⟩
      unfold isFile at?
      rw [hlocate]
      exact (isSettled_of_locate h hlocate).isFile hfolder
    · exact ih (fun other hother => hpending other (List.mem_cons_of_mem _ hother)) hmem

/-- A listed path leads to a file below its root. -/
theorem below_of_mem_filesBelow (h : fs.WellFormed) {root path : String}
    (hmem : path ∈ fs.filesBelow root) :
    ∃ full, Path.below root path = some full ∧ fs.isFile full = true := by
  unfold filesBelow at hmem
  split at hmem
  · obtain ⟨names, hnames, rfl⟩ := List.mem_map.1 hmem
    obtain ⟨hproper, hfile⟩ := isFile_of_mem_walk h (by simp) hnames
    have hcomponents := Path.components_join fun name hname => (hproper name hname).toIsName
    refine ⟨_, Path.below_eq_some_iff.2 ⟨?_, rfl⟩, ?_⟩
    · rw [hcomponents]
      intro habove
      exact (hproper _ habove).ne_above rfl
    · rw [hcomponents]
      exact hfile
  · cases hmem

/-! ## Changes -/

theorem lookup_map_of_ne {at_ loc : Location} (h : loc ≠ at_) (entry : Entry)
    (entries : List (Location × Entry)) :
    (entries.map fun e => if e.1 = at_ then (at_, entry) else e).lookup loc =
      entries.lookup loc := by
  induction entries with
  | nil => rfl
  | cons e rest ih =>
    rw [List.map_cons, List.lookup_cons, List.lookup_cons, ih]
    by_cases he : e.1 = at_
    · rw [if_pos he, he, beq_false_of_ne h]
    · rw [if_neg he]

theorem lookup_filter_of_ne {at_ loc : Location} (h : loc ≠ at_)
    (entries : List (Location × Entry)) :
    (entries.filter (·.1 ≠ at_)).lookup loc = entries.lookup loc := by
  induction entries with
  | nil => rfl
  | cons e rest ih =>
    rw [List.filter_cons]
    split
    · rw [List.lookup_cons, List.lookup_cons, ih]
    next he =>
      have hat : e.1 = at_ := by simpa using he
      rw [ih, List.lookup_cons, hat, beq_false_of_ne h]

theorem entry?_put_of_ne {at_ loc : Location} (h : loc ≠ at_) (entry : Entry) :
    Files.entry? (fs.put at_ entry) loc = fs.entry? loc := by
  have hlookup : (fs.put at_ entry).entries.lookup loc = fs.entries.lookup loc := by
    unfold put
    split
    · exact lookup_map_of_ne h entry fs.entries
    · have hlast : [(at_, entry)].lookup loc = none := by
        rw [List.lookup_cons, beq_false_of_ne h]
        rfl
      rw [List.lookup_append, hlast, Option.or_none]
  unfold entry?
  rw [hlookup]

/-- An entry under a proper name in a folder, where there is no folder, keeps the tree
    well formed. -/
theorem WellFormed.put (h : fs.WellFormed) {folder : Location} {name : String}
    (hfolder : fs.isFolderAt folder = true) (hname : IsProper name)
    (hnone : ¬ fs.isFolderAt (folder ++ [name]) = true) (entry : Entry) :
    (fs.put (folder ++ [name]) entry).WellFormed := by
  have hkept : ∀ {loc}, fs.isFolderAt loc = true →
      (fs.put (folder ++ [name]) entry).isFolderAt loc = true := by
    intro loc hloc
    have hne : loc ≠ folder ++ [name] := fun hequal => hnone (hequal ▸ hloc)
    rw [isFolderAt_iff, entry?_put_of_ne hne]
    exact isFolderAt_iff.1 hloc
  have hentries : ∀ e ∈ (fs.put (folder ++ [name]) entry).entries,
      e.1 = folder ++ [name] ∨ e ∈ fs.entries := by
    intro e he
    unfold Files.put at he
    split at he
    · obtain ⟨old, hold, rfl⟩ := List.mem_map.1 he
      split
      · exact .inl rfl
      · exact .inr hold
    · rcases List.mem_append.1 he with hold | hnew
      · exact .inr hold
      · rw [List.mem_singleton.1 hnew]
        exact .inl rfl
  -- the names above the new entry are those of a folder, so they are proper
  have hproper : ∀ part ∈ folder, IsProper part := by
    intro part hpart
    have hlisted : folder ∈ fs.folders := mem_folders_of_isFolderAt hfolder
    rcases List.mem_cons.1 hlisted with rfl | hbelow
    · cases hpart
    · obtain ⟨e, he, rfl⟩ := List.mem_map.1 hbelow
      exact h.proper e (List.mem_filter.1 he).1 part hpart
  constructor
  · intro e he part hpart
    rcases hentries e he with hnew | hold
    · rw [hnew] at hpart
      rcases List.mem_append.1 hpart with habove | hlast
      · exact hproper part habove
      · rw [List.mem_singleton.1 hlast]
        exact hname
    · exact h.proper e hold part hpart
  · intro e he
    rcases hentries e he with hnew | hold
    · rw [hnew, List.dropLast_concat]
      exact hkept hfolder
    · exact hkept (h.above e hold)

/-- So does removing what is no folder. -/
theorem WellFormed.remove (h : fs.WellFormed) {at_ : Location}
    (hnone : ¬ fs.isFolderAt at_ = true) :
    WellFormed { fs with entries := fs.entries.filter (·.1 ≠ at_) } := by
  constructor
  · intro e he
    exact h.proper e (List.mem_filter.1 he).1
  · intro e he
    have habove := h.above e (List.mem_filter.1 he).1
    have hne : e.1.dropLast ≠ at_ := fun hequal => hnone (hequal ▸ habove)
    rw [isFolderAt_iff] at habove ⊢
    unfold entry? at habove ⊢
    dsimp only
    rw [lookup_filter_of_ne hne]
    exact habove

theorem WellFormed.put_of_reached (h : fs.WellFormed) {mayBeNew : Bool} {at_ : Location}
    (hreached : fs.Reached mayBeNew at_) (hnone : ¬ fs.isFolderAt at_ = true) (entry : Entry) :
    (fs.put at_ entry).WellFormed := by
  cases hreached with
  | place hnew hfolder hname _ => exact h.put hfolder hname hnone entry
  | settled hsettled =>
    obtain ⟨old, hold, -⟩ := hsettled
    rcases List.eq_nil_or_concat at_ with rfl | ⟨folder, name, rfl⟩
    · exact absurd rfl hnone
    · rw [List.concat_eq_append] at *
      have hlookup : fs.entries.lookup (folder ++ [name]) = some old := by
        unfold entry? at hold
        rwa [if_neg (by simp)] at hold
      have hmem := mem_of_lookup hlookup
      have habove := h.above _ hmem
      rw [List.dropLast_concat] at habove
      exact h.put habove (h.proper _ hmem name (by simp)) hnone entry

/-- The place of a path is a name in a folder. -/
theorem isFolderAt_of_place {path name : String} {folder : Location}
    (h : fs.place path = .ok (folder, name)) :
    fs.isFolderAt folder = true ∧ name ≠ "" ∧ '/' ∉ name.toList := by
  unfold place at h
  by_cases hnul : '\x00' ∈ path.toList
  · rw [if_pos hnul] at h
    cases h
  rw [if_neg hnul] at h
  by_cases hlong : pathLimit ≤ path.utf8ByteSize
  · rw [if_pos hlong] at h
    cases h
  rw [if_neg hlong] at h
  cases hnames : (Text.split '/' path).reverse.dropWhile (· = "") with
  | nil =>
    rw [hnames] at h
    dsimp only at h
    split at h <;> cases h
  | cons last above =>
    rw [hnames] at h
    obtain ⟨found, -, h⟩ := except_bind_eq_ok_iff.1 h
    split at h
    · cases h
    next hfolder =>
      split at h
      · cases h
      · cases h
        have hmem : name ∈ (Text.split '/' path).reverse := by
          refine (List.dropWhile_sublist fun x => decide (x = "")).subset ?_
          rw [hnames]
          exact List.mem_cons_self
        have hne := List.head?_dropWhile_not (· = "") (Text.split '/' path).reverse
        rw [hnames] at hne
        exact ⟨not_not.1 hfolder, by simpa using hne,
          Text.not_mem_of_mem_split (List.mem_reverse.1 hmem)⟩

/-! ### Operations -/

section Operations

variable {fs fs' : Files} {path : String}

/-- A new entry at a place keeps the tree well formed. -/
theorem WellFormed.put_new (h : fs.WellFormed) {folder : Location} {name : String}
    (hplace : fs.place path = .ok (folder, name))
    (hnew : ¬ (name = "." ∨ name = ".." ∨ (fs.entry? (folder ++ [name])).isSome = true))
    (entry : Entry) : (fs.put (folder ++ [name]) entry).WellFormed := by
  obtain ⟨hfolder, hne, hslash⟩ := isFolderAt_of_place hplace
  obtain ⟨hhere, habove, hnone⟩ := by simpa only [not_or] using hnew
  refine h.put hfolder ⟨⟨hne, hhere, hslash⟩, habove⟩ ?_ entry
  intro hthere
  rw [isFolderAt_iff.1 hthere] at hnone
  exact hnone rfl

theorem WellFormed.makeFolder (h : fs.WellFormed) (hmade : fs.makeFolder path = .ok fs') :
    fs'.WellFormed := by
  obtain ⟨⟨folder, name⟩, hplace, hmade⟩ := except_bind_eq_ok_iff.1 hmade
  dsimp only at hmade
  split at hmade
  · cases hmade
  next hnew =>
    cases hmade
    exact h.put_new hplace hnew .folder

theorem WellFormed.makeFolder_or (h : fs.WellFormed)
    (hmade : (match fs.makeFolder path with
      | .ok made => .ok made
      | .error fault => if fs.isFolder path then .ok fs else .error fault) = Except.ok fs') :
    fs'.WellFormed := by
  cases hfolder : fs.makeFolder path with
  | ok made =>
    rw [hfolder] at hmade
    cases hmade
    exact h.makeFolder hfolder
  | error fault =>
    rw [hfolder] at hmade
    dsimp only at hmade
    split at hmade
    · cases hmade
      exact h
    · cases hmade

theorem WellFormed.makeFolderBelow (h : fs.WellFormed) {above : List String}
    (hmade : fs.makeFolderBelow path above = .ok fs') : fs'.WellFormed := by
  fun_induction fs.makeFolderBelow path above generalizing fs' with
  | case1 above path made hfolder =>
    cases hmade
    exact h.makeFolder hfolder
  | case3 path hmissing above =>
    obtain ⟨fs₁, habove, hmade⟩ := except_bind_eq_ok_iff.1 hmade
    cases habove
    exact h.makeFolder_or hmade
  | case4 path hmissing parent above last hne =>
    rename_i ih
    obtain ⟨fs₁, habove, hmade⟩ := except_bind_eq_ok_iff.1 hmade
    exact (ih habove).makeFolder_or hmade
  | case5 =>
    cases hmade
    exact h
  | case2 | case6 => cases hmade

theorem WellFormed.makeFolders (h : fs.WellFormed) (hmade : fs.makeFolders path = .ok fs') :
    fs'.WellFormed := by
  unfold Files.makeFolders at hmade
  split at hmade
  · cases hmade
    exact h
  · exact h.makeFolderBelow hmade

theorem WellFormed.makeAbove (h : fs.WellFormed) (hmade : fs.makeAbove path = .ok fs') :
    fs'.WellFormed := by
  unfold Files.makeAbove at hmade
  cases hancestors : Path.ancestors path with
  | nil =>
    rw [hancestors] at hmade
    cases hmade
    exact h
  | cons parent rest =>
    rw [hancestors] at hmade
    exact h.makeFolders hmade

theorem WellFormed.writeFile (h : fs.WellFormed) {content : ByteArray}
    (hwritten : fs.writeFile path content = .ok fs') : fs'.WellFormed := by
  obtain ⟨fs₁, habove, hwritten⟩ := except_bind_eq_ok_iff.1 hwritten
  obtain ⟨at_, hlocate, hwritten⟩ := except_bind_eq_ok_iff.1 hwritten
  have h₁ := h.makeAbove habove
  split at hwritten
  · cases hwritten
  next hnone =>
    cases hwritten
    exact h₁.put_of_reached (reached_of_locateWith h₁ hlocate) hnone (.file content)

theorem WellFormed.addLink (h : fs.WellFormed) {target : String}
    (hlinked : fs.addLink path target = .ok fs') : fs'.WellFormed := by
  obtain ⟨fs₁, habove, hlinked⟩ := except_bind_eq_ok_iff.1 hlinked
  obtain ⟨⟨folder, name⟩, hplace, hlinked⟩ := except_bind_eq_ok_iff.1 hlinked
  dsimp only at hlinked
  split at hlinked
  · cases hlinked
  next hnew =>
    cases hlinked
    exact (h.makeAbove habove).put_new hplace hnew (.link target)

theorem WellFormed.removeFile (h : fs.WellFormed) (hremoved : fs.removeFile path = .ok fs') :
    fs'.WellFormed := by
  obtain ⟨⟨folder, name⟩, -, hremoved⟩ := except_bind_eq_ok_iff.1 hremoved
  dsimp only at hremoved
  cases hentry : fs.entry? (folder ++ [name]) with
  | none =>
    rw [hentry] at hremoved
    cases hremoved
  | some entry =>
    have hnone : entry ≠ .folder → ¬ fs.isFolderAt (folder ++ [name]) = true := by
      intro hne hfolder
      rw [isFolderAt_iff, hentry] at hfolder
      exact hne (Option.some.inj hfolder)
    rw [hentry] at hremoved
    cases entry with
    | folder => cases hremoved
    | file | unreadable | link =>
      cases hremoved
      exact h.remove (hnone (by simp))

/-- A tree that has been built from an empty one. -/
inductive Built : Files → Prop
  | empty : Built empty
  | makeFolders {fs fs' : Files} {path : String} (h : Built fs)
      (hmade : fs.makeFolders path = .ok fs') : Built fs'
  | writeFile {fs fs' : Files} {path : String} {content : ByteArray} (h : Built fs)
      (hwritten : fs.writeFile path content = .ok fs') : Built fs'
  | addLink {fs fs' : Files} {path target : String} (h : Built fs)
      (hlinked : fs.addLink path target = .ok fs') : Built fs'
  | removeFile {fs fs' : Files} {path : String} (h : Built fs)
      (hremoved : fs.removeFile path = .ok fs') : Built fs'

end Operations

end RenderChain.Files
